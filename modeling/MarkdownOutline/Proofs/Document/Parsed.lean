import MarkdownOutline.Proofs.Block.Grammar

namespace MarkdownOutline

namespace Block

theorem isProper_inline (settings : Settings) (loc : Location) (text : Line) :
    ∀ n ∈ Inline.read settings loc text, n.IsProper .inline 0 :=
  Inline.read_holds settings (isProper_rules loc) text

theorem isProper_blockRules (settings : Settings) (room : Nat) :
    Rules settings (fun nodes => ∃ inner < room, ∀ n ∈ nodes, n.IsProper .block inner)
      (Node.IsProper .item room) (Node.IsProper .block room) where
  leaf _ _ hrank h := .ofLeaf hrank h
  heading loc h text hconforms htitle := by
    refine .ofBranch rfl hconforms (fun own hown => ?_) (fun hitem => by cases hitem)
      (isProper_inline settings loc text) (Nat.zero_le room)
    cases hown
    exact htitle
  paragraph loc text :=
    .ofBranch rfl trivial (fun _ h => by cases h) (fun h => by cases h)
      (isProper_inline settings loc text) (Nat.zero_le room)
  quote _ children h := by
    obtain ⟨inner, hinner, h⟩ := h
    refine .ofBranch rfl trivial (fun _ h => by cases h) (fun h => by cases h) h ?_
    change 1 + inner ≤ room
    omega
  item _ children h := by
    obtain ⟨inner, hinner, h⟩ := h
    refine .ofBranch rfl trivial (fun _ h => by cases h) (fun h => by cases h) h ?_
    change 1 + inner ≤ room
    omega
  list _ _ _ _ items hconforms hne h := by
    refine .ofBranch rfl hconforms (fun _ h => by cases h) (fun _ => hne) h ?_
    change 0 + room ≤ room
    omega

theorem readWithin_isProper (settings : Settings) (file : Option String) {room : Nat}
    (hroom : room ≤ maxNesting) :
    Reads (readWithin settings file room) fun nodes => ∃ inner < room, ∀ n ∈ nodes, n.IsProper .block inner := by
  induction room with
  | zero =>
      intro line lines nodes h
      cases h
  | succ room ih =>
      intro line lines nodes h
      have hinner := ih (Nat.le_of_succ_le hroom)
      have hne : room ≠ maxNesting := Nat.ne_of_lt hroom
      exact ⟨room, Nat.lt_succ_self room,
        readWithin_below (isProper_blockRules settings room) hinner hne line lines nodes h⟩

theorem throughout_title (settings : Settings) (loc : Location) (text : Line) :
    (Node.branch loc (.heading titleHeading) (Inline.read settings loc text)).Throughout Node.Conforms :=
  Node.throughout_branch.2 ⟨⟨⟨by decide, by decide, (fun h => by cases h), rfl⟩,
    fun c hc => (isProper_inline settings loc text c hc).rank, fun h => by cases h⟩,
    fun c hc => (isProper_inline settings loc text c hc).conforms⟩

end Block

structure AreBlocks (nodes : List Node) : Prop where
  rank : ∀ n ∈ nodes, n.rank = .block
  conforms : ∀ n ∈ nodes, n.Throughout Node.Conforms
  titles : ∀ i node, nodes[i]? = some node → ∀ path n, node.descendant? path = some n → n.IsTitle →
    i = 0 ∧ path = []
  nesting : ∀ n ∈ nodes, n.nesting ≤ Block.maxNesting

theorem areBlocks_of_titled {settings : Settings} {nodes : List Node}
    (h : Block.Titled settings (Node.IsProper .block Block.maxNesting) nodes) : AreBlocks nodes := by
  rcases h with h | ⟨loc, text, blocks, h, rfl⟩
  · exact
      { rank := fun n hn => (h n hn).rank
        conforms := fun n hn => (h n hn).conforms
        titles := fun i node hnode path n hn htitle =>
          absurd htitle ((h node (List.mem_of_getElem? hnode)).untitled path n hn)
        nesting := fun n hn => (h n hn).nesting }
  · have hinline := Block.isProper_inline settings loc text
    refine
      { rank := List.forall_mem_cons.2 ⟨rfl, fun n hn => (h n hn).rank⟩
        conforms := List.forall_mem_cons.2
          ⟨Block.throughout_title settings loc text, fun n hn => (h n hn).conforms⟩
        titles := ?_
        nesting := List.forall_mem_cons.2 ⟨?_, fun n hn => (h n hn).nesting⟩ }
    · intro i node hnode path n hn htitle
      cases i with
      | succ i => exact absurd htitle ((h node (List.mem_of_getElem? hnode)).untitled path n hn)
      | zero =>
          cases hnode
          cases path with
          | nil => exact ⟨rfl, rfl⟩
          | cons j path =>
              obtain ⟨child, hchild, hn⟩ := Option.bind_eq_some_iff.1 hn
              exact absurd htitle ((hinline child (List.mem_of_getElem? hchild)).untitled path n hn)
    · change 0 + Node.nestingAll _ ≤ Block.maxNesting
      rw [Nat.zero_add, Node.nestingAll_le]
      exact fun c hc => Nat.le_trans (hinline c hc).nesting (Nat.zero_le _)

/-- Every document that is read keeps to the grammar in all its nodes, has no title block but its first
child, and no path with more quotes and items than allowed. -/
theorem parse_grammatical {settings : Settings} {file : Option String} {source : String} {root : Node}
    (h : parse settings file source = .ok root) :
    root.rank = .document ∧ root.Throughout Node.Conforms ∧
      (∀ path node, root.descendant? path = some node → node.IsTitle → path = [0]) ∧
      root.nesting ≤ Block.maxNesting := by
  obtain ⟨loc, blocks, rfl, hread⟩ := exists_of_parse_eq_ok h
  have hinner := Block.readWithin_isProper settings file (Nat.le_refl Block.maxNesting)
  have hblocks := areBlocks_of_titled
    (Block.readWithin_titled (Block.isProper_blockRules settings _) hinner _ _ _ hread)
  refine ⟨rfl, ?_, fun path node hnode htitle => ?_, ?_⟩
  · exact Node.throughout_branch.2 ⟨⟨trivial, hblocks.rank, fun h => by cases h⟩, hblocks.conforms⟩
  · cases path with
    | nil =>
        cases hnode
        obtain ⟨heading, hheading, _⟩ := htitle
        cases hheading
    | cons i path =>
        obtain ⟨child, hchild, hnode⟩ := Option.bind_eq_some_iff.1 hnode
        obtain ⟨rfl, rfl⟩ := hblocks.titles i child hchild path node hnode htitle
        rfl
  · change 0 + Node.nestingAll blocks ≤ Block.maxNesting
    rw [Nat.zero_add, Node.nestingAll_le]
    exact hblocks.nesting

def titledSource : String := "% T\n\n> 7) ~~~ sh \n>    x\n\nA\n---"

def titledDocument : Node :=
  .branch ⟨1, 1, some 7, none⟩ .document
    [.branch ⟨1, 1, some 1, none⟩ (.heading { isTitle := true, style := .title })
        [.leaf ⟨1, 1, some 1, none⟩ (.text "T")],
      .branch ⟨3, 1, some 4, none⟩ .blockQuote
        [.branch ⟨3, 1, some 4, none⟩ (.list true 7 true)
          [.branch ⟨3, 1, some 4, none⟩ .listItem
            [.leaf ⟨3, 1, some 4, none⟩ (.codeBlock "x\n" (some "sh") true)]]],
      .branch ⟨6, 1, some 7, none⟩ (.heading { level := 2, style := .setext })
        [.leaf ⟨6, 1, some 7, none⟩ (.text "A")]]

theorem titledDocument_grammatical :
    parse {} none titledSource = .ok titledDocument ∧ titledDocument.rank = .document ∧
      titledDocument.Throughout Node.Conforms ∧
      (∀ path node, titledDocument.descendant? path = some node → node.IsTitle → path = [0]) ∧
      titledDocument.nesting ≤ Block.maxNesting := by
  have hparse : parse {} none titledSource = .ok titledDocument := ok_of_toOption (by decide +kernel)
  exact ⟨hparse, parse_grammatical hparse⟩

end MarkdownOutline
