import MarkdownOutline.Proofs.Block.Room
import MarkdownOutline.Proofs.Inline.Nodes

namespace MarkdownOutline

mutual

/-- The line of the first container, in document order, that lies in at least `room` others. -/
def Node.overflow? (room : Nat) : Node → Option Int
  | .leaf .. => none
  | .branch loc shape children =>
    if shape.isContainer then
      match room with
      | 0 => some loc.line
      | room + 1 => Node.overflowAll? room children
    else Node.overflowAll? room children

def Node.overflowAll? (room : Nat) : List Node → Option Int
  | [] => none
  | child :: rest => (child.overflow? room).or (Node.overflowAll? room rest)

end

mutual

theorem overflow?_of_isInline {node : Node} (h : node.IsInline) (room : Nat) : node.overflow? room = none := by
  cases node with
  | leaf loc content => rw [Node.overflow?]
  | branch loc shape children =>
      have hshape : shape.isContainer = false := by
        cases shape with
        | blockQuote | listItem => exact h.1.elim
        | _ => rfl
      simp only [Node.overflow?, hshape, overflowAll?_of_areInline h.2, Bool.false_eq_true, if_false]

theorem overflowAll?_of_areInline {nodes : List Node} (h : Node.AreInline nodes) (room : Nat) :
    Node.overflowAll? room nodes = none := by
  cases nodes with
  | nil => rw [Node.overflowAll?]
  | cons child rest =>
      rw [Node.overflowAll?, overflow?_of_isInline h.1, overflowAll?_of_areInline h.2]
      rfl

end

namespace Block

open Text

def cutAt {α : Type} (file : Option String) (overflow : Option Int) (a : α) : Except ParseError α :=
  match overflow with
  | none => .ok a
  | some line => .error (tooDeep file line)

theorem cutAt_bind {α β : Type} {file : Option String} {overflow more : Option Int} {a : α}
    {f : α → Except ParseError β} {b : β} (h : f a = cutAt file more b) :
    cutAt file overflow a >>= f = cutAt file (overflow.or more) b := by
  cases overflow with
  | none => exact h
  | some line => rfl

theorem cutAt_map {α β : Type} {file : Option String} {overflow : Option Int} {a : α} (f : α → β) :
    (do return f (← cutAt file overflow a)) = cutAt file overflow (f a) := by
  cases overflow <;> rfl

def overflowAt? (line : Int) (nodes : List Node) : Nat → Option Int
  | 0 => some line
  | room + 1 => Node.overflowAll? room nodes

theorem overflow?_of_isContainer {shape : Branch} (h : shape.isContainer = true) (loc : Location)
    (children : List Node) (room : Nat) :
    (Node.branch loc shape children).overflow? room = overflowAt? loc.line children room := by
  cases room <;> simp [Node.overflow?, overflowAt?, h]

theorem overflow?_of_not_isContainer {shape : Branch} (h : shape.isContainer = false) (loc : Location)
    (children : List Node) (room : Nat) :
    (Node.branch loc shape children).overflow? room = Node.overflowAll? room children := by
  simp [Node.overflow?, h]

/-- Where `big` reads, `small` reads the same or fails at the first overflow. -/
def Cuts (file : Option String) (room : Nat) (small big : Reader) : Prop :=
  ∀ line lines nodes, big line lines = .ok nodes →
    small line lines = cutAt file (overflowAt? line nodes room) nodes

section

variable {settings : Settings} {file : Option String} {big small : Reader} {room : Nat}

theorem overflow?_heading (loc : Location) (heading : Heading) (text : Line) :
    (headingNode ⟨settings, file, big⟩ loc heading text).overflow? room = none := by
  rw [headingNode, overflow?_of_not_isContainer rfl,
    overflowAll?_of_areInline (Inline.areInline_read settings loc text)]

theorem overflow?_paragraphBlock (line : Int) (first : Line) (rest : List Line) :
    (paragraphBlock ⟨settings, file, big⟩ line first rest).node.overflow? room = none := by
  obtain ⟨tail, level, htail⟩ : ∃ tail level, paragraphTail rest = (tail, level) := ⟨_, _, rfl⟩
  rw [paragraphBlock]
  rw [htail]
  cases level with
  | some level => exact overflow?_heading _ _ _
  | none =>
      exact (overflow?_of_not_isContainer rfl _ _ _).trans
        (overflowAll?_of_areInline (Inline.areInline_read settings _ _) room)

variable (hcuts : Cuts file room small big)
include hcuts

theorem readItems_cut {bullet : Bullet} {line : Int} {lines : List Line} {items : Items}
    (h : readItems ⟨settings, file, big⟩ bullet line lines = .ok items) :
    readItems ⟨settings, file, small⟩ bullet line lines =
      cutAt file (Node.overflowAll? room items.nodes) items := by
  fun_induction readItems ⟨settings, file, big⟩ bullet line lines generalizing items with
  | case1 =>
      cases h
      rw [readItems, Node.overflowAll?]
      rfl
  | case2 line first rest hm =>
      cases h
      rw [readItems, hm, Node.overflowAll?]
      rfl
  | case3 line first rest m hm tail kept trailing after =>
      rename_i ih
      obtain ⟨children, hread, h⟩ := exists_of_bind_eq_ok h
      obtain ⟨more, hmore, h⟩ := exists_of_bind_eq_ok h
      cases h
      rw [readItems, hm, Node.overflowAll?, overflow?_of_isContainer rfl]
      simp only
      rw [show small line kept = _ from hcuts line kept children hread]
      refine cutAt_bind ?_
      rw [ih hmore]
      exact cutAt_map _

theorem readBlock_cut {line : Int} {first : Line} {rest : List Line} {block : Taken}
    (h : readBlock ⟨settings, file, big⟩ line first rest = .ok block) :
    readBlock ⟨settings, file, small⟩ line first rest = cutAt file (block.node.overflow? room) block := by
  rw [readBlock_eq] at h ⊢
  generalize opener first = kind at h ⊢
  cases kind with
  | fence f =>
      cases h
      rfl
  | atx level content =>
      cases h
      rw [atxNode, overflow?_heading]
      rfl
  | thematic =>
      cases h
      rfl
  | quote inner =>
      obtain ⟨children, hread, h⟩ := exists_of_bind_eq_ok h
      cases h
      rw [overflow?_of_isContainer rfl]
      simp only [Opener.read, quoteBlock]
      rw [hcuts line _ children hread]
      exact cutAt_map _
  | item m =>
      obtain ⟨items, hitems, h⟩ := exists_of_bind_eq_ok h
      cases h
      rw [overflow?_of_not_isContainer rfl]
      simp only [Opener.read, listBlock]
      rw [readItems_cut hcuts hitems]
      exact cutAt_map _
  | indented =>
      cases h
      rfl
  | html =>
      cases h
      rfl
  | text =>
      cases h
      rw [overflow?_paragraphBlock]
      rfl

theorem readBlocks_cut {line : Int} {lines : List Line} {nodes : List Node}
    (h : readBlocks ⟨settings, file, big⟩ line lines = .ok nodes) :
    readBlocks ⟨settings, file, small⟩ line lines = cutAt file (Node.overflowAll? room nodes) nodes := by
  fun_induction readBlocks ⟨settings, file, big⟩ line lines generalizing nodes with
  | case1 =>
      cases h
      rw [readBlocks, Node.overflowAll?]
      rfl
  | case2 line first rest hfirst ih => rw [readBlocks, if_pos hfirst, ih h]
  | case3 line first rest hfirst ih =>
      obtain ⟨block, hblock, h⟩ := exists_of_bind_eq_ok h
      obtain ⟨blocks, hblocks, h⟩ := exists_of_bind_eq_ok h
      cases h
      rw [readBlocks, if_neg hfirst, readBlock_cut hcuts hblock, Node.overflowAll?]
      refine cutAt_bind ?_
      rw [ih block hblocks]
      exact cutAt_map _

theorem readLevel_cut {titled : Bool} {line : Int} {lines : List Line} {nodes : List Node}
    (h : readLevel ⟨settings, file, big⟩ titled line lines = .ok nodes) :
    readLevel ⟨settings, file, small⟩ titled line lines =
      cutAt file (Node.overflowAll? room nodes) nodes := by
  cases titled with
  | false => exact readBlocks_cut hcuts h
  | true =>
      simp only [readLevel, if_true, readTitled] at h ⊢
      split at h
      · rename_i huntitled
        rw [if_pos huntitled]
        exact readBlocks_cut hcuts h
      · rename_i htitled
        obtain ⟨blocks, hblocks, h⟩ := exists_of_bind_eq_ok h
        cases h
        rw [if_neg htitled, readBlocks_cut hcuts hblocks, Node.overflowAll?, overflow?_heading]
        exact cutAt_map _

end

/-- With any two amounts of room, one reads what the other does or fails at the first overflow. -/
theorem cuts_readNested (settings : Settings) (file : Option String) (outermost : Bool) (room larger : Nat) :
    Cuts file room (readNested settings file outermost room) (readNested settings file outermost larger) := by
  induction room generalizing outermost larger with
  | zero =>
      intro line lines nodes h
      rfl
  | succ room ih =>
      intro line lines nodes h
      cases larger with
      | zero => cases h
      | succ larger => exact readLevel_cut (ih false larger) h

def sourceLines (source : String) : List Line :=
  (splitLines (Source.prepareChars source.toList)).map fun line => expandTabs line

def documentOf (file : Option String) (source : String) (blocks : List Node) : Node :=
  .branch ⟨1, 1, some ((Source.prepareChars source.toList).count '\n' + 1 : Nat), file⟩ .document blocks

/-- The blocks of a source are what every amount of room large enough finds in it. A source is read
into these blocks unless one of their containers lies in more others than allowed. -/
theorem exists_parse_eq (settings : Settings) (file : Option String) (source : String) :
    ∃ blocks,
      (∀ room, charCount (sourceLines source) < room →
        readNested settings file true room 1 (sourceLines source) = .ok blocks) ∧
      parse settings file source =
        cutAt file (Node.overflowAll? maxNesting blocks) (documentOf file source blocks) := by
  obtain ⟨blocks, hblocks⟩ := exists_readNested settings file true (Nat.lt_succ_self _) 1
  refine ⟨blocks, fun room hroom => ?_, ?_⟩
  · obtain ⟨others, hothers⟩ := exists_readNested settings file true hroom 1
    have hcut := cuts_readNested settings file true room _ _ _ _ hblocks
    rw [hothers] at hcut
    cases hoverflow : overflowAt? 1 blocks room with
    | none =>
        rw [hoverflow] at hcut
        exact hothers.trans hcut
    | some line =>
        rw [hoverflow] at hcut
        cases hcut
  · have hread : Block.read settings file (Source.prepareChars source.toList) =
        cutAt file (Node.overflowAll? maxNesting blocks) blocks := by
      have hcut := cuts_readNested settings file true (maxNesting + 1) _ _ _ _ hblocks
      rw [readNested_true] at hcut
      exact hcut
    rw [parse, hread]
    exact cutAt_map _

end Block

end MarkdownOutline
