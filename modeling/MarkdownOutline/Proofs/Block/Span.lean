import MarkdownOutline.Proofs.Block.Append
import MarkdownOutline.Proofs.Document.Located

namespace MarkdownOutline

namespace Block

open Text

structure Lays (line : Int) (lines : List Line) (nodes : List Node) : Prop where
  stacked : Stacked line (line + lines.length) nodes
  settled : ∀ n ∈ nodes, n.Throughout Node.IsSettled
  blank : nodes = [] → ∀ l ∈ lines, isBlankLine l = true

structure Spans (line : Int) (more : Nat) (node : Node) : Prop where
  first : node.loc.line = line
  last : node.loc.last = line + more
  settled : node.Throughout Node.IsSettled

theorem Spans.lays {line next : Int} {more : Nat} {lines after : List Line} {node : Node} {nodes : List Node}
    (h : Spans line more node) (hafter : Lays next after nodes) (hnext : next = line + more + 1)
    (hstop : next + after.length ≤ line + lines.length) : Lays line lines (node :: nodes) where
  stacked := by
    have hfirst := h.first
    have hlast := h.last
    exact .cons (by omega) (by omega) (by omega) (by omega) (hafter.stacked.widen (Int.le_refl _) hstop)
  settled := List.forall_mem_cons.2 ⟨h.settled, hafter.settled⟩
  blank hnone := by cases hnone

theorem length_dropTrailingBlank_le (lines : List Line) : (dropTrailingBlank lines).length ≤ lines.length := by
  rw [dropTrailingBlank, List.length_reverse, ← @List.length_reverse _ lines]
  exact (List.dropWhile_sublist isBlankLine).length_le

theorem dropTrailingBlank_eq_nil {lines : List Line}
    (h : ∀ l ∈ dropTrailingBlank lines, isBlankLine l = true) : dropTrailingBlank lines = [] := by
  rw [dropTrailingBlank] at h ⊢
  cases hkept : lines.reverse.dropWhile isBlankLine with
  | nil => rfl
  | cons l rest =>
      have hstop := List.head?_dropWhile_not isBlankLine lines.reverse
      rw [hkept] at hstop h
      have hblank := h l (List.mem_reverse.2 (List.mem_cons_self ..))
      simp only [List.head?_cons] at hstop
      rw [hblank] at hstop
      cases hstop

section

variable {ctx : Context} {line : Int}

theorem spans_leaf (more : Nat) (content : Leaf) : Spans line more (.leaf (ctx.span line more) content) :=
  ⟨rfl, rfl, Node.throughout_leaf.2 (Node.isSettled_leaf (Int.le_add_of_nonneg_right (Int.natCast_nonneg more)))⟩

theorem spans_text (settings : Settings) (loc : Location) {more : Nat} {shape : Branch}
    (hshape : shape ≠ .listItem) (text : Line) (hfirst : loc.line = line) (hlast : loc.last = line + more) :
    Spans line more (.branch loc shape (Inline.read settings loc text)) := by
  have hvalid : loc.line ≤ loc.last := by omega
  exact ⟨hfirst, hlast,
    Node.isSettled_around hvalid hshape (Inline.read_holds settings (Node.stays_rules hvalid) text)⟩

theorem spans_headingNode (more : Nat) (heading : Heading) (text : Line) :
    Spans line more (headingNode ctx (ctx.span line more) heading text) :=
  spans_text ctx.settings (ctx.span line more) Branch.noConfusion text rfl rfl

theorem spans_paragraphBlock (first : Line) (rest : List Line) :
    Spans line (paragraphBlock ctx line first rest).more (paragraphBlock ctx line first rest).node := by
  obtain ⟨tail, level, htail⟩ : ∃ tail level, paragraphTail rest = (tail, level) := ⟨_, _, rfl⟩
  rw [paragraphBlock]
  rw [htail]
  cases level with
  | none => exact spans_text ctx.settings (ctx.span line tail.length) Branch.noConfusion _ rfl rfl
  | some level => exact spans_headingNode (tail.length + 1) _ _

theorem spans_branch {more : Nat} {loc : Location} {shape : Branch} {children : List Node}
    (hfirst : loc.line = line) (hlast : loc.last = line + more) (hshape : shape ≠ .listItem)
    (hstacked : Stacked line (line + more + 1) children)
    (hsettled : ∀ n ∈ children, n.Throughout Node.IsSettled) :
    Spans line more (.branch loc shape children) := by
  refine ⟨hfirst, hlast, Node.throughout_branch.2 ⟨Node.isSettled_branch ?_ hshape ?_ ?_, hsettled⟩⟩
  · omega
  · intro child hchild
    have hbounds := hstacked.bounds child hchild
    omega
  · exact hstacked.isParted _ _

variable (hinner : ∀ line lines nodes, ctx.inner line lines = .ok nodes → Lays line lines nodes)
include hinner

theorem spans_quoteBlock {first : Line} {rest : List Line} {taken : Taken}
    (h : quoteBlock ctx line first rest = .ok taken) : Spans line taken.more taken.node := by
  obtain ⟨children, hread, h⟩ := exists_of_bind_eq_ok h
  cases h
  have hlays := hinner _ _ _ hread
  refine spans_branch rfl rfl Branch.noConfusion (hlays.stacked.widen (Int.le_refl _) ?_) hlays.settled
  simp only [List.length_cons]
  omega

/-- An item ends with the last line that is not blank. If there is none, it has no children. -/
theorem settled_item {kept : List Line} {children : List Node} {last : Int}
    (hread : ctx.inner line kept = .ok children)
    (hkept : (∀ l ∈ kept, isBlankLine l = true) → kept = []) (hlast : last = line + kept.length - 1) :
    (Node.branch ((ctx.at line).through last) .listItem children).Throughout Node.IsSettled := by
  have hlays := hinner _ _ _ hread
  have hbounds := hlays.stacked.bounds
  refine Node.throughout_branch.2 ⟨?_, hlays.settled⟩
  refine { hollow := ?_, valid := ?_, inside := ?_, parted := hlays.stacked.isParted _ _ }
  · rintro ⟨_, hnone⟩
    have hempty := hkept (hlays.blank hnone)
    rw [hempty] at hlast
    change some last = some (line - 1)
    rw [hlast, List.length_nil, Int.natCast_zero, Int.add_zero]
  · intro hfull
    change line ≤ last
    cases children with
    | nil => exact absurd ⟨rfl, rfl⟩ hfull
    | cons child rest =>
        have hchild := hbounds child (List.mem_cons_self ..)
        omega
  · intro child hchild
    have hchild := hbounds child hchild
    change line ≤ child.loc.line ∧ child.loc.line ≤ last ∧ child.loc.last ≤ last
    omega

theorem stacked_readItems {bullet : Bullet} {lines : List Line} {items : Items}
    (h : readItems ctx bullet line lines = .ok items) :
    Stacked line (line + items.lines) items.nodes ∧ ∀ n ∈ items.nodes, n.Throughout Node.IsSettled := by
  fun_induction readItems ctx bullet line lines generalizing items with
  | case1 =>
      cases h
      exact ⟨.nil, fun _ hn => (List.not_mem_nil hn).elim⟩
  | case2 =>
      cases h
      exact ⟨.nil, fun _ hn => (List.not_mem_nil hn).elim⟩
  | case3 line first rest m hm tail kept trailing after =>
      rename_i ih
      obtain ⟨children, hread, h⟩ := exists_of_bind_eq_ok h
      obtain ⟨more, hmore, h⟩ := exists_of_bind_eq_ok h
      cases h
      obtain ⟨hstacked, hsettled⟩ := ih hmore
      -- The marker's own line counts among the blank ones if nothing is kept.
      have hkept : kept.length ≤ tail.length + 1 := length_dropTrailingBlank_le (m.content :: tail)
      have hlast : line + tail.length - trailing = line + kept.length - 1 := by
        simp only [trailing]
        omega
      have hitem := settled_item hinner hread dropTrailingBlank_eq_nil hlast
      have hnext : line < line + tail.length + 1 := by omega
      have hends : line + tail.length - trailing < line + tail.length + 1 := by omega
      refine ⟨?_, List.forall_mem_cons.2 ⟨hitem, hsettled⟩⟩
      refine Stacked.cons (Int.le_refl line) hnext hends ?_ (hstacked.widen (Int.le_refl _) ?_)
      · simp only
        omega
      · simp only
        omega

theorem spans_listBlock {m : Marker} {lines : List Line} {taken : Taken}
    (h : listBlock ctx line m lines = .ok taken) : Spans line taken.more taken.node := by
  obtain ⟨items, hitems, h⟩ := exists_of_bind_eq_ok h
  obtain ⟨hstacked, hsettled⟩ := stacked_readItems hinner hitems
  cases h
  refine spans_branch rfl rfl Branch.noConfusion (hstacked.widen (Int.le_refl _) ?_) hsettled
  simp only
  omega

theorem spans_readBlock {first : Line} {rest : List Line} {taken : Taken}
    (h : readBlock ctx line first rest = .ok taken) : Spans line taken.more taken.node := by
  rw [readBlock_eq] at h
  cases hopener : opener first with
  | fence f =>
      rw [hopener] at h
      cases h
      exact spans_leaf _ _
  | atx level content =>
      rw [hopener] at h
      cases h
      exact spans_text ctx.settings (ctx.at line) Branch.noConfusion _ rfl (Int.add_zero line).symm
  | thematic =>
      rw [hopener] at h
      cases h
      exact ⟨rfl, (Int.add_zero line).symm, Node.throughout_leaf.2 (Node.isSettled_leaf (Int.le_refl line))⟩
  | quote inner =>
      rw [hopener] at h
      exact spans_quoteBlock hinner h
  | item m =>
      rw [hopener] at h
      exact spans_listBlock hinner h
  | indented =>
      rw [hopener] at h
      cases h
      exact spans_leaf _ _
  | html =>
      rw [hopener] at h
      cases h
      exact spans_leaf _ _
  | text =>
      rw [hopener] at h
      cases h
      exact spans_paragraphBlock first rest

theorem lays_readBlocks {lines : List Line} {nodes : List Node} (h : readBlocks ctx line lines = .ok nodes) :
    Lays line lines nodes := by
  fun_induction readBlocks ctx line lines generalizing nodes with
  | case1 =>
      cases h
      exact ⟨.nil, fun _ hn => (List.not_mem_nil hn).elim, fun _ _ hl => (List.not_mem_nil hl).elim⟩
  | case2 line first rest hblank ih =>
      have hlays := ih h
      refine ⟨hlays.stacked.widen (by omega) ?_, hlays.settled, ?_⟩
      · rw [List.length_cons]
        omega
      · exact fun hnone => List.forall_mem_cons.2 ⟨hblank, hlays.blank hnone⟩
  | case3 line first rest hblank ih =>
      obtain ⟨block, hblock, h⟩ := exists_of_bind_eq_ok h
      obtain ⟨blocks, hblocks, h⟩ := exists_of_bind_eq_ok h
      cases h
      have hmore := more_readBlock_le hblock
      refine (spans_readBlock hinner hblock).lays (ih block hblocks) (by omega) ?_
      rw [List.length_drop, List.length_cons]
      omega

theorem lays_readTitled {lines : List Line} {nodes : List Node} (h : readTitled ctx line lines = .ok nodes) :
    Lays line lines nodes := by
  have hle : ((lines.map titleLine?).takeWhile Option.isSome).length ≤ lines.length := by
    simpa using (List.takeWhile_prefix (l := lines.map titleLine?) Option.isSome).length_le
  simp only [readTitled] at h
  generalize (lines.map titleLine?).takeWhile Option.isSome = parts at h hle
  split at h
  · exact lays_readBlocks hinner h
  · rename_i hsome
    obtain ⟨blocks, hblocks, h⟩ := exists_of_bind_eq_ok h
    cases h
    have hpos : parts.length ≠ 0 := fun hnone => hsome (List.isEmpty_iff_length_eq_zero.2 hnone)
    refine (spans_headingNode (parts.length - 1) _ _).lays (lays_readBlocks hinner hblocks) ?_ ?_
    · omega
    · rw [List.length_drop]
      omega

omit hinner in
theorem Lays.of_dropEmptyLast {lines : List Line} {nodes : List Node}
    (h : Lays line (dropEmptyLast lines) nodes) : Lays line lines nodes := by
  rcases dropEmptyLast_cases lines with hlines | hlines
  · rwa [hlines]
  · rw [hlines]
    refine ⟨h.stacked.widen (Int.le_refl _) ?_, h.settled, fun hnone => ?_⟩
    · rw [List.length_append]
      omega
    · exact List.forall_mem_append.2 ⟨h.blank hnone, List.forall_mem_singleton.2 rfl⟩

end

theorem lays_readWithin (settings : Settings) (file : Option String) (room : Nat) (line : Int)
    (lines : List Line) (nodes : List Node) (h : readWithin settings file room line lines = .ok nodes) :
    Lays line lines nodes := by
  induction room generalizing line lines nodes with
  | zero => cases h
  | succ room ih =>
      rw [readWithin_succ, readLevel] at h
      refine Lays.of_dropEmptyLast ?_
      split at h
      · exact lays_readTitled ih h
      · exact lays_readBlocks ih h

end Block

/-- Every node of a document that is read is settled, and so all but hollow items are located. -/
theorem parse_settled {settings : Settings} {file : Option String} {source : String} {root : Node}
    (h : parse settings file source = .ok root) :
    root.Throughout Node.IsSettled ∧
      (root.Throughout Node.IsLocated ↔ root.Throughout fun n => ¬n.IsHollow) := by
  suffices hsettled : root.Throughout Node.IsSettled from ⟨hsettled, Node.throughout_isLocated_iff hsettled⟩
  obtain ⟨blocks, hread, h⟩ := exists_of_bind_eq_ok h
  cases h
  have hlays := Block.lays_readWithin settings file _ _ _ _ hread
  have hstacked : Stacked 1 (1 + (Source.prepareChars source.toList).count '\n' + 1) blocks := by
    refine hlays.stacked.widen (Int.le_refl _) ?_
    rw [List.length_map, Text.length_splitLines]
    omega
  refine (Block.spans_branch rfl ?_ Branch.noConfusion hstacked hlays.settled).settled
  exact (Int.natCast_succ _).trans (Int.add_comm _ _)

def bareItemSource : String := "> - a\n> -\n>\n>   \n> 1. b\n\n% c"

/-- The second item of the first list has no lines. -/
def bareItemDocument : Node :=
  .branch ⟨1, 1, some 7, none⟩ .document
    [.branch ⟨1, 1, some 5, none⟩ .blockQuote
        [.branch ⟨1, 1, some 4, none⟩ (.list false 1 true)
            [.branch ⟨1, 1, some 1, none⟩ .listItem
                [.branch ⟨1, 1, some 1, none⟩ .paragraph [.leaf ⟨1, 1, some 1, none⟩ (.text "a")]],
              .branch ⟨2, 1, some 1, none⟩ .listItem []],
          .branch ⟨5, 1, some 5, none⟩ (.list true 1 true)
            [.branch ⟨5, 1, some 5, none⟩ .listItem
              [.branch ⟨5, 1, some 5, none⟩ .paragraph [.leaf ⟨5, 1, some 5, none⟩ (.text "b")]]]],
      .branch ⟨7, 1, some 7, none⟩ .paragraph [.leaf ⟨7, 1, some 7, none⟩ (.text "% c")]]

theorem bareItemDocument_settled :
    parse {} none bareItemSource = .ok bareItemDocument ∧ bareItemDocument.Throughout Node.IsSettled ∧
      (bareItemDocument.Throughout Node.IsLocated ↔ bareItemDocument.Throughout fun n => ¬n.IsHollow) := by
  have hparse : parse {} none bareItemSource = .ok bareItemDocument := ok_of_toOption (by decide +kernel)
  exact ⟨hparse, parse_settled hparse⟩

def bareMarkerDocument : Node :=
  .branch ⟨1, 1, some 1, none⟩ .document
    [.branch ⟨1, 1, some 1, none⟩ (.list true 1 true) [.branch ⟨1, 1, some 0, none⟩ .listItem []]]

/-- The item of a lone list marker ends before the first line. -/
theorem bareMarkerDocument_not_located :
    parse {} none "1." = .ok bareMarkerDocument ∧ ¬bareMarkerDocument.Throughout Node.IsLocated := by
  refine ⟨ok_of_toOption (by decide +kernel), fun hlocated => ?_⟩
  have hitem := (hlocated [0, 0] (.branch ⟨1, 1, some 0, none⟩ .listItem []) rfl).valid 0 rfl
  exact absurd hitem (by decide)

end MarkdownOutline
