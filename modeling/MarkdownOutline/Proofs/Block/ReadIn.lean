import MarkdownOutline.Proofs.Block.Nesting
import MarkdownOutline.Proofs.Block.Passage

namespace MarkdownOutline

namespace Block

def contextWithin (settings : Settings) (file : Option String) (room : Nat) : Context :=
  ⟨settings, file, readWithin settings file room⟩

/-- A block is what is read at its first line, and the children of a container are what is read from the
lines inside. -/
structure IsReadIn (settings : Settings) (file : Option String) (p : Passage) (node : Node) : Prop where
  block : node.rank = .block → ¬node.IsTitle → ∃ room ≤ maxNesting, ∃ first rest more,
    p.since node.loc.line = first :: rest ∧ isBlankLine first = false ∧
      readBlock (contextWithin settings file room) node.loc.line first rest = .ok ⟨node, more⟩
  inside : ∀ loc shape children, node = .branch loc shape children → shape.isContainer = true →
    ∃ room < maxNesting, readBlocks (contextWithin settings file room) (p.inside node).line
      (p.inside node).lines = .ok children

variable {settings : Settings} {file : Option String} {p : Passage}

theorem isReadIn_of_isInline (p : Passage) (node : Node) (h : node.IsInline) : IsReadIn settings file p node where
  block hrank := by
    rw [Node.rank_of_isInline h] at hrank
    cases hrank
  inside loc shape children := by
    rintro rfl hshape
    have hinline := h.1
    cases shape with
    | blockQuote | listItem => exact hinline.elim
    | _ => cases hshape

structure ReadsInside (settings : Settings) (file : Option String) (p : Passage) (children : List Node) : Prop where
  read : ∃ room < maxNesting, readBlocks (contextWithin settings file room) p.line p.lines = .ok children
  throughout : ∀ n ∈ children, n.ThroughoutIn (IsReadIn settings file) p

theorem ReadsInside.quote {loc : Location} {children : List Node}
    (h : ReadsInside settings file (p.inside (.branch loc .blockQuote children)) children)
    (hblock : ∃ room ≤ maxNesting, ∃ first rest more, p.since loc.line = first :: rest ∧
      isBlankLine first = false ∧ readBlock (contextWithin settings file room) loc.line first rest =
        .ok ⟨.branch loc .blockQuote children, more⟩) :
    (Node.branch loc .blockQuote children).ThroughoutIn (IsReadIn settings file) p := by
  refine Node.throughoutIn_branch.2 ⟨⟨fun _ _ => hblock, ?_⟩, h.throughout⟩
  intro loc' shape children' heq _
  cases heq
  exact h.read

theorem ReadsInside.item {loc : Location} {children : List Node}
    (h : ReadsInside settings file (p.inside (.branch loc .listItem children)) children) :
    (Node.branch loc .listItem children).ThroughoutIn (IsReadIn settings file) p := by
  refine Node.throughoutIn_branch.2 ⟨⟨?_, ?_⟩, h.throughout⟩
  · intro hrank
    cases hrank
  · intro loc' shape children' heq _
    cases heq
    exact h.read

theorem throughoutIn_text {loc : Location} {shape : Branch} {text : Line}
    (h : IsReadIn settings file p (.branch loc shape (Inline.read settings loc text))) :
    (Node.branch loc shape (Inline.read settings loc text)).ThroughoutIn (IsReadIn settings file) p := by
  refine Node.throughoutIn_branch.2 ⟨h, ?_⟩
  exact Node.throughoutIn_of_areInline isReadIn_of_isInline _ (Inline.areInline_read settings loc text) _

theorem dropEmptyLast_of_getLast? {lines : List Line} (h : lines.getLast? ≠ some []) :
    dropEmptyLast lines = lines := by
  rw [dropEmptyLast, if_neg]
  rwa [beq_iff_eq]

theorem dropEmptyLast_dropTrailingBlank (lines : List Line) :
    dropEmptyLast (dropTrailingBlank lines) = dropTrailingBlank lines := by
  apply dropEmptyLast_of_getLast?
  intro hlast
  have hstop := List.head?_dropWhile_not isBlankLine lines.reverse
  rw [dropTrailingBlank, List.getLast?_reverse] at hlast
  rw [hlast] at hstop
  cases hstop

section

variable {room : Nat} (hroom : room ≤ maxNesting)
  (hinner : ∀ line lines children, readWithin settings file room line lines = .ok children →
    ReadsInside settings file ⟨line, dropEmptyLast lines⟩ children)
include hinner

theorem throughoutIn_readItems {bullet : Bullet} {line : Int} {lines : List Line} {items : Items}
    (h : readItems (contextWithin settings file room) bullet line lines = .ok items)
    (hp : p.since line = lines) : ∀ n ∈ items.nodes, n.ThroughoutIn (IsReadIn settings file) p := by
  fun_induction readItems (contextWithin settings file room) bullet line lines generalizing items with
  | case1 =>
      cases h
      exact fun _ hn => (List.not_mem_nil hn).elim
  | case2 =>
      cases h
      exact fun _ hn => (List.not_mem_nil hn).elim
  | case3 line first rest m hm tail kept trailing after =>
      rename_i ih
      obtain ⟨children, hread, h⟩ := exists_of_bind_eq_ok h
      obtain ⟨later, hlater, h⟩ := exists_of_bind_eq_ok h
      cases h
      have hafter : p.since (line + tail.length + 1) = after := Passage.since_behind hp tail.length
      refine List.forall_mem_cons.2 ⟨ReadsInside.item ?_, ih hlater hafter⟩
      have hlines : itemLines (p.since line) = kept := by
        rw [hp, itemLines, marker?_of_sibling? hm]
      have hreads := hinner line kept children hread
      rw [dropEmptyLast_dropTrailingBlank] at hreads
      rw [Passage.inside]
      change ReadsInside settings file ⟨line, itemLines (p.since line)⟩ children
      rw [hlines]
      exact hreads

include hroom

theorem throughoutIn_readBlock {line : Int} {first : Line} {rest : List Line} {taken : Taken}
    (h : readBlock (contextWithin settings file room) line first rest = .ok taken)
    (hp : p.since line = first :: rest) (hfirst : isBlankLine first = false) :
    taken.node.ThroughoutIn (IsReadIn settings file) p := by
  have hline : taken.node.loc.line = line := (spans_readBlock (lays_readWithin settings file room) h).first
  have hblock : ∃ room ≤ maxNesting, ∃ first rest more, p.since taken.node.loc.line = first :: rest ∧
      isBlankLine first = false ∧
        readBlock (contextWithin settings file room) taken.node.loc.line first rest = .ok ⟨taken.node, more⟩ := by
    rw [hline]
    exact ⟨room, hroom, first, rest, taken.more, hp, hfirst, h⟩
  -- All but quotes and lists hold nothing that is read apart.
  have hleaf {loc : Location} {content : Leaf} (hnode : taken.node = .leaf loc content) :
      taken.node.ThroughoutIn (IsReadIn settings file) p := by
    rw [hnode] at hblock ⊢
    exact Node.throughoutIn_leaf.2 ⟨fun _ _ => hblock, fun _ _ _ heq => by cases heq⟩
  have htext {loc : Location} {shape : Branch} {text : Line} (hshape : shape.isContainer = false)
      (hnode : taken.node = .branch loc shape (Inline.read settings loc text)) :
      taken.node.ThroughoutIn (IsReadIn settings file) p := by
    rw [hnode] at hblock ⊢
    refine throughoutIn_text ⟨fun _ _ => hblock, ?_⟩
    intro loc' shape' children heq hcontainer
    cases heq
    rw [hshape] at hcontainer
    cases hcontainer
  rw [readBlock_eq] at h
  cases hopener : opener first with
  | fence f =>
      rw [hopener] at h
      cases h
      exact hleaf rfl
  | atx level content =>
      rw [hopener] at h
      cases h
      exact htext rfl rfl
  | thematic =>
      rw [hopener] at h
      cases h
      exact hleaf rfl
  | indented =>
      rw [hopener] at h
      cases h
      exact hleaf rfl
  | html =>
      rw [hopener] at h
      cases h
      exact hleaf rfl
  | text =>
      rw [hopener] at h
      cases h
      obtain ⟨tail, level, htail⟩ : ∃ tail level, paragraphTail rest = (tail, level) := ⟨_, _, rfl⟩
      simp only [paragraphBlock, htail] at hleaf htext ⊢
      cases level with
      | none => exact htext rfl rfl
      | some level => exact htext rfl rfl
  | quote inner =>
      rw [hopener] at h
      obtain ⟨children, hread, h⟩ := exists_of_bind_eq_ok h
      cases h
      have hlines : quotedLines (p.since line) = dropEmptyLast (inner :: quoteTail (!isBlankLine inner) rest) := by
        rw [hp, quotedLines, unquote?_of_opener hopener]
      refine ReadsInside.quote ?_ hblock
      change ReadsInside settings file ⟨line, quotedLines (p.since line)⟩ children
      rw [hlines]
      exact hinner line _ children hread
  | item m =>
      rw [hopener] at h
      obtain ⟨items, hitems, h⟩ := exists_of_bind_eq_ok h
      cases h
      refine Node.throughoutIn_branch.2 ⟨⟨fun _ _ => hblock, ?_⟩, ?_⟩
      · intro loc shape children heq hshape
        cases heq
        cases hshape
      · exact throughoutIn_readItems hinner hitems hp

theorem throughoutIn_readBlocks {line : Int} {lines : List Line} {nodes : List Node}
    (h : readBlocks (contextWithin settings file room) line lines = .ok nodes) (hp : p.since line = lines) :
    ∀ n ∈ nodes, n.ThroughoutIn (IsReadIn settings file) p := by
  fun_induction readBlocks (contextWithin settings file room) line lines generalizing nodes with
  | case1 =>
      cases h
      exact fun _ hn => (List.not_mem_nil hn).elim
  | case2 line first rest hfirst ih => exact ih h (Passage.since_succ hp)
  | case3 line first rest hfirst ih =>
      obtain ⟨block, hblock, h⟩ := exists_of_bind_eq_ok h
      obtain ⟨blocks, hblocks, h⟩ := exists_of_bind_eq_ok h
      cases h
      have hfull : isBlankLine first = false := Bool.eq_false_iff.2 hfirst
      exact List.forall_mem_cons.2 ⟨throughoutIn_readBlock hroom hinner hblock hp hfull,
        ih block hblocks (Passage.since_skip hp block.more)⟩

/-- The title block is no block of the lines below. -/
theorem throughoutIn_readTitled {line : Int} {lines : List Line} {nodes : List Node}
    (h : readTitled (contextWithin settings file room) line lines = .ok nodes) (hp : p.since line = lines)
    (hline : p.line ≤ line) : ∀ n ∈ nodes, n.ThroughoutIn (IsReadIn settings file) p := by
  simp only [readTitled] at h
  split at h
  · exact throughoutIn_readBlocks hroom hinner h hp
  · obtain ⟨blocks, hblocks, h⟩ := exists_of_bind_eq_ok h
    cases h
    refine List.forall_mem_cons.2 ⟨throughoutIn_text ⟨?_, ?_⟩, throughoutIn_readBlocks hroom hinner hblocks ?_⟩
    · intro _ htitle
      exact absurd ⟨_, rfl, rfl⟩ htitle
    · intro loc shape children heq hshape
      cases heq
      cases hshape
    · rw [Passage.since_add hline, hp]

end

theorem readWithin_succ_of_lt {room : Nat} (h : room < maxNesting) (line : Int) (lines : List Line) :
    readWithin settings file (room + 1) line lines =
      readBlocks (contextWithin settings file room) line (dropEmptyLast lines) := by
  have hroom : room ≠ maxNesting := Nat.ne_of_lt h
  rw [readWithin_succ, readLevel, decide_eq_false hroom, Bool.false_and, if_neg Bool.false_ne_true]
  rfl

theorem readsInside_readWithin {room : Nat} (hroom : room ≤ maxNesting) (line : Int) (lines : List Line)
    (children : List Node) (h : readWithin settings file room line lines = .ok children) :
    ReadsInside settings file ⟨line, dropEmptyLast lines⟩ children := by
  induction room generalizing line lines children with
  | zero => cases h
  | succ room ih =>
      have hlt : room < maxNesting := hroom
      rw [readWithin_succ_of_lt hlt] at h
      have hinner := ih (Nat.le_of_lt hlt)
      exact ⟨⟨room, hlt, h⟩,
        throughoutIn_readBlocks (Nat.le_of_lt hlt) hinner h (Passage.since_line ⟨line, dropEmptyLast lines⟩)⟩

def sourcePassage (source : String) : Passage := ⟨1, dropEmptyLast (sourceLines source)⟩

def passageAt (source : String) (root : Node) (path : List Nat) : Passage := (sourcePassage source).along root path

end Block

/-- Every block of a document is what is read at its first line, and the children of every container are
what is read from the lines inside it. -/
theorem parse_isReadIn {settings : Settings} {file : Option String} {source : String} {root : Node}
    (h : parse settings file source = .ok root) :
    root.ThroughoutIn (Block.IsReadIn settings file) (Block.sourcePassage source) := by
  obtain ⟨blocks, hread, h⟩ := exists_of_bind_eq_ok h
  cases h
  have hinner := @Block.readsInside_readWithin settings file Block.maxNesting (Nat.le_refl _)
  have hsource := Block.Passage.since_line (Block.sourcePassage source)
  refine Node.throughoutIn_branch.2 ⟨⟨?_, ?_⟩, ?_⟩
  · intro hrank
    cases hrank
  · intro loc shape children heq hshape
    cases heq
    cases hshape
  · change ∀ n ∈ blocks, n.ThroughoutIn (Block.IsReadIn settings file) (Block.sourcePassage source)
    have hlevel : Block.readLevel (Block.contextWithin settings file Block.maxNesting) settings.titleBlock 1
        (Block.sourcePassage source).lines = .ok blocks := by
      rw [← hread, Block.read, Block.readAt]
      exact (Block.readWithin_succ settings file Block.maxNesting 1 _).symm
    rw [Block.readLevel] at hlevel
    split at hlevel
    · exact Block.throughoutIn_readTitled (Nat.le_refl _) hinner hlevel hsource (Int.le_refl _)
    · exact Block.throughoutIn_readBlocks (Nat.le_refl _) hinner hlevel hsource

end MarkdownOutline
