import MarkdownOutline.Proofs.Block.Cut

namespace MarkdownOutline

/-- Some line is text of a block that begins above it: of a paragraph, or of the heading that a line
further below makes of one. -/
inductive Node.HoldsText (n : Int) : Node → Prop
  | paragraph {loc : Location} {children : List Node} : loc.line < n → n ≤ loc.last →
      Node.HoldsText n (.branch loc .paragraph children)
  | heading {loc : Location} {heading : Heading} {children : List Node} : heading.style = .setext →
      loc.line < n → n < loc.last → Node.HoldsText n (.branch loc (.heading heading) children)

namespace Node

theorem holdsText_paragraph_iff {n : Int} {loc : Location} {children : List Node} :
    (branch loc .paragraph children).HoldsText n ↔ loc.line < n ∧ n ≤ loc.last := by
  constructor
  · rintro ⟨hfirst, hlast⟩
    exact ⟨hfirst, hlast⟩
  · exact fun h => .paragraph h.1 h.2

theorem holdsText_heading_iff {n : Int} {loc : Location} {heading : Heading} {children : List Node} :
    (branch loc (.heading heading) children).HoldsText n ↔
      heading.style = .setext ∧ loc.line < n ∧ n < loc.last := by
  constructor
  · intro h
    cases h with
    | heading hstyle hfirst hlast => exact ⟨hstyle, hfirst, hlast⟩
  · exact fun h => .heading h.1 h.2.1 h.2.2

def HoldsTextAt (n : Int) (path : List Nat) (node : Node) : Prop :=
  ∃ d, node.descendant? path = some d ∧ d.HoldsText n

variable {node d : Node} {path : List Nat} {n : Int}

theorem holdsTextAt_cons_iff {i : Nat} : node.HoldsTextAt n (i :: path) ↔
    ∃ child, node.children[i]? = some child ∧ child.HoldsTextAt n path := by
  constructor
  · rintro ⟨d, hd, hholds⟩
    obtain ⟨child, hchild, hd⟩ := Option.bind_eq_some_iff.1 hd
    exact ⟨child, hchild, d, hd, hholds⟩
  · rintro ⟨child, hchild, d, hd, hholds⟩
    exact ⟨d, Option.bind_eq_some_iff.2 ⟨child, hchild, hd⟩, hholds⟩

theorem within_of_descendant? (h : node.Throughout IsSettled) (hd : node.descendant? path = some d) :
    node.loc.line ≤ d.loc.line ∧ d.loc.last ≤ node.loc.last := by
  induction path generalizing node with
  | nil =>
      cases hd
      exact ⟨Int.le_refl _, Int.le_refl _⟩
  | cons i path ih =>
      obtain ⟨child, hchild, hdescendant⟩ := Option.bind_eq_some_iff.1 hd
      have hmem := List.mem_of_getElem? hchild
      have hinside := (h [] node rfl).inside child hmem
      cases node with
      | leaf loc content => cases hchild
      | branch loc shape children =>
          have hbelow := ih ((throughout_branch.1 h).2 child hmem) hdescendant
          omega

theorem HoldsTextAt.within (h : node.HoldsTextAt n path) (hnode : node.Throughout IsSettled) :
    node.loc.line < n ∧ n ≤ node.loc.last := by
  obtain ⟨d, hd, hholds⟩ := h
  have hwithin := within_of_descendant? hnode hd
  cases hholds with
  | @paragraph loc children hfirst hlast =>
      change node.loc.line ≤ loc.line ∧ loc.last ≤ node.loc.last at hwithin
      omega
  | @heading loc heading children _ hfirst hlast =>
      change node.loc.line ≤ loc.line ∧ loc.last ≤ node.loc.last at hwithin
      omega

theorem not_holdsTextAt_of_stacked {start stop : Int} {nodes : List Node} (hstacked : Stacked start stop nodes)
    (hsettled : ∀ node ∈ nodes, node.Throughout IsSettled) (hn : n ≤ start ∨ stop ≤ n) (i : Nat) (path : List Nat) :
    ¬∃ node, nodes[i]? = some node ∧ node.HoldsTextAt n path := by
  rintro ⟨node, hnode, hholds⟩
  have hmem := List.mem_of_getElem? hnode
  have hbounds := hstacked.bounds node hmem
  have hwithin := hholds.within (hsettled node hmem)
  omega

end Node

namespace Block

open Text

/-- A line below goes on with the paragraph at a path below a node: the paragraph reaches down to the line
above, and each container on the way takes the line as behind text. -/
inductive GoesOn (n : Int) : Passage → Node → List Nat → Line → Prop
  | paragraph {p loc children line} : loc.last + 1 = n → IsContinuation line →
      GoesOn n p (.branch loc .paragraph children) [] line
  | list {p loc ordered start tight items i item path line} : items[i]? = some item → GoesOn n p item path line →
      GoesOn n p (.branch loc (.list ordered start tight) items) (i :: path) line
  | container {p loc shape children first layer content i child path line inner} :
      p.lineAt? loc.line = some first → Layer.Opens shape first layer content →
      layer.take? true line = some inner → children[i]? = some child →
      GoesOn n (p.inside (.branch loc shape children)) child path inner →
      GoesOn n p (.branch loc shape children) (i :: path) line

variable {n : Int} {p : Passage} {node : Node} {path : List Nat} {line : Line}

theorem GoesOn.le_last (h : GoesOn n p node path line) (hnode : node.Throughout Node.IsSettled) :
    n ≤ node.loc.last + 1 := by
  induction h with
  | paragraph hlast _ => exact Int.le_of_eq hlast.symm
  | list hitem _ ih =>
      have hmem := List.mem_of_getElem? hitem
      have hbelow := ih ((Node.throughout_branch.1 hnode).2 _ hmem)
      have hinside := (hnode [] _ rfl).inside _ hmem
      omega
  | container _ _ _ hchild _ ih =>
      have hmem := List.mem_of_getElem? hchild
      have hbelow := ih ((Node.throughout_branch.1 hnode).2 _ hmem)
      have hinside := (hnode [] _ rfl).inside _ hmem
      omega

theorem not_goesOn_of_last_lt (hnode : node.Throughout Node.IsSettled) (hlast : node.loc.last + 1 < n) :
    ¬node.HoldsTextAt n path ∧ ¬GoesOn n p node path line := by
  refine ⟨fun hholds => ?_, fun hgoes => ?_⟩
  · have hwithin := hholds.within hnode
    omega
  · have hreaches := hgoes.le_last hnode
    omega

theorem isBlankLine_of_take?_true {layer : Layer} {inner : Line} (h : layer.take? true line = some inner)
    (hinner : isBlankLine inner = false) : isBlankLine line = false := by
  cases layer with
  | quote => exact Layer.isBlankLine_of_quote_take? h
  | item column => exact (Layer.isBlankLine_of_take? h).symm.trans hinner

theorem GoesOn.isBlankLine_eq_false (h : GoesOn n p node path line) : isBlankLine line = false := by
  induction h with
  | paragraph _ hline => exact hline.full
  | list _ _ ih => exact ih
  | container _ _ htake _ _ ih => exact isBlankLine_of_take?_true htake ih

theorem IsReadIn.full_of_paragraph {settings : Settings} {file : Option String} {loc : Location}
    {children : List Node} (h : IsReadIn settings file p (.branch loc .paragraph children)) (hfirst : loc.line ≤ n)
    (hlast : n ≤ loc.last) : ∃ l, p.lineAt? n = some l ∧ isBlankLine l = false := by
  have htitle : ¬(Node.branch loc .paragraph children).IsTitle := by
    rintro ⟨heading, hheading, _⟩
    cases hheading
  obtain ⟨room, _, first, rest, more, hsince, hfull, hread⟩ := h.block rfl htitle
  change p.since loc.line = first :: rest at hsince
  have hlength : more = (paragraphTail rest).1.length := (readsParagraph_of_readBlock hread).more
  have hspan : loc.last = loc.line + more := (spans_readBlock (lays_readWithin settings file room) hread).last
  obtain ⟨k, rfl⟩ : ∃ k : Nat, n = loc.line + k := ⟨(n - loc.line).toNat, by omega⟩
  cases k with
  | zero =>
      rw [Int.natCast_zero, Int.add_zero]
      exact ⟨first, Passage.lineAt?_of_since hsince, hfull⟩
  | succ k =>
      have hk : k < (rest.take (paragraphTail rest).1.length).length := by
        have hle := length_paragraphTail_le rest
        rw [List.length_take]
        omega
      refine ⟨(rest.take (paragraphTail rest).1.length)[k], ?_, ?_⟩
      · rw [show loc.line + (k + 1 : Nat) = loc.line + 1 + (k : Nat) by omega, Passage.lineAt?_behind hsince,
          List.getElem_take, List.getElem?_eq_getElem]
      · exact (paragraphTail_eq_map rest).2 _ (List.getElem_mem hk)

theorem GoesOn.above {settings : Settings} {file : Option String} (h : GoesOn n p node path line)
    (hnode : node.ThroughoutIn (IsReadIn settings file) p) (hsettled : node.Throughout Node.IsSettled) :
    ∃ l, p.lineAt? (n - 1) = some l ∧ isBlankLine l = false := by
  induction h with
  | @paragraph p loc children _ hlast _ =>
      have hvalid : loc.line ≤ loc.last := (hsettled [] _ rfl).valid fun hhollow => by cases hhollow.1
      exact (hnode [] _ rfl).full_of_paragraph (by omega) (by omega)
  | list hitem _ ih =>
      have hmem := List.mem_of_getElem? hitem
      exact ih ((Node.throughoutIn_branch.1 hnode).2 _ hmem) ((Node.throughout_branch.1 hsettled).2 _ hmem)
  | @container p loc shape children first layer content i child path line inner hfirst hopens htake hchild _ ih =>
      have hmem := List.mem_of_getElem? hchild
      obtain ⟨l, hl, hfull⟩ :=
        ih ((Node.throughoutIn_branch.1 hnode).2 _ hmem) ((Node.throughout_branch.1 hsettled).2 _ hmem)
      obtain ⟨rest, hsince⟩ := Passage.exists_since_of_lineAt? hfirst
      have hle := Passage.line_le_of_lineAt? hl
      rw [Passage.inside_of_opens hsince hopens] at hle
      by_cases hn : n - 1 = loc.line
      · rw [hn]
        exact ⟨first, hfirst, hopens.isBlankLine_eq_false⟩
      · change loc.line ≤ n - 1 at hle
        obtain ⟨above, outer, _, houter, htakeAbove⟩ := Passage.take?_of_inside hsince hopens (by omega) hl
        exact ⟨outer, houter, isBlankLine_of_take?_true (Layer.take?_true htakeAbove) hfull⟩

section

variable {settings : Settings}

/-- Below text there is only what is written in a line. -/
theorem holdsTextAt_text_iff {loc loc' : Location} {shape : Branch} {text : Line} :
    (Node.branch loc shape (Inline.read settings loc' text)).HoldsTextAt n path ↔
      path = [] ∧ (Node.branch loc shape (Inline.read settings loc' text)).HoldsText n := by
  cases path with
  | nil => simp [Node.HoldsTextAt, Node.descendant?]
  | cons i path =>
      refine iff_of_false ?_ (fun h => List.cons_ne_nil _ _ h.1)
      rintro ⟨d, hd, hholds⟩
      obtain ⟨child, hchild, hd⟩ := Option.bind_eq_some_iff.1 hd
      have hinline : d.IsInline := @Node.throughoutIn_of_areInline (fun _ d => d.IsInline) (fun _ _ h => h) _
        (Inline.areInline_read settings loc' text) ⟨0, []⟩ child (List.mem_of_getElem? hchild) path d hd
      cases hholds with
      | paragraph => exact hinline.1
      | heading => exact hinline.1

/-- The lines of a text are those of the paragraph, and an underline is not one of them. -/
theorem holdsTextAt_paragraphBlock_iff {ctx : Context} {line : Int} {first : Line} {rest : List Line} :
    (paragraphBlock ctx line first rest).node.HoldsTextAt n path ↔
      path = [] ∧ line < n ∧ n ≤ line + (paragraphTail rest).1.length := by
  obtain ⟨tail, level, htail⟩ : ∃ tail level, paragraphTail rest = (tail, level) := ⟨_, _, rfl⟩
  rw [paragraphBlock, htail]
  cases level with
  | none => exact holdsTextAt_text_iff.trans (and_congr_right fun _ => Node.holdsText_paragraph_iff)
  | some level =>
      refine holdsTextAt_text_iff.trans (and_congr_right fun _ => Node.holdsText_heading_iff.trans ?_)
      change _ ∧ line < n ∧ n < line + (tail.length + 1 : Nat) ↔ line < n ∧ n ≤ line + tail.length
      rw [← Int.lt_add_one_iff, Int.natCast_succ, Int.add_assoc]
      exact and_iff_right rfl

theorem not_goesOn_heading {loc : Location} {heading : Heading} {children : List Node} :
    ¬GoesOn n p (.branch loc (.heading heading) children) path line := by
  intro h
  cases h with
  | container _ hopens => cases hopens

/-- A line behind lines of text goes on with them if it is no underline and begins no block. -/
theorem goesOn_paragraphBlock_iff {ctx : Context} {line : Int} {first next : Line} {above below : List Line}
    (hmore : above.length ≤ (paragraphBlock ctx line first (above ++ next :: below)).more)
    (hn : n = line + 1 + above.length) :
    GoesOn n p (paragraphBlock ctx line first above).node path next ↔
      path = [] ∧ line < n ∧ n ≤ line + (paragraphTail (above ++ next :: below)).1.length := by
  rw [more_paragraphBlock] at hmore
  rcases paragraphTail_append_cases (next :: below) above with ⟨hlt, heq⟩ | ⟨hall, heq⟩
  · rw [heq] at hmore ⊢
    obtain ⟨tail, level, htail⟩ : ∃ tail level, paragraphTail above = (tail, level) := ⟨_, _, rfl⟩
    rw [htail] at hmore hlt ⊢
    refine iff_of_false ?_ (fun h => ?_)
    · rw [paragraphBlock, htail]
      cases level with
      | none =>
          simp only [Option.toList_none, List.length_nil] at hmore hlt
          omega
      | some level => exact not_goesOn_heading
    · have hlast := h.2.2
      simp only at hlast hlt
      omega
  · rw [paragraphBlock, paragraphTail_of_forall hall, heq]
    simp only [List.length_map, List.length_append]
    by_cases hnext : IsContinuation next
    · rw [paragraphTail_of_isContinuation hnext]
      constructor
      · intro h
        cases h with
        | paragraph => exact ⟨rfl, by omega, by simp only [List.length_cons]; omega⟩
        | container _ hopens => cases hopens
      · rintro ⟨rfl, _⟩
        refine .paragraph ?_ hnext
        change line + (above.length : Int) + 1 = n
        omega
    · rw [(paragraphTail_of_not_isContinuation hnext below below).2]
      refine iff_of_false ?_ (fun h => ?_)
      · intro h
        cases h with
        | paragraph _ h => exact hnext h
        | container _ hopens => cases hopens
      · have hlast := h.2.2
        rw [List.length_nil] at hlast
        omega

end

end Block

end MarkdownOutline
