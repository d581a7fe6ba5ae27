import MarkdownOutline.Proofs.Block.Continued

namespace MarkdownOutline.Block

section

variable {settings : Settings} {file : Option String}

/-- With room for some containers, a line is text of a block that begins above it if and only if it goes on
with a paragraph that is open where the lines above end. -/
def HandsOn (settings : Settings) (file : Option String) (room : Nat) : Prop :=
  ∀ {p : Passage} {line : Int} {above below : List Line} {next : Line} {nodes : List Node},
    p.since line = above → readBlocks (contextWithin settings file room) line (above ++ next :: below) = .ok nodes →
    ∀ (i : Nat) path, (∃ top, nodes[i]? = some top ∧ top.HoldsTextAt (line + above.length) path) ↔
      ∃ blocks top, readBlocks (contextWithin settings file room) line above = .ok blocks ∧
        blocks[i]? = some top ∧ GoesOn (line + above.length) p top path next

theorem not_goesOn_of_isBlankLine {room : Nat} (hroom : room ≤ maxNesting) {start : Int} {above kept : List Line}
    {blocks : List Node} {i : Nat} {top : Node} {path : List Nat} {line : Line}
    (hread : readBlocks (contextWithin settings file room) start kept = .ok blocks)
    (hkept : kept <+: above) (habove : above ≠ []) (hblank : isBlankLine (above.getLast habove) = true)
    (htop : blocks[i]? = some top) : ¬GoesOn (start + above.length) ⟨start, kept⟩ top path line := by
  intro hgoes
  have hsince := Passage.since_line ⟨start, kept⟩
  have hthroughout := throughoutIn_readBlocks hroom (readsInside_readWithin hroom) hread hsince
  have hsettled := (lays_readBlocks (lays_readWithin settings file room) hread).settled
  have hmem := List.mem_of_getElem? htop
  obtain ⟨l, hl, hfull⟩ := hgoes.above (hthroughout top hmem) (hsettled top hmem)
  have hpos := List.length_pos_iff.2 habove
  rw [show start + above.length - 1 = start + (above.length - 1 : Nat) by omega] at hl
  have hlast : kept[above.length - 1]? = some l := (Passage.lineAt?_line_add ⟨start, kept⟩ _).symm.trans hl
  obtain ⟨dropped, rfl⟩ := hkept
  have hlt := (List.getElem?_eq_some_iff.1 hlast).1
  rw [← List.getElem?_append_left hlt, ← List.getLast?_eq_getElem?, List.getLast?_eq_some_getLast habove] at hlast
  cases hlast
  rw [hfull] at hblank
  cases hblank

theorem HandsOn.inside {room : Nat} (h : HandsOn settings file room) (hroom : room ≤ maxNesting) {layer : Layer}
    {inside below : List Line} {next : Line} {start : Int} {children : List Node} (hne : inside ≠ [])
    (hread : readBlocks (contextWithin settings file room) start
      (layer.kept (inside ++ layer.tail (!isBlankLine (inside.getLast hne)) (next :: below))) = .ok children)
    (i : Nat) (path : List Nat) :
    (∃ child, children[i]? = some child ∧ child.HoldsTextAt (start + inside.length) path) ↔
      ∃ blocks child inner, readBlocks (contextWithin settings file room) start (layer.kept inside) = .ok blocks ∧
        blocks[i]? = some child ∧ layer.take? true next = some inner ∧
        GoesOn (start + inside.length) ⟨start, layer.kept inside⟩ child path inner := by
  have hinner := lays_readWithin settings file room
  rcases layer.kept_append_tail_cases inside (!isBlankLine (inside.getLast hne)) next below with
    ⟨inner, others, htake, hkept⟩ | ⟨hkept, hdropped⟩
  · rw [hkept] at hread
    have htaken := Layer.take?_true htake
    refine (h (Passage.since_line ⟨start, inside⟩) hread i path).trans ?_
    cases hblank : isBlankLine (inside.getLast hne) with
    | true =>
        -- Nothing is open behind a blank line, whether it is kept or not.
        refine iff_of_false ?_ ?_
        · rintro ⟨blocks, child, hblocks, hchild, hgoes⟩
          exact not_goesOn_of_isBlankLine hroom hblocks (List.prefix_refl inside) hne hblank hchild hgoes
        · rintro ⟨blocks, child, _, hblocks, hchild, _, hgoes⟩
          exact not_goesOn_of_isBlankLine hroom hblocks (layer.initial_kept inside) hne hblank hchild hgoes
    | false =>
        rw [layer.kept_eq_self hne hblank]
        constructor
        · rintro ⟨blocks, child, hblocks, hchild, hgoes⟩
          exact ⟨blocks, child, inner, hblocks, hchild, htaken, hgoes⟩
        · rintro ⟨blocks, child, inner', hblocks, hchild, htaken', hgoes⟩
          rw [htaken] at htaken'
          cases htaken'
          exact ⟨blocks, child, hblocks, hchild, hgoes⟩
  · have hlays := lays_readBlocks hinner hread
    have hlength := hkept.length_le
    refine iff_of_false (Node.not_holdsTextAt_of_stacked hlays.stacked hlays.settled (.inr (by omega)) i path) ?_
    rintro ⟨blocks, child, inner, hblocks, hchild, htaken, hgoes⟩
    cases hblank : isBlankLine (inside.getLast hne) with
    | true => exact not_goesOn_of_isBlankLine hroom hblocks (layer.initial_kept inside) hne hblank hchild hgoes
    | false =>
        rw [hblank] at hdropped
        have hfull := hgoes.isBlankLine_eq_false
        rw [hdropped inner htaken] at hfull
        cases hfull

/-- A line handed on to a container that the lines above do not end. -/
theorem HandsOn.container {room : Nat} (h : HandsOn settings file room) (hroom : room ≤ maxNesting) {p : Passage}
    {layer : Layer} {shape : Branch} {line n : Int} {first content next : Line} {above below : List Line}
    {children : List Node} (hp : p.since line = first :: above) (hopens : layer.Opens shape first content)
    (hall : (layer.tail (!isBlankLine content) above).length = above.length)
    (hread : readBlocks (contextWithin settings file room) line
      (layer.kept (content :: layer.tail (!isBlankLine content) (above ++ next :: below))) = .ok children)
    (hn : n = line + 1 + above.length) (loc loc' : Location) (hloc : loc'.line = line) (path : List Nat) :
    (Node.branch loc shape children).HoldsTextAt n path ↔
      ∃ blocks, readBlocks (contextWithin settings file room) line
          (layer.kept (content :: layer.tail (!isBlankLine content) above)) = .ok blocks ∧
        GoesOn n p (.branch loc' shape blocks) path next := by
  subst hloc
  have htail := ((layer.tail_append_cases (next :: below) content above).resolve_left fun hlt => by omega).2
  rw [htail, ← List.cons_append] at hread
  have hlength : n = loc'.line + (content :: layer.tail (!isBlankLine content) above).length := by
    rw [List.length_cons, hall]
    omega
  have hinside (blocks : List Node) : p.inside (.branch loc' shape blocks) =
      ⟨loc'.line, layer.kept (content :: layer.tail (!isBlankLine content) above)⟩ :=
    Passage.inside_of_opens hp hopens
  have hfirst := Passage.lineAt?_of_since hp
  cases path with
  | nil =>
      refine iff_of_false ?_ ?_
      · rintro ⟨d, hd, hholds⟩
        cases hd
        cases hholds <;> cases hopens
      · rintro ⟨blocks, _, hgoes⟩
        cases hgoes
        cases hopens
  | cons i path =>
      rw [Node.holdsTextAt_cons_iff, hlength]
      refine (h.inside hroom (List.cons_ne_nil _ _) hread i path).trans ⟨?_, ?_⟩
      · rintro ⟨blocks, child, inner, hblocks, hchild, hinner, hgoes⟩
        refine ⟨blocks, hblocks, .container hfirst hopens hinner hchild ?_⟩
        rw [hinside]
        exact hgoes
      · rintro ⟨blocks, hblocks, hgoes⟩
        cases hgoes with
        | list => cases hopens
        | container hfirst' hopens' hinner hchild hgoes =>
            rw [hfirst] at hfirst'
            cases hfirst'
            obtain ⟨rfl, rfl⟩ := hopens.unique hopens'
            rw [hinside] at hgoes
            exact ⟨blocks, _, _, hblocks, hchild, hinner, hgoes⟩

def itemLocation (ctx : Context) (line : Int) (content : Line) (tail : List Line) : Location :=
  (ctx.at line).through
    (line + tail.length - (tail.length + 1 - (dropTrailingBlank (content :: tail)).length : Nat))

theorem last_itemLocation_le (ctx : Context) (line : Int) (content : Line) (tail : List Line) :
    (itemLocation ctx line content tail).last ≤ line + tail.length :=
  Int.sub_le_self _ (Int.natCast_nonneg _)

section

variable {ctx : Context} {bullet : Bullet} {line : Int} {first : Line} {rest tail : List Line} {m : Marker}
  (hm : sibling? bullet first = some m) (htail : itemTail m.column (!isBlankLine m.content) rest = tail)
include hm htail

theorem exists_readItems_zero_iff {P : Node → Prop} :
    (∃ items item, readItems ctx bullet line (first :: rest) = .ok items ∧ items.nodes[0]? = some item ∧ P item) ↔
      ∃ children later, ctx.inner line (dropTrailingBlank (m.content :: tail)) = .ok children ∧
        readItems ctx bullet (line + tail.length + 1) (rest.drop tail.length) = .ok later ∧
        P (.branch (itemLocation ctx line m.content tail) .listItem children) := by
  subst htail
  rw [readItems, hm]
  constructor
  · rintro ⟨items, item, h, hitem, hP⟩
    obtain ⟨children, hchildren, h⟩ := exists_of_bind_eq_ok h
    obtain ⟨later, hlater, h⟩ := exists_of_bind_eq_ok h
    cases h
    cases hitem
    exact ⟨children, later, hchildren, hlater, hP⟩
  · rintro ⟨children, later, hchildren, hlater, hP⟩
    simp only [hchildren, hlater, bind, Except.bind]
    exact ⟨_, _, rfl, rfl, hP⟩

theorem exists_readItems_succ_iff {P : Node → Prop} {i : Nat} :
    (∃ items item, readItems ctx bullet line (first :: rest) = .ok items ∧ items.nodes[i + 1]? = some item ∧ P item) ↔
      (∃ children, ctx.inner line (dropTrailingBlank (m.content :: tail)) = .ok children) ∧
      ∃ later item, readItems ctx bullet (line + tail.length + 1) (rest.drop tail.length) = .ok later ∧
        later.nodes[i]? = some item ∧ P item := by
  subst htail
  rw [readItems, hm]
  constructor
  · rintro ⟨items, item, h, hitem, hP⟩
    obtain ⟨children, hchildren, h⟩ := exists_of_bind_eq_ok h
    obtain ⟨later, hlater, h⟩ := exists_of_bind_eq_ok h
    cases h
    exact ⟨⟨children, hchildren⟩, later, item, hlater, hitem, hP⟩
  · rintro ⟨⟨children, hchildren⟩, later, item, hlater, hitem, hP⟩
    simp only [hchildren, hlater, bind, Except.bind]
    exact ⟨_, item, rfl, hitem, hP⟩

end

theorem inner_dropTrailingBlank {room : Nat} (hroom : room < maxNesting) (line : Int) (lines : List Line) :
    (contextWithin settings file (room + 1)).inner line (dropTrailingBlank lines) =
      readBlocks (contextWithin settings file room) line (dropTrailingBlank lines) := by
  change readWithin settings file (room + 1) line (dropTrailingBlank lines) = _
  rw [readWithin_succ_of_lt hroom, dropEmptyLast_dropTrailingBlank]

/-- A line behind an item that the lines above do not end, which is the last of the items. -/
theorem HandsOn.last_item {room : Nat} (h : HandsOn settings file room) (hroom : room < maxNesting) {p : Passage}
    {bullet : Bullet} {line start stop n : Int} {first next : Line} {rest below : List Line} {m : Marker}
    {children later : List Node} (hp : p.since line = first :: rest) (hm : sibling? bullet first = some m)
    (hall : (itemTail m.column (!isBlankLine m.content) rest).length = rest.length)
    (hread : (contextWithin settings file (room + 1)).inner line
      (dropTrailingBlank (m.content :: itemTail m.column (!isBlankLine m.content) (rest ++ next :: below))) =
        .ok children)
    (hlater : Stacked start stop later) (hsettled : ∀ node ∈ later, node.Throughout Node.IsSettled) (hstart : n ≤ start)
    (hn : n = line + 1 + rest.length) (loc : Location) (i : Nat) (path : List Nat) :
    (∃ item, (Node.branch loc .listItem children :: later)[i]? = some item ∧ item.HoldsTextAt n path) ↔
      ∃ taken item, readItems (contextWithin settings file (room + 1)) bullet line (first :: rest) = .ok taken ∧
        taken.nodes[i]? = some item ∧ GoesOn n p item path next := by
  have hrest : rest.drop (itemTail m.column (!isBlankLine m.content) rest).length = [] :=
    List.drop_eq_nil_of_le (Nat.le_of_eq hall.symm)
  cases i with
  | zero =>
      rw [exists_readItems_zero_iff hm rfl, hrest, readItems]
      rw [inner_dropTrailingBlank hroom] at hread ⊢
      simp only [List.getElem?_cons_zero, Option.some.injEq, exists_eq_left']
      have hiff := h.container (Nat.le_of_lt hroom) hp (.item (marker?_of_sibling? hm)) hall hread hn loc
        (itemLocation (contextWithin settings file (room + 1)) line m.content
          (itemTail m.column (!isBlankLine m.content) rest)) rfl path
      refine hiff.trans ⟨?_, ?_⟩
      · rintro ⟨blocks, hblocks, hgoes⟩
        exact ⟨blocks, {}, hblocks, rfl, hgoes⟩
      · rintro ⟨blocks, _, hblocks, _, hgoes⟩
        exact ⟨blocks, hblocks, hgoes⟩
  | succ i =>
      rw [exists_readItems_succ_iff hm rfl, hrest, readItems, List.getElem?_cons_succ]
      refine iff_of_false (Node.not_holdsTextAt_of_stacked hlater hsettled (.inl hstart) i path) ?_
      rintro ⟨_, none, item, hnone, hitem, _⟩
      cases hnone
      cases hitem

/-- A line behind an item that ends above is left to the items behind it. -/
theorem ended_item {ctx : Context} {p : Passage} {bullet : Bullet} {line n : Int} {first next : Line}
    {rest tail : List Line} {m : Marker} {children later : List Node} {path : List Nat}
    (hm : sibling? bullet first = some m) (htail : itemTail m.column (!isBlankLine m.content) rest = tail)
    (hread : ctx.inner line (dropTrailingBlank (m.content :: tail)) = .ok children)
    (hsettled : (Node.branch (itemLocation ctx line m.content tail) .listItem children).Throughout Node.IsSettled)
    (hn : line + tail.length + 1 < n)
    (hbehind : ∀ i : Nat, (∃ item, later[i]? = some item ∧ item.HoldsTextAt n path) ↔
      ∃ taken item, readItems ctx bullet (line + tail.length + 1) (rest.drop tail.length) = .ok taken ∧
        taken.nodes[i]? = some item ∧ GoesOn n p item path next) (i : Nat) :
    (∃ item, (Node.branch (itemLocation ctx line m.content tail) .listItem children :: later)[i]? = some item ∧
        item.HoldsTextAt n path) ↔
      ∃ taken item, readItems ctx bullet line (first :: rest) = .ok taken ∧
        taken.nodes[i]? = some item ∧ GoesOn n p item path next := by
  cases i with
  | zero =>
      have hlast := last_itemLocation_le ctx line m.content tail
      obtain ⟨hholds, hgoes⟩ := @not_goesOn_of_last_lt n p _ path next hsettled
        (show (itemLocation ctx line m.content tail).last + 1 < n by omega)
      rw [exists_readItems_zero_iff hm htail]
      refine iff_of_false ?_ ?_
      · rintro ⟨item, hitem, hitemHolds⟩
        cases hitem
        exact hholds hitemHolds
      · rintro ⟨children', _, hchildren, _, hitemGoes⟩
        rw [hread] at hchildren
        cases hchildren
        exact hgoes hitemGoes
  | succ i =>
      rw [exists_readItems_succ_iff hm htail, List.getElem?_cons_succ]
      exact (hbehind i).trans ⟨fun hitem => ⟨⟨children, hread⟩, hitem⟩, And.right⟩

/-- A line behind the lines of some items goes on with the last. -/
theorem HandsOn.items {room : Nat} (h : HandsOn settings file room) (hroom : room < maxNesting) {p : Passage}
    {bullet : Bullet} {line n : Int} {above below : List Line} {next : Line} {items : Items}
    (hread : readItems (contextWithin settings file (room + 1)) bullet line (above ++ next :: below) = .ok items)
    (hp : p.since line = above) (hne : above ≠ []) (hlines : above.length ≤ items.lines)
    (hn : n = line + above.length) (i : Nat) (path : List Nat) :
    (∃ item, items.nodes[i]? = some item ∧ item.HoldsTextAt n path) ↔
      ∃ taken item, readItems (contextWithin settings file (room + 1)) bullet line above = .ok taken ∧
        taken.nodes[i]? = some item ∧ GoesOn n p item path next := by
  induction hsize : above.length using Nat.strong_induction_on generalizing line above items i with
  | _ size ih =>
  cases above with
  | nil => exact absurd rfl hne
  | cons first rest =>
  cases hm : sibling? bullet first with
  | none =>
      rw [List.cons_append, readItems, hm] at hread
      cases hread
      exact absurd hlines (by simp)
  | some m =>
  have hinner := lays_readWithin settings file (room + 1)
  have hsettled := (stacked_readItems hinner hread).2
  rw [List.cons_append, readItems, hm] at hread
  obtain ⟨children, hchildren, hread⟩ := exists_of_bind_eq_ok hread
  obtain ⟨later, hlater, hread⟩ := exists_of_bind_eq_ok hread
  cases hread
  rw [List.length_cons] at hn hlines hsize
  obtain ⟨hitem, hbehind⟩ := List.forall_mem_cons.1 hsettled
  rcases (Layer.item m.column).tail_append_cases (next :: below) m.content rest with ⟨hlt, heq⟩ | ⟨hall, heq⟩
  · obtain ⟨tail, htail⟩ : ∃ tail, itemTail m.column (!isBlankLine m.content) rest = tail := ⟨_, rfl⟩
    simp only [Layer.tail, htail] at hlt heq
    simp only [heq] at hchildren hlater hlines hitem ⊢
    rw [List.drop_append_of_le_length (Nat.le_of_lt hlt)] at hlater
    have hlength : (rest.drop tail.length).length = rest.length - tail.length := List.length_drop
    have hne' : rest.drop tail.length ≠ [] := by
      rw [List.ne_nil_iff_length_pos]
      omega
    refine ended_item hm htail hchildren hitem (by omega) (fun i => ?_) i
    exact ih _ (by omega) hlater (Passage.since_behind hp tail.length) hne' (by omega) (by omega) i rfl
  · simp only [Layer.tail] at hall heq
    have hstacked := (stacked_readItems hinner hlater).1
    refine h.last_item hroom hp hm hall hchildren hstacked hbehind ?_ (by omega) _ i path
    rw [heq, List.length_append]
    omega

end

end MarkdownOutline.Block
