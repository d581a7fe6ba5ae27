import MarkdownOutline.Proofs.Block.Inside

namespace MarkdownOutline

namespace Block

section

variable {settings : Settings} {file : Option String}

theorem HandsOn.quote {room : Nat} (h : HandsOn settings file room) (hroom : room < maxNesting) {p : Passage}
    {line n : Int} {first inner next : Line} {above below : List Line} {block : Taken}
    (hread : quoteBlock (contextWithin settings file (room + 1)) line inner (above ++ next :: below) = .ok block)
    (hp : p.since line = first :: above) (hinner : unquote? first = some inner) (hmore : above.length ≤ block.more)
    (hn : n = line + 1 + above.length) (path : List Nat) :
    block.node.HoldsTextAt n path ↔
      ∃ taken, quoteBlock (contextWithin settings file (room + 1)) line inner above = .ok taken ∧
        GoesOn n p taken.node path next := by
  have hcontext (lines : List Line) : (contextWithin settings file (room + 1)).inner line lines =
      readBlocks (contextWithin settings file room) line (dropEmptyLast lines) :=
    readWithin_succ_of_lt hroom line lines
  obtain ⟨children, hchildren, hread⟩ := exists_of_bind_eq_ok hread
  cases hread
  have hall : (quoteTail (!isBlankLine inner) above).length = above.length := by
    rcases Layer.quote.tail_append_cases (next :: below) inner above with ⟨hlt, heq⟩ | ⟨hall, _⟩
    · simp only [Layer.tail] at hlt heq
      simp only [heq] at hmore
      omega
    · exact hall
  rw [hcontext] at hchildren
  have hiff (loc loc' : Location) (hline : loc'.line = line) :=
    h.container (Nat.le_of_lt hroom) hp (.quote hinner) hall hchildren hn loc loc' hline path
  simp only [Layer.tail, Layer.kept] at hiff
  rw [quoteBlock, hcontext, hall]
  constructor
  · intro hholds
    obtain ⟨blocks, hblocks, hgoes⟩ :=
      (hiff _ ((contextWithin settings file (room + 1)).span line above.length) rfl).1 hholds
    refine ⟨⟨_, above.length⟩, ?_, hgoes⟩
    rw [hblocks]
    rfl
  · rintro ⟨taken, htaken, hgoes⟩
    obtain ⟨blocks, hblocks, htaken⟩ := exists_of_bind_eq_ok htaken
    cases htaken
    exact (hiff _ _ rfl).2 ⟨blocks, hblocks, hgoes⟩

theorem HandsOn.list {room : Nat} (h : HandsOn settings file room) (hroom : room < maxNesting) {p : Passage}
    {line n : Int} {m : Marker} {first next : Line} {above below : List Line} {block : Taken}
    (hread : listBlock (contextWithin settings file (room + 1)) line m (first :: (above ++ next :: below)) = .ok block)
    (hp : p.since line = first :: above) (hm : sibling? m.bullet first = some m) (hmore : above.length ≤ block.more)
    (hn : n = line + 1 + above.length) (path : List Nat) :
    block.node.HoldsTextAt n path ↔
      ∃ taken, listBlock (contextWithin settings file (room + 1)) line m (first :: above) = .ok taken ∧
        GoesOn n p taken.node path next := by
  obtain ⟨items, hitems, hread⟩ := exists_of_bind_eq_ok hread
  cases hread
  have hlines := lines_pos_of_readItems hm hitems
  have hlength : (first :: above).length ≤ items.lines := by
    simp only [List.length_cons] at hmore ⊢
    omega
  have hlast : n = line + (first :: above).length := by
    rw [List.length_cons]
    omega
  cases path with
  | nil =>
      refine iff_of_false ?_ ?_
      · rintro ⟨d, hd, hholds⟩
        cases hd
        cases hholds
      · rintro ⟨taken, htaken, hgoes⟩
        obtain ⟨above, _, htaken⟩ := exists_of_bind_eq_ok htaken
        cases htaken
        cases hgoes
  | cons i path =>
      rw [Node.holdsTextAt_cons_iff]
      refine (h.items hroom hitems hp (List.cons_ne_nil _ _) hlength hlast i path).trans ⟨?_, ?_⟩
      · rintro ⟨taken, item, htaken, hitem, hgoes⟩
        rw [listBlock, htaken]
        exact ⟨_, rfl, .list hitem hgoes⟩
      · rintro ⟨taken, htaken, hgoes⟩
        obtain ⟨aboveItems, haboveItems, htaken⟩ := exists_of_bind_eq_ok htaken
        cases htaken
        cases hgoes with
        | list hitem hgoes => exact ⟨aboveItems, _, haboveItems, hitem, hgoes⟩
        | container _ hopens => cases hopens

/-- A line behind those of a block that goes on to it. -/
theorem HandsOn.block {room : Nat} (hroom : room ≤ maxNesting) (h : ∀ r, room = r + 1 → HandsOn settings file r)
    {p : Passage} {line n : Int} {first next : Line} {above below : List Line} {block : Taken}
    (hread : readBlock (contextWithin settings file room) line first (above ++ next :: below) = .ok block)
    (hp : p.since line = first :: above) (hmore : above.length ≤ block.more) (hn : n = line + 1 + above.length)
    (path : List Nat) :
    block.node.HoldsTextAt n path ↔ ∃ taken, readBlock (contextWithin settings file room) line first above = .ok taken ∧
      GoesOn n p taken.node path next := by
  rw [readBlock_eq] at hread ⊢
  have hleaf {loc loc' : Location} {content content' : Leaf} {more : Nat} :
      (Node.leaf loc content).HoldsTextAt n path ↔
        ∃ taken, (.ok ⟨.leaf loc' content', more⟩ : Except ParseError Taken) = .ok taken ∧
          GoesOn n p taken.node path next := by
    refine iff_of_false ?_ ?_
    · rintro ⟨d, hd, hholds⟩
      cases path with
      | nil =>
          cases hd
          cases hholds
      | cons i path => cases hd
    · rintro ⟨taken, htaken, hgoes⟩
      cases htaken
      cases hgoes
  cases hopener : opener first with
  | fence f =>
      rw [hopener] at hread
      cases hread
      exact hleaf
  | atx level content =>
      rw [hopener] at hread
      cases hread
      refine iff_of_false ?_ ?_
      · intro hholds
        cases (holdsTextAt_text_iff.1 hholds).2 with
        | heading hstyle => cases hstyle
      · rintro ⟨taken, htaken, hgoes⟩
        cases htaken
        exact not_goesOn_heading hgoes
  | thematic =>
      rw [hopener] at hread
      cases hread
      exact hleaf
  | indented =>
      rw [hopener] at hread
      cases hread
      exact hleaf
  | html =>
      rw [hopener] at hread
      cases hread
      exact hleaf
  | text =>
      rw [hopener] at hread
      cases hread
      rw [holdsTextAt_paragraphBlock_iff, ← goesOn_paragraphBlock_iff hmore hn]
      constructor
      · exact fun hgoes => ⟨_, rfl, hgoes⟩
      · rintro ⟨taken, htaken, hgoes⟩
        cases htaken
        exact hgoes
  | quote inner =>
      rw [hopener] at hread
      cases room with
      | zero =>
          obtain ⟨children, hchildren, _⟩ := exists_of_bind_eq_ok hread
          cases hchildren
      | succ room => exact HandsOn.quote (h room rfl) hroom hread hp (unquote?_of_opener hopener) hmore hn path
  | item m =>
      rw [hopener] at hread
      have hm := sibling?_of_opener hopener
      cases room with
      | zero =>
          obtain ⟨items, hitems, _⟩ := exists_of_bind_eq_ok hread
          rw [readItems, hm] at hitems
          cases hitems
      | succ room => exact HandsOn.list (h room rfl) hroom hread hp hm hmore hn path

section

variable {ctx : Context} {line : Int} {first : Line} {rest : List Line} (hfirst : isBlankLine first = false)
include hfirst

theorem exists_readBlocks_zero_iff {P : Node → Prop} :
    (∃ blocks top, readBlocks ctx line (first :: rest) = .ok blocks ∧ blocks[0]? = some top ∧ P top) ↔
      ∃ block later, readBlock ctx line first rest = .ok block ∧
        readBlocks ctx (line + 1 + block.more) (rest.drop block.more) = .ok later ∧ P block.node := by
  rw [readBlocks, if_neg (Bool.eq_false_iff.1 hfirst)]
  constructor
  · rintro ⟨blocks, top, h, htop, hP⟩
    obtain ⟨block, hblock, h⟩ := exists_of_bind_eq_ok h
    obtain ⟨later, hlater, h⟩ := exists_of_bind_eq_ok h
    cases h
    cases htop
    exact ⟨block, later, hblock, hlater, hP⟩
  · rintro ⟨block, later, hblock, hlater, hP⟩
    simp only [hblock, hlater, bind, Except.bind]
    exact ⟨_, _, rfl, rfl, hP⟩

theorem exists_readBlocks_succ_iff {P : Node → Prop} {i : Nat} :
    (∃ blocks top, readBlocks ctx line (first :: rest) = .ok blocks ∧ blocks[i + 1]? = some top ∧ P top) ↔
      ∃ block, readBlock ctx line first rest = .ok block ∧
        ∃ later top, readBlocks ctx (line + 1 + block.more) (rest.drop block.more) = .ok later ∧
          later[i]? = some top ∧ P top := by
  rw [readBlocks, if_neg (Bool.eq_false_iff.1 hfirst)]
  constructor
  · rintro ⟨blocks, top, h, htop, hP⟩
    obtain ⟨block, hblock, h⟩ := exists_of_bind_eq_ok h
    obtain ⟨later, hlater, h⟩ := exists_of_bind_eq_ok h
    cases h
    exact ⟨block, hblock, later, top, hlater, htop, hP⟩
  · rintro ⟨block, hblock, later, top, hlater, htop, hP⟩
    simp only [hblock, hlater, bind, Except.bind]
    exact ⟨_, top, rfl, htop, hP⟩

end

theorem readBlocks_drop {ctx : Context} {rest : List Line} {k : Nat} (hk : rest.length ≤ k) (line : Int) :
    readBlocks ctx line (rest.drop k) = .ok [] := by
  rw [List.drop_eq_nil_of_le hk, readBlocks]
  rfl

theorem HandsOn.last_block {room : Nat} (hroom : room ≤ maxNesting) (h : ∀ r, room = r + 1 → HandsOn settings file r)
    {p : Passage} {line n : Int} {first next : Line} {rest below : List Line} {block : Taken} {later : List Node}
    (hfirst : isBlankLine first = false)
    (hread : readBlock (contextWithin settings file room) line first (rest ++ next :: below) = .ok block)
    (hlater : readBlocks (contextWithin settings file room) (line + 1 + block.more)
      ((rest ++ next :: below).drop block.more) = .ok later)
    (hp : p.since line = first :: rest) (hmore : rest.length ≤ block.more) (hn : n = line + 1 + rest.length)
    (i : Nat) (path : List Nat) :
    (∃ top, (block.node :: later)[i]? = some top ∧ top.HoldsTextAt n path) ↔
      ∃ blocks top, readBlocks (contextWithin settings file room) line (first :: rest) = .ok blocks ∧
        blocks[i]? = some top ∧ GoesOn n p top path next := by
  have hreach {taken : Taken} (htaken : readBlock (contextWithin settings file room) line first rest = .ok taken) :
      rest.length ≤ taken.more := by
    by_contra hlt
    rw [(readBlock_append_iff (next :: below) (Nat.lt_of_not_le hlt)).2 htaken] at hread
    cases hread
    exact hlt hmore
  cases i with
  | zero =>
      rw [exists_readBlocks_zero_iff hfirst]
      simp only [List.getElem?_cons_zero, Option.some.injEq, exists_eq_left']
      refine (HandsOn.block hroom h hread hp hmore hn path).trans ⟨?_, ?_⟩
      · rintro ⟨taken, htaken, hgoes⟩
        exact ⟨taken, [], htaken, readBlocks_drop (hreach htaken) _, hgoes⟩
      · rintro ⟨taken, _, htaken, _, hgoes⟩
        exact ⟨taken, htaken, hgoes⟩
  | succ i =>
      have hlays := lays_readBlocks (lays_readWithin settings file room) hlater
      rw [exists_readBlocks_succ_iff hfirst, List.getElem?_cons_succ]
      refine iff_of_false (Node.not_holdsTextAt_of_stacked hlays.stacked hlays.settled (.inl (by omega)) i path) ?_
      rintro ⟨taken, htaken, blocks, top, hblocks, htop, _⟩
      rw [readBlocks_drop (hreach htaken)] at hblocks
      cases hblocks
      cases htop

/-- A line behind a block that ends above is left to the blocks behind it. -/
theorem ended_block {ctx : Context} {p : Passage} {line n : Int} {first next : Line} {rest : List Line}
    {block : Taken} {later : List Node} {path : List Nat} (hfirst : isBlankLine first = false)
    (hread : readBlock ctx line first rest = .ok block) (hsettled : block.node.Throughout Node.IsSettled)
    (hn : block.node.loc.last + 1 < n)
    (hbehind : ∀ i : Nat, (∃ top, later[i]? = some top ∧ top.HoldsTextAt n path) ↔
      ∃ blocks top, readBlocks ctx (line + 1 + block.more) (rest.drop block.more) = .ok blocks ∧
        blocks[i]? = some top ∧ GoesOn n p top path next) (i : Nat) :
    (∃ top, (block.node :: later)[i]? = some top ∧ top.HoldsTextAt n path) ↔
      ∃ blocks top, readBlocks ctx line (first :: rest) = .ok blocks ∧ blocks[i]? = some top ∧
        GoesOn n p top path next := by
  cases i with
  | zero =>
      obtain ⟨hholds, hgoes⟩ := @not_goesOn_of_last_lt n p _ path next hsettled hn
      rw [exists_readBlocks_zero_iff hfirst]
      refine iff_of_false ?_ ?_
      · rintro ⟨top, htop, htopHolds⟩
        cases htop
        exact hholds htopHolds
      · rintro ⟨taken, _, htaken, _, htopGoes⟩
        rw [hread] at htaken
        cases htaken
        exact hgoes htopGoes
  | succ i =>
      rw [exists_readBlocks_succ_iff hfirst, List.getElem?_cons_succ]
      refine (hbehind i).trans ⟨fun htop => ⟨block, hread, htop⟩, ?_⟩
      rintro ⟨taken, htaken, htop⟩
      rw [hread] at htaken
      cases htaken
      exact htop

/-- With one more container inside each other. -/
theorem handsOn_of {room : Nat} (hroom : room ≤ maxNesting) (h : ∀ r, room = r + 1 → HandsOn settings file r) :
    HandsOn settings file room := by
  intro p line above below next nodes hp hread i path
  obtain ⟨n, hn⟩ : ∃ n : Int, n = line + above.length := ⟨_, rfl⟩
  rw [← hn]
  have hinner := lays_readWithin settings file room
  -- By the blocks of the lines above: the first one ends above the line, or it is the last.
  induction hsize : above.length using Nat.strong_induction_on generalizing line above nodes i with
  | _ size ih =>
  cases above with
  | nil =>
      have hlays := lays_readBlocks hinner hread
      have hstart : n ≤ line := Int.le_of_eq (hn.trans (Int.add_zero line))
      rw [readBlocks]
      refine iff_of_false (Node.not_holdsTextAt_of_stacked hlays.stacked hlays.settled (.inl hstart) i path) ?_
      rintro ⟨blocks, top, hblocks, htop, _⟩
      cases hblocks
      cases htop
  | cons first rest =>
  rw [List.length_cons] at hn hsize
  rw [List.cons_append] at hread
  by_cases hblank : isBlankLine first = true
  · rw [readBlocks, if_pos hblank] at hread
    rw [readBlocks, if_pos hblank]
    exact ih _ (by omega) (Passage.since_succ hp) hread i (by omega) rfl
  have hfirst : isBlankLine first = false := Bool.eq_false_iff.2 hblank
  rw [readBlocks, if_neg hblank] at hread
  obtain ⟨block, hblock, hread⟩ := exists_of_bind_eq_ok hread
  obtain ⟨later, hlater, hread⟩ := exists_of_bind_eq_ok hread
  cases hread
  by_cases hmore : block.more < rest.length
  · have hspans := spans_readBlock hinner hblock
    have hlast := hspans.last
    have hlength : (rest.drop block.more).length = rest.length - block.more := List.length_drop
    have habove := (readBlock_append_iff (next :: below) hmore).1 hblock
    rw [List.drop_append_of_le_length (Nat.le_of_lt hmore)] at hlater
    refine ended_block hfirst habove hspans.settled (by omega) (fun i => ?_) i
    exact ih _ (by omega) (Passage.since_skip hp block.more) hlater i (by omega) rfl
  · exact HandsOn.last_block hroom h hfirst hblock hlater hp (Nat.le_of_not_lt hmore) (by omega) i path

theorem handsOn {room : Nat} (hroom : room ≤ maxNesting) : HandsOn settings file room := by
  induction room with
  | zero => exact handsOn_of hroom fun r hr => absurd hr.symm (Nat.succ_ne_zero r)
  | succ room ih =>
      refine handsOn_of hroom fun r hr => ?_
      cases hr
      exact ih (Nat.le_of_succ_le hroom)

end

end Block

end MarkdownOutline
