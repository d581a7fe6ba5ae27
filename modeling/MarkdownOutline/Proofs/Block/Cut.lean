import MarkdownOutline.Proofs.Block.Layer

namespace MarkdownOutline.Block

open Text

structure IsContinuation (line : Line) : Prop where
  full : isBlankLine line = false
  underline : underline? line = none
  starts : startsBlock line = false

section

variable {above : List Line} (below : List Line)

theorem paragraphTail_of_isContinuation {line : Line} (h : IsContinuation line) (rest : List Line) :
    paragraphTail (line :: rest) = (trimLeft isBlank line :: (paragraphTail rest).1, (paragraphTail rest).2) := by
  simp [paragraphTail, h.full, h.underline, h.starts]

theorem paragraphTail_of_not_isContinuation {line : Line} (h : ¬IsContinuation line) (rest more : List Line) :
    paragraphTail (line :: rest) = paragraphTail (line :: more) ∧ (paragraphTail (line :: rest)).1 = [] := by
  rw [paragraphTail, paragraphTail]
  by_cases hblank : isBlankLine line = true
  · simp [hblank]
  · cases hunderline : underline? line with
    | some level => simp [hblank]
    | none =>
        cases hstarts : startsBlock line with
        | true => simp [hblank]
        | false => exact absurd ⟨Bool.eq_false_iff.2 hblank, hunderline, hstarts⟩ h

theorem paragraphTail_append_cases (above : List Line) :
    ((paragraphTail above).1.length < above.length ∧ paragraphTail (above ++ below) = paragraphTail above) ∨
      (∀ l ∈ above, IsContinuation l) ∧
        paragraphTail (above ++ below) =
          (above.map (trimLeft isBlank) ++ (paragraphTail below).1, (paragraphTail below).2) := by
  induction above with
  | nil => exact .inr ⟨fun _ hl => (List.not_mem_nil hl).elim, rfl⟩
  | cons line rest ih =>
      by_cases hline : IsContinuation line
      · rw [List.cons_append, paragraphTail_of_isContinuation hline, paragraphTail_of_isContinuation hline]
        rcases ih with ⟨hlt, heq⟩ | ⟨hall, heq⟩
        · rw [heq]
          exact .inl ⟨Nat.succ_lt_succ hlt, rfl⟩
        · rw [heq]
          exact .inr ⟨List.forall_mem_cons.2 ⟨hline, hall⟩, rfl⟩
      · obtain ⟨heq, hnil⟩ := paragraphTail_of_not_isContinuation hline rest (rest ++ below)
        rw [List.cons_append, ← heq, hnil]
        exact .inl ⟨Nat.succ_pos _, rfl⟩

theorem paragraphTail_of_forall (h : ∀ l ∈ above, IsContinuation l) :
    paragraphTail above = (above.map (trimLeft isBlank), none) := by
  induction above with
  | nil => rfl
  | cons line rest ih =>
      obtain ⟨hline, hrest⟩ := List.forall_mem_cons.1 h
      rw [paragraphTail_of_isContinuation hline, ih hrest]
      rfl

theorem length_body_le_append (fence : Fence) (above : List Line) :
    (fence.body above).2 ≤ (fence.body (above ++ below)).2 := by
  induction above with
  | nil => exact Nat.zero_le _
  | cons line rest ih =>
      rw [List.cons_append, Fence.body, Fence.body]
      split
      · exact Nat.le_refl _
      · exact Nat.succ_le_succ ih

theorem length_takeWhile_le_append (p : Line → Bool) (above : List Line) :
    (above.takeWhile p).length ≤ ((above ++ below).takeWhile p).length := by
  rw [List.takeWhile_append]
  split
  · have hle := length_takeWhile_le p above
    rw [List.length_append]
    omega
  · exact Nat.le_refl _

/-- A container ends above some line, or it takes all lines above and goes on as behind the last. -/
theorem Layer.tail_append_cases (layer : Layer) (content : Line) (above : List Line) :
    ((layer.tail (!isBlankLine content) above).length < above.length ∧
      layer.tail (!isBlankLine content) (above ++ below) = layer.tail (!isBlankLine content) above) ∨
    ((layer.tail (!isBlankLine content) above).length = above.length ∧
      layer.tail (!isBlankLine content) (above ++ below) = layer.tail (!isBlankLine content) above ++
        layer.tail (!isBlankLine ((content :: layer.tail (!isBlankLine content) above).getLast (List.cons_ne_nil _ _)))
          below) := by
  induction above generalizing content with
  | nil =>
      rw [tail_nil]
      exact .inr ⟨rfl, rfl⟩
  | cons line rest ih =>
      rw [List.cons_append]
      cases htake : layer.take? (!isBlankLine content) line with
      | none =>
          rw [tail_of_take?_eq_none htake, tail_of_take?_eq_none htake]
          exact .inl ⟨Nat.succ_pos _, rfl⟩
      | some inner =>
          simp only [tail_of_take? htake, List.length_cons, List.getLast_cons_cons, List.cons_append]
          rcases ih inner with ⟨hlt, heq⟩ | ⟨hlength, heq⟩
          · rw [heq]
            exact .inl ⟨Nat.succ_lt_succ hlt, rfl⟩
          · rw [heq]
            exact .inr ⟨congrArg _ hlength, rfl⟩

end

section

variable {ctx : Context} {line : Int} {first : Line} {above : List Line} (below : List Line)

theorem readItems_append_iff {bullet : Bullet} {items : Items} (hlines : items.lines < above.length) :
    readItems ctx bullet line (above ++ below) = .ok items ↔ readItems ctx bullet line above = .ok items := by
  refine ⟨fun h => ?_, fun h => readItems_append h hlines below⟩
  fun_induction readItems ctx bullet line above generalizing items with
  | case1 => exact absurd hlines (Nat.not_lt_zero _)
  | case2 line first rest hm =>
      rw [List.cons_append, readItems, hm] at h
      exact h
  | case3 line first rest m hm tail kept trailing =>
      rename_i after ih
      rw [List.cons_append, readItems, hm] at h
      have hcases := (Layer.item m.column).tail_append_cases below m.content rest
      change (tail.length < _ ∧ itemTail _ _ _ = tail) ∨ tail.length = _ ∧ itemTail _ _ _ = tail ++ _ at hcases
      rcases hcases with ⟨hlt, heq⟩ | ⟨hlength, heq⟩
      · have hafter : (rest ++ below).drop tail.length = after ++ below :=
          List.drop_append_of_le_length (Nat.le_of_lt hlt)
        have hpos : 0 < after.length := by
          rw [List.length_drop]
          omega
        have hhead : (after ++ below).head? = after.head? := by
          obtain ⟨next, others, hnext⟩ := List.exists_cons_of_length_pos hpos
          rw [hnext]
          rfl
        simp only [heq, hafter, hhead] at h
        obtain ⟨children, hread, h⟩ := exists_of_bind_eq_ok h
        obtain ⟨later, hlater, h⟩ := exists_of_bind_eq_ok h
        cases h
        have hlt' : later.lines < after.length := by
          simp only [List.length_cons] at hlines
          rw [List.length_drop]
          omega
        rw [show ctx.inner line kept = .ok children from hread, ih hlt' hlater]
        rfl
      · simp only [heq] at h
        obtain ⟨children, _, h⟩ := exists_of_bind_eq_ok h
        obtain ⟨later, _, h⟩ := exists_of_bind_eq_ok h
        cases h
        simp only [List.length_append, List.length_cons] at hlines
        omega

theorem ok_iff_of_lt {taken shorter block : Taken} {size : Nat} (hmore : block.more < size)
    (hsame : shorter.more < size → taken = shorter) (hle : shorter.more ≤ taken.more) :
    (.ok taken : Except ParseError Taken) = .ok block ↔ (.ok shorter : Except ParseError Taken) = .ok block := by
  by_cases hlt : shorter.more < size
  · rw [hsame hlt]
  · constructor
    · intro h
      cases h
      omega
    · intro h
      cases h
      exact absurd hmore hlt

/-- A block that ends above some line is the same without the lines below. -/
theorem readBlock_append_iff {block : Taken} (hmore : block.more < above.length) :
    readBlock ctx line first (above ++ below) = .ok block ↔ readBlock ctx line first above = .ok block := by
  rw [readBlock_eq, readBlock_eq]
  cases opener first with
  | fence f =>
      refine ok_iff_of_lt hmore (fun hlt => ?_) (length_body_le_append below f above)
      simp only [fenceBlock, body_append hlt]
  | atx level content => rfl
  | thematic => rfl
  | indented =>
      refine ok_iff_of_lt hmore (fun hlt => ?_) (length_takeWhile_le_append below isCodeLine above)
      simp only [indentedBlock, takeWhile_append_of_lt hlt]
  | html =>
      refine ok_iff_of_lt hmore (fun hlt => ?_) (length_takeWhile_le_append below _ above)
      simp only [htmlBlock, takeWhile_append_of_lt hlt]
  | text =>
      rcases paragraphTail_append_cases below above with ⟨_, heq⟩ | ⟨hall, heq⟩
      · simp only [Opener.read, paragraphBlock, heq]
      · have habove := paragraphTail_of_forall hall
        refine ok_iff_of_lt hmore (fun hlt => ?_) ?_
        · rw [more_paragraphBlock, habove, List.length_map] at hlt
          exact absurd hlt (by simp)
        · rw [more_paragraphBlock, more_paragraphBlock, habove, heq]
          simp
          omega
  | quote inner =>
      have hcases := Layer.quote.tail_append_cases below inner above
      simp only [Opener.read, quoteBlock]
      simp only [Layer.tail] at hcases
      rcases hcases with ⟨_, heq⟩ | ⟨hlength, heq⟩
      · rw [heq]
      · -- Either way the quote takes all lines above.
        refine iff_of_false ?_ ?_
        · intro h
          obtain ⟨children, _, h⟩ := exists_of_bind_eq_ok h
          cases h
          simp only [heq, List.length_append] at hmore
          omega
        · intro h
          obtain ⟨children, _, h⟩ := exists_of_bind_eq_ok h
          cases h
          simp only at hmore
          omega
  | item m =>
      simp only [Opener.read, listBlock, ← List.cons_append]
      have hiff (items : Items) (hlt : items.lines - 1 < above.length) :
          readItems ctx m.bullet line (first :: above ++ below) = .ok items ↔
            readItems ctx m.bullet line (first :: above) = .ok items := by
        apply readItems_append_iff
        rw [List.length_cons]
        omega
      constructor
      · intro h
        obtain ⟨items, hitems, h⟩ := exists_of_bind_eq_ok h
        cases h
        rw [(hiff items hmore).1 hitems]
        rfl
      · intro h
        obtain ⟨items, hitems, h⟩ := exists_of_bind_eq_ok h
        cases h
        rw [(hiff items hmore).2 hitems]
        rfl

end

end MarkdownOutline.Block
