import MarkdownOutline.Proofs.Inline.Closing
import MarkdownOutline.Proofs.Inline.GapAddress
import MarkdownOutline.Proofs.Inline.GapLink

namespace MarkdownOutline.Inline

open Text

def holed (front : List Char) (behind : Cells) : Cells := front.map some ++ none :: behind

@[simp] theorem holed_cons (c : Char) (front : List Char) (behind : Cells) :
    holed (c :: front) behind = some c :: holed front behind := rfl

theorem fill_holed (r front : List Char) (behind : Cells) :
    fill r (holed front behind) = front ++ (r ++ fill r behind) := by
  rw [holed, fill_append, fill_map_some, fill_none]

theorem none_not_mem_of_length_le {front : List Char} {behind u v : Cells} (h : holed front behind = u ++ v)
    {r : List Char} (hr : IsFiller r) (hlength : (fill r u).length ≤ front.length) : none ∉ u := by
  rcases List.append_eq_append_iff.1 h with ⟨w, rfl, hw⟩ | ⟨w, hw, _⟩
  · have hfront : none ∉ front.map some := by simp
    rcases List.append_eq_cons_iff.1 hw.symm with ⟨rfl, _⟩ | ⟨w, rfl, _⟩
    · rwa [List.append_nil]
    · rw [fill_append, fill_map_some, fill_none, List.length_append, List.length_append] at hlength
      have := hr.length_pos
      omega
  · intro hmem
    have hfront : none ∈ front.map some := hw ▸ List.mem_append_left _ hmem
    simp at hfront

theorem none_not_mem_runOf (p : Char → Bool) (t : Cells) : none ∉ t.take (runOf p false t) := by
  rw [runOf, ← List.prefix_iff_eq_take.1 (List.takeWhile_prefix _)]
  intro h
  cases List.all_eq_true.1 List.all_takeWhile _ h

theorem ite_congr_of_taken_le {P : Prop} [Decidable P] {yes no yes' no' : Step} {k : Nat}
    (h : (if P then yes else no).taken ≤ k) (hyes : P → yes.taken ≤ k → yes' = yes)
    (hno : ¬P → no.taken ≤ k → no' = no) : (if P then yes' else no') = if P then yes else no := by
  by_cases hP : P
  · rw [if_pos hP] at h
    rw [if_pos hP, if_pos hP, hyes hP h]
  · rw [if_neg hP] at h
    rw [if_neg hP, if_neg hP, hno hP h]

section

variable {r s : List Char} (hr : IsFiller r) (hs : IsFiller s)
include hr hs

theorem head?_fill_congr (t : Cells) : (fill s t).head? = (fill r t).head? := by
  cases t with
  | nil => rfl
  | cons cell t =>
      cases cell with
      | some c => rfl
      | none =>
          obtain ⟨_, rfl, _⟩ := hr.exists_cons
          obtain ⟨_, rfl, _⟩ := hs.exists_cons
          rfl

theorem takeWhile_fill_congr {p : Char → Bool} (h : Passes p false) (t : Cells) :
    (fill s t).takeWhile p = (fill r t).takeWhile p := by
  rw [takeWhile_fill h hr, takeWhile_fill h hs]
  exact fill_congr (none_not_mem_runOf p t) s r

theorem countLeading_fill_congr (mark : Char) (hmark : mark ≠ '&') (t : Cells) :
    countLeading mark (fill s t) = countLeading mark (fill r t) :=
  congrArg List.length (takeWhile_fill_congr hr hs (.stops (decide_eq_false hmark.symm)) t)

theorem head?_drop_fill_congr {p : Char → Bool} (h : Passes p false) (t : Cells) :
    ((fill s t).drop ((fill r t).takeWhile p).length).head? =
      ((fill r t).drop ((fill r t).takeWhile p).length).head? := by
  rw [length_takeWhile_fill h hr, extentOf_runOf, drop_runOf_fill, drop_runOf_fill]
  exact head?_fill_congr hr hs _

theorem endsAt_fill_congr {p : Char → Bool} (h : Passes p false) (t : Cells) :
    endsAt (fill s t) ((fill r t).takeWhile p).length = endsAt (fill r t) ((fill r t).takeWhile p).length :=
  congrArg (· == some ';') (head?_drop_fill_congr hr hs h t)

theorem entity?_fill_congr (t : Cells) : entity? (fill s t) = entity? (fill r t) := by
  have hdecimal : Passes CharRef.isDecimal false := .stops (by decide)
  have hhex : Passes CharRef.isHex false := .stops (by decide)
  have hname : Passes Char.isAlphanum false := .stops (by decide)
  cases t with
  | nil => rfl
  | cons cell t =>
      cases cell with
      | none =>
          obtain ⟨_, rfl, _⟩ := hr.exists_cons
          obtain ⟨_, rfl, _⟩ := hs.exists_cons
          rfl
      | some c =>
          by_cases hc : c = '#'
          · subst hc
            simp only [fill_some, entity?, takeWhile_fill_congr hr hs hdecimal, endsAt_fill_congr hr hs hdecimal]
            split
            · rfl
            · cases t with
              | nil => rfl
              | cons cell t =>
                  cases cell with
                  | none =>
                      obtain ⟨_, rfl, _⟩ := hr.exists_cons
                      obtain ⟨_, rfl, _⟩ := hs.exists_cons
                      rfl
                  | some x =>
                      simp only [fill_some, takeWhile_fill_congr hr hs hhex, endsAt_fill_congr hr hs hhex]
          · rw [fill_some, fill_some, entity?.eq_3 _ _ hc, entity?.eq_3 _ _ hc]
            simp only [takeWhile_fill_congr hr hs hname, endsAt_fill_congr hr hs hname]

theorem runStep_congr (before : Option Char) {mark : Char} (hmark : mark ≠ '&') (t : Cells) :
    runStep before mark (fill s t) = runStep before mark (fill r t) := by
  have hhead := head?_drop_fill_congr hr hs (.stops (p := (· = mark)) (decide_eq_false hmark.symm)) t
  simp only [runStep, countLeading_fill_congr hr hs mark hmark]
  exact congrArg (fun after => Step.mk (.piece (.run (Run.between mark _ before after))) _) hhead

theorem indentLength_congr (t : Cells) : indentLength (fill s t) = indentLength (fill r t) :=
  congrArg List.length (takeWhile_fill_congr hr hs (.stops (by decide)) t)

variable {ctx : Context} {front : List Char} {behind : Cells}

theorem escapeStep_congr (h : (escapeStep ctx (fill r (holed front behind))).taken ≤ front.length) :
    escapeStep ctx (fill s (holed front behind)) = escapeStep ctx (fill r (holed front behind)) := by
  cases front with
  | nil =>
      obtain ⟨_, rfl, _⟩ := hr.exists_cons
      exact absurd h (Nat.not_succ_le_zero 0)
  | cons c front =>
      by_cases hc : c = '\n'
      · subst hc
        simp only [holed_cons, fill_some, escapeStep, indentLength_congr hr hs]
      · rw [holed_cons, fill_some, fill_some, escapeStep.eq_2 _ _ _ hc, escapeStep.eq_2 _ _ _ hc]

theorem codeStep_congr (h : (codeStep ctx (fill r (holed front behind))).taken ≤ front.length) :
    codeStep ctx (fill s (holed front behind)) = codeStep ctx (fill r (holed front behind)) := by
  generalize ht : holed front behind = t at h ⊢
  obtain ⟨k, hk⟩ := beforeRun?_fill (runOf (· = '`') false t + 1) (t.drop (runOf (· = '`') false t))
  have hread {r : List Char} (hr : IsFiller r) : codeSpan? (fill r t) =
      k.map fun k => (codeOf (fill r ((t.drop (runOf (· = '`') false t)).take k)),
        runOf (· = '`') false t + extentOf r (t.drop (runOf (· = '`') false t)) k +
          (runOf (· = '`') false t + 1)) := by
    simp only [codeSpan?, countLeading_fill hr, drop_runOf_fill, hk r hr, Option.map_map]
    rfl
  cases k with
  | none => simp only [codeStep, hread hr, hread hs, Option.map_none, countLeading_fill hr, countLeading_fill hs]
  | some k =>
      simp only [codeStep, hread hr, hread hs, Option.map_some] at h ⊢
      have hextent := extentOf_add r t (runOf (· = '`') false t) k
      rw [extentOf_runOf] at hextent
      have hlength : extentOf r t (runOf (· = '`') false t + k) ≤ front.length :=
        hextent ▸ (Nat.le_add_right ..).trans h
      have hnone := none_not_mem_of_length_le
        (ht.trans (List.take_append_drop (runOf (· = '`') false t + k) t).symm) hr hlength
      rw [List.take_add, List.mem_append, not_or] at hnone
      rw [extentOf, extentOf, fill_congr hnone.2 s r]

theorem readLink?_congr (h : ∀ p ∈ readLink? ctx (fill r (holed front behind)), p.2.2 ≤ front.length) :
    readLink? ctx (fill s (holed front behind)) = readLink? ctx (fill r (holed front behind)) := by
  obtain ⟨o, ho⟩ := link?_fill (holed front behind)
  cases hlabel : ctx.label with
  | none => simp only [readLink?, hlabel, Option.bind_eq_bind, Option.bind_none]
  | some read =>
      cases o with
      | none => simp only [readLink?, hlabel, ho r hr, ho s hs, Option.map_none]
      | some link =>
          simp only [readLink?, hlabel, ho r hr, ho s hs, Option.map_some, Option.bind_eq_bind, Option.bind_some]
            at h ⊢
          have hnone := none_not_mem_of_length_le link.split hr (h _ rfl)
          rw [fill_congr hnone s r]
          simp only [LinkCells.cells, List.mem_append, List.mem_cons, not_or] at hnone
          rw [fill_congr hnone.1 s r, link.target.fill_congr hnone.2.2.1 s r]

theorem linkStep_congr (h : (linkStep ctx (fill r (holed front behind))).taken ≤ front.length) :
    linkStep ctx (fill s (holed front behind)) = linkStep ctx (fill r (holed front behind)) := by
  rw [linkStep, linkStep, readLink?_congr hr hs fun p hp => ?_]
  rw [linkStep, Option.mem_def.1 hp] at h
  exact h

theorem imageStep_congr {c : Char} (h : (imageStep ctx (fill r (holed (c :: front) behind))).taken ≤ front.length + 1) :
    imageStep ctx (fill s (holed (c :: front) behind)) = imageStep ctx (fill r (holed (c :: front) behind)) := by
  simp only [holed_cons, fill_some, imageStep, List.tail_cons] at h ⊢
  rw [readLink?_congr hr hs fun p hp => ?_]
  rw [Option.mem_def.1 hp] at h
  exact Nat.le_of_succ_le_succ h

theorem Takes.congr {f : List Char → Option (List Char)} (htakes : Takes f (holed front behind))
    (h : ∀ p ∈ f (fill r (holed front behind)), p.length ≤ front.length) :
    f (fill s (holed front behind)) = f (fill r (holed front behind)) := by
  obtain ⟨u, hu, hf⟩ := htakes
  rw [hf s hs, hf r hr]
  cases u with
  | none => rfl
  | some u =>
      obtain ⟨v, hv⟩ := hu u rfl
      have hnone := none_not_mem_of_length_le hv.symm hr (h _ (by rw [hf r hr]; rfl))
      rw [Option.map_some, Option.map_some, fill_congr hnone s r]

theorem readAutolink?_congr
    (h : ∀ p ∈ readAutolink? ctx (fill r (holed front behind)), p.taken ≤ front.length) :
    readAutolink? ctx (fill s (holed front behind)) = readAutolink? ctx (fill r (holed front behind)) := by
  have hlink := (autolink?_fill (holed front behind)).congr hr hs fun p hp => by
    rw [readAutolink?, Option.mem_def.1 hp] at h
    exact (Nat.le_succ _).trans (h _ rfl)
  rw [readAutolink?, readAutolink?, hlink] at *
  cases hnone : autolink? (fill r (holed front behind)) with
  | some url => rfl
  | none =>
      have hmail := (mailAddress?_fill (holed front behind)).congr hr hs fun p hp => by
        rw [hnone, Option.mem_def.1 hp] at h
        exact (Nat.le_succ _).trans (h _ rfl)
      rw [hmail]

theorem readTag?_congr (h : ∀ p ∈ readTag? ctx (fill r (holed front behind)), p.taken ≤ front.length) :
    readTag? ctx (fill s (holed front behind)) = readTag? ctx (fill r (holed front behind)) := by
  obtain ⟨k, hk⟩ := tagLength?_fill (holed front behind)
  simp only [readTag?, hk r hr, hk s hs] at h ⊢
  cases k with
  | none => rfl
  | some k =>
      have hnone := none_not_mem_of_length_le (List.take_append_drop k _).symm hr (h _ rfl)
      have hlength : extentOf s (holed front behind) k = extentOf r (holed front behind) k :=
        congrArg List.length (fill_congr hnone s r)
      have htaken := (take_extentOf s (holed front behind) k).trans (fill_congr hnone s r)
      rw [Option.map_some, Option.map_some, Option.map_some, Option.map_some, htaken, hlength, take_extentOf]

theorem angleStep_congr (h : (angleStep ctx (fill r (holed front behind))).taken ≤ front.length) :
    angleStep ctx (fill s (holed front behind)) = angleStep ctx (fill r (holed front behind)) := by
  have haddress : (if ctx.settings.autolinks then readAutolink? ctx (fill s (holed front behind)) else none) =
      if ctx.settings.autolinks then readAutolink? ctx (fill r (holed front behind)) else none := by
    split
    · refine readAutolink?_congr hr hs fun p hp => ?_
      rw [angleStep, if_pos ‹_›, Option.mem_def.1 hp] at h
      exact h
    · rfl
  rw [angleStep] at h
  rw [angleStep, angleStep, haddress]
  cases hnone : if ctx.settings.autolinks then readAutolink? ctx (fill r (holed front behind)) else none with
  | some p => rfl
  | none =>
      rw [hnone, Option.none_or] at h
      have htag : (if ctx.settings.inlineHtml then readTag? ctx (fill s (holed front behind)) else none) =
          if ctx.settings.inlineHtml then readTag? ctx (fill r (holed front behind)) else none := by
        split
        · refine readTag?_congr hr hs fun p hp => ?_
          rw [if_pos ‹_›, Option.mem_def.1 hp] at h
          exact h
        · rfl
      rw [htag]

/-- A step that ends in front of the gap. -/
theorem step_congr (before : Option Char) {c : Char}
    (h : (step ctx before c (fill r (holed front behind))).taken ≤ front.length) :
    step ctx before c (fill s (holed front behind)) = step ctx before c (fill r (holed front behind)) := by
  rw [step] at h
  rw [step, step, head?_fill_congr hr hs]
  refine ite_congr_of_taken_le h (fun _ => escapeStep_congr hr hs) fun _ h => ?_
  refine ite_congr_of_taken_le h (fun _ => codeStep_congr hr hs) fun _ h => ?_
  refine ite_congr_of_taken_le h (fun hmark _ => runStep_congr hr hs before ?_ _) fun _ h => ?_
  · rintro rfl
    cases hmark
  refine ite_congr_of_taken_le h (fun himage h => ?_) fun _ h => ?_
  · cases front with
    | nil =>
        obtain ⟨_, rfl, _⟩ := hr.exists_cons
        cases (Bool.and_eq_true_iff.1 himage).2
    | cons d front => exact imageStep_congr hr hs h
  refine ite_congr_of_taken_le h (fun _ => linkStep_congr hr hs) fun _ h => ?_
  refine ite_congr_of_taken_le h (fun _ => angleStep_congr hr hs) fun _ _ => ?_
  rw [entityStep, entityStep, entity?_fill_congr hr hs, indentLength_congr hr hs]

end

section

variable {ctx : Context} {r s : List Char} (hr : IsFiller r) (hs : IsFiller s) {behind : Cells}
include hr hs

theorem step_back {front rest : List Char} {before : Option Char} {c : Char} {found : Found} {taken : Nat}
    (hstep : step ctx before c rest = ⟨found, taken⟩) (hrest : rest.drop taken = fill r (holed front behind)) :
    ∃ w, rest = fill r (holed (w ++ front) behind) ∧ rest.take taken = w ∧
      step ctx before c (fill s (holed (w ++ front) behind)) = ⟨found, taken⟩ ∧
      (fill s (holed (w ++ front) behind)).take taken = w ∧
      (fill s (holed (w ++ front) behind)).drop taken = fill s (holed front behind) := by
  have hpos : 0 < (rest.drop taken).length := by
    rw [hrest, fill_holed, List.length_append, List.length_append]
    have := hr.length_pos
    omega
  have hlength : (rest.take taken).length = taken := by
    rw [List.length_drop] at hpos
    exact List.length_take_of_le (by omega)
  have hsplit (r : List Char) : fill r (holed (rest.take taken ++ front) behind) =
      rest.take taken ++ fill r (holed front behind) := by
    rw [fill_holed, fill_holed, List.append_assoc]
  have heq : rest = fill r (holed (rest.take taken ++ front) behind) := by
    rw [hsplit, ← hrest, List.take_append_drop]
  refine ⟨rest.take taken, heq, rfl, ?_, ?_, ?_⟩
  · have hinside : (step ctx before c (fill r (holed (rest.take taken ++ front) behind))).taken ≤
        (rest.take taken ++ front).length := by
      rw [← heq, hstep, List.length_append, hlength]
      exact Nat.le_add_right ..
    rw [step_congr hr hs before hinside, ← heq, hstep]
  · rw [hsplit, List.take_left' hlength]
  · rw [hsplit, List.drop_left' hlength]

/-- The scan comes to a place in front of the gap in every filling if it does in one. -/
theorem Stands.congr {source front : List Char} {done : List Piece} {before : Option Char}
    {pending : Option (List Char)}
    (h : Stands ctx (fill r (holed source behind)) done before pending (fill r (holed front behind))) :
    Stands ctx (fill s (holed source behind)) done before pending (fill s (holed front behind)) := by
  generalize hrest : fill r (holed front behind) = rest at h
  induction h generalizing front with
  | start =>
      rw [fill_holed, fill_holed, List.append_cancel_right_eq] at hrest
      rw [hrest]
      exact .start
  | text h hstep ih =>
      obtain ⟨w, hw, htake, hstep, htake', hdrop⟩ := step_back hr hs hstep hrest.symm
      have hplace := @ih (_ :: (w ++ front)) (congrArg _ hw.symm)
      rw [holed_cons, fill_some] at hplace
      have hnext := hplace.text hstep
      rwa [htake', hdrop, ← htake] at hnext
  | piece h hstep ih =>
      obtain ⟨w, hw, htake, hstep, htake', hdrop⟩ := step_back hr hs hstep hrest.symm
      have hplace := @ih (_ :: (w ++ front)) (congrArg _ hw.symm)
      rw [holed_cons, fill_some] at hplace
      have hnext := hplace.piece hstep
      rwa [htake', hdrop, ← htake] at hnext
  | newline h hstep ih =>
      obtain ⟨w, hw, htake, hstep, htake', hdrop⟩ := step_back hr hs hstep hrest.symm
      have hplace := @ih (_ :: (w ++ front)) (congrArg _ hw.symm)
      rw [holed_cons, fill_some] at hplace
      have hnext := hplace.newline hstep
      rwa [htake', hdrop, ← htake] at hnext

theorem Stands.replace (front : List Char) {source after : List Char} {done : List Piece} {before : Option Char}
    {pending : Option (List Char)}
    (h : Stands ctx (source ++ (r ++ after)) done before pending (front ++ (r ++ after))) :
    Stands ctx (source ++ (s ++ after)) done before pending (front ++ (s ++ after)) := by
  have hfill (r front : List Char) : front ++ (r ++ after) = fill r (holed front (after.map some)) := by
    rw [fill_holed, fill_map_some]
  rw [hfill, hfill] at h ⊢
  exact h.congr hr hs

end

end MarkdownOutline.Inline
