import MarkdownOutline.Proofs.Inline.GapAngle

namespace MarkdownOutline.Inline

open Text

theorem head?_fill_beq {r : List Char} (hr : IsFiller r) {c : Char} (hc : c ≠ '&') (t : Cells) :
    ((fill r t).head? == some c) = (t.head? == some (some c)) := by
  cases t with
  | nil => rfl
  | cons cell t =>
      cases cell with
      | some d => rfl
      | none =>
          obtain ⟨tail, rfl, _⟩ := hr.exists_cons
          exact beq_false_of_ne fun h => hc (Option.some.inj h).symm

def Takes (f : List Char → Option (List Char)) (t : Cells) : Prop :=
  ∃ u : Option Cells, (∀ x ∈ u, x <+: t) ∧ ∀ r, IsFiller r → f (fill r t) = u.map (fill r)

theorem Takes.fail {f : List Char → Option (List Char)} {t : Cells} (h : ∀ r, IsFiller r → f (fill r t) = none) :
    Takes f t := ⟨none, by simp, h⟩

theorem autolink?_fill (t : Cells) : Takes autolink? t := by
  have haddress : Passes isAddressChar true := .whole (forall_isFillerChar (by decide))
  have hscheme : Passes isSchemeChar false := .stops (by decide)
  cases htake : t.take (runOf isAddressChar true t) with
  | nil =>
      refine .fail fun r hr => ?_
      simp only [autolink?, takeWhile_fill haddress hr, htake]
      rfl
  | cons cell u =>
      cases cell with
      | none =>
          refine .fail fun r hr => ?_
          simp only [autolink?, takeWhile_fill haddress hr, htake]
          obtain ⟨tail, rfl, _⟩ := hr.exists_cons
          rfl
      | some c =>
          have hread {r : List Char} (hr : IsFiller r) : autolink? (fill r t) =
              if c.isAlpha && 1 ≤ runOf isSchemeChar false u && runOf isSchemeChar false u ≤ 31 &&
                  (u.drop (runOf isSchemeChar false u)).head? == some (some ':') &&
                  (t.drop (runOf isAddressChar true t)).head? == some (some '>') then
                some (fill r (t.take (runOf isAddressChar true t)))
              else none := by
            have hlength := (length_takeWhile_fill hscheme hr u).trans (extentOf_runOf r _ u)
            have hbehind : (fill r t).drop (fill r (some c :: u)).length =
                fill r (t.drop (runOf isAddressChar true t)) := by
              rw [← htake]
              exact drop_extentOf r t _
            simp only [autolink?, takeWhile_fill haddress hr, htake, fill_some, hlength, drop_runOf_fill,
              head?_fill_beq hr (by decide : ':' ≠ '&')]
            rw [← fill_some, hbehind, head?_fill_beq hr (by decide : '>' ≠ '&')]
          split at hread
          · exact ⟨some _, by rintro _ ⟨⟩; exact List.take_prefix .., fun r hr => hread hr⟩
          · exact .fail fun r hr => hread hr

theorem amp_not_mem_of_isHostRest {cs : List Char} (h : isHostRest cs = true) : '&' ∉ cs := by
  fun_induction isHostRest cs with
  | case1 => simp
  | case2 c cs ih =>
      obtain ⟨hc, hcs⟩ := Bool.and_eq_true_iff.1 h
      rw [List.mem_cons, List.mem_cons, not_or, not_or]
      refine ⟨by decide, ?_, ih hcs⟩
      rintro rfl
      cases hc
  | case3 c cs _ ih =>
      obtain ⟨hc, hcs⟩ := Bool.and_eq_true_iff.1 h
      rw [List.mem_cons, not_or]
      refine ⟨?_, ih hcs⟩
      rintro rfl
      cases hc

theorem amp_not_mem_of_isHost {cs : List Char} (h : isHost cs = true) : '&' ∉ cs := by
  simp only [isHost, Bool.and_eq_true] at h
  intro hmem
  rw [← List.takeWhile_append_dropWhile (p := isHostChar) (l := cs), List.mem_append, ← drop_length_takeWhile] at hmem
  rcases hmem with hmem | hmem
  · cases List.all_eq_true.1 List.all_takeWhile _ hmem
  · exact amp_not_mem_of_isHostRest h.2 hmem

/-- A name would have to go over a reference, and it stops at the semicolon. -/
theorem dropWhile_isMailChar_filler {r : List Char} (hr : IsFiller r) (cs : List Char) :
    (r ++ cs).dropWhile isMailChar = ';' :: cs := by
  obtain ⟨word, rfl, hword⟩ := hr
  have hname : ∀ c ∈ '&' :: word, isMailChar c = true := by
    intro c hc
    rcases List.mem_cons.1 hc with rfl | hc
    · decide
    · have hc := List.all_eq_true.1 hword c hc
      simp only [Bool.or_eq_true, decide_eq_true_eq] at hc
      rcases hc with rfl | hc
      · decide
      · rw [isMailChar, hc, Bool.true_or]
  rw [← List.cons_append, List.append_assoc, List.dropWhile_append_of_pos hname, List.singleton_append,
    List.dropWhile_cons_of_neg (by decide)]

theorem mailAddress?_of_dropWhile {cs : List Char} (h : ∀ rest, cs.dropWhile isMailChar ≠ '@' :: rest) :
    mailAddress? cs = none := by
  rw [← drop_length_takeWhile] at h
  simp only [mailAddress?]

theorem mailAddress?_append {name : List Char} (hname : ∀ c ∈ name, isMailChar c = true) (rest : List Char) :
    mailAddress? (name ++ '@' :: rest) =
      if 1 ≤ name.length && isHost (rest.takeWhile (· != '>')) &&
          (rest.drop (rest.takeWhile (· != '>')).length).head? == some '>' then
        some (name ++ '@' :: rest.takeWhile (· != '>'))
      else none := by
  have htake : (name ++ '@' :: rest).takeWhile isMailChar = name := by
    rw [List.takeWhile_append_of_pos hname, List.takeWhile_cons_of_neg (by decide), List.append_nil]
  simp only [mailAddress?, htake, List.drop_left]

theorem exists_run (p : Char → Bool) (t : Cells) : ∃ (run : List Char) (v : Cells), t = run.map some ++ v ∧
    (∀ c ∈ run, p c = true) ∧ ∀ c u, v = some c :: u → p c = false := by
  induction t with
  | nil => exact ⟨[], [], rfl, by simp, by simp⟩
  | cons cell t ih =>
      cases cell with
      | none => exact ⟨[], none :: t, rfl, by simp, by simp⟩
      | some c =>
          cases hc : p c with
          | false =>
              refine ⟨[], some c :: t, rfl, by simp, fun d u h => ?_⟩
              obtain ⟨⟨rfl⟩, _⟩ := List.cons.inj h
              exact hc
          | true =>
              obtain ⟨run, v, rfl, hrun, hv⟩ := ih
              exact ⟨c :: run, v, rfl, List.forall_mem_cons.2 ⟨hc, hrun⟩, hv⟩

theorem mem_fill_of_none_mem {r : List Char} {t : Cells} (h : none ∈ t) : r ⊆ fill r t := by
  obtain ⟨u, v, rfl⟩ := List.append_of_mem h
  rw [fill_append, fill_none]
  exact fun c hc => List.mem_append_right _ (List.mem_append_left _ hc)

theorem mailAddress?_fill (t : Cells) : Takes mailAddress? t := by
  have hhost : Passes (· != '>') true := .whole (forall_isFillerChar (by decide))
  obtain ⟨name, v, rfl, hname, hv⟩ := exists_run isMailChar t
  by_cases hat : ∃ w, v = some '@' :: w
  · obtain ⟨w, rfl⟩ := hat
    have hread {r : List Char} (hr : IsFiller r) : mailAddress? (fill r (name.map some ++ some '@' :: w)) =
        if 1 ≤ name.length && isHost (fill r (w.take (runOf (· != '>') true w))) &&
            (w.drop (runOf (· != '>') true w)).head? == some (some '>') then
          some (name ++ '@' :: fill r (w.take (runOf (· != '>') true w)))
        else none := by
      have hbehind := drop_extentOf r w (runOf (· != '>') true w)
      rw [extentOf] at hbehind
      rw [fill_append, fill_map_some, fill_some, mailAddress?_append hname]
      simp only [takeWhile_fill hhost hr, hbehind, head?_fill_beq hr (by decide : '>' ≠ '&')]
    by_cases hgap : none ∈ w.take (runOf (· != '>') true w)
    · -- No host holds an ampersand.
      refine .fail fun r hr => ?_
      have hamp : '&' ∈ fill r (w.take (runOf (· != '>') true w)) := by
        obtain ⟨tail, rfl, _⟩ := hr.exists_cons
        exact mem_fill_of_none_mem hgap (List.mem_cons_self ..)
      have hno : isHost (fill r (w.take (runOf (· != '>') true w))) = false := by
        rw [Bool.eq_false_iff]
        exact fun h => amp_not_mem_of_isHost h hamp
      rw [hread hr, hno, Bool.and_false, Bool.false_and]
      rfl
    · have hsame (r : List Char) := fill_congr hgap r []
      simp only [hsame] at hread
      split at hread
      · refine ⟨some (name.map some ++ some '@' :: w.take (runOf (· != '>') true w)), ?_, fun r hr => ?_⟩
        · rintro _ ⟨⟩
          rw [List.prefix_append_right_inj, List.cons_prefix_cons]
          exact ⟨rfl, List.take_prefix ..⟩
        · rw [hread hr, Option.map_some, fill_append, fill_map_some, fill_some, hsame r]
      · exact .fail fun r hr => hread hr
  · refine .fail fun r hr => mailAddress?_of_dropWhile fun rest hrest => ?_
    rw [fill_append, fill_map_some, List.dropWhile_append_of_pos hname] at hrest
    cases v with
    | nil => cases hrest
    | cons cell w =>
        cases cell with
        | none =>
            rw [fill_none, dropWhile_isMailChar_filler hr] at hrest
            cases hrest
        | some c =>
            rw [fill_some, List.dropWhile_cons_of_neg (by simp [hv c w rfl])] at hrest
            obtain ⟨rfl, _⟩ := List.cons.inj hrest
            exact hat ⟨w, rfl⟩

end MarkdownOutline.Inline
