import Mathlib.Algebra.GroupWithZero.Nat
import MarkdownOutline.Inline.Pairing

namespace MarkdownOutline.Inline

def IsRunMark (c : Char) : Prop := c = '*' ∨ c = '_' ∨ c = '~'

def Run.extent (run : Run) : Char × Nat := (run.mark, run.length)

namespace Pairing

variable {p : Pairing}

theorem waiting_setWaiting (p : Pairing) {mark other : Char} (hmark : IsRunMark mark)
    (hother : IsRunMark other) (stack : List Nat) :
    (p.setWaiting mark stack).waiting other = if other = mark then stack else p.waiting other := by
  rcases hmark with rfl | rfl | rfl <;> rcases hother with rfl | rfl | rfl <;> rfl

theorem runs_setWaiting (p : Pairing) (mark : Char) (stack : List Nat) :
    (p.setWaiting mark stack).runs = p.runs := by
  rw [setWaiting]
  split
  · rfl
  · split <;> rfl

theorem waiting_cut (p : Pairing) (i : Nat) (mark : Char) :
    (p.cut i).waiting mark = (p.waiting mark).dropWhile (i < ·) := by
  rw [waiting, waiting]
  split
  · rfl
  · split <;> rfl

theorem exists_dropWhile_lt {stack : List Nat} (h : stack.Pairwise (· > ·)) {i : Nat} (hi : i ∈ stack) :
    ∃ rest, stack.dropWhile (i < ·) = i :: rest := by
  induction stack with
  | nil => cases hi
  | cons j stack ih =>
      obtain ⟨hj, hstack⟩ := List.pairwise_cons.1 h
      rcases List.mem_cons.1 hi with rfl | hi
      · exact ⟨stack, by simp⟩
      · obtain ⟨rest, hrest⟩ := ih hstack hi
        have hlt : i < j := hj i hi
        exact ⟨rest, by simp [hlt, hrest]⟩

theorem mem_dropWhile_lt_iff {stack : List Nat} (h : stack.Pairwise (· > ·)) {i j : Nat} :
    j ∈ stack.dropWhile (i < ·) ↔ j ∈ stack ∧ j ≤ i := by
  induction stack with
  | nil => simp
  | cons k stack ih =>
      obtain ⟨hk, hstack⟩ := List.pairwise_cons.1 h
      by_cases hlt : i < k
      · rw [List.dropWhile_cons_of_pos (by simpa using hlt), ih hstack, List.mem_cons]
        refine and_congr_left fun hj => (or_iff_right ?_).symm
        omega
      · rw [List.dropWhile_cons_of_neg (by simpa using hlt)]
        refine (and_iff_left_of_imp fun hj => ?_).symm
        rcases List.mem_cons.1 hj with rfl | hj
        · omega
        · have := hk j hj
          omega

def offer? (p : Pairing) (closer : Run) (i : Nat) : Option (Nat × Run) :=
  (p.runs[i]?).bind fun run => if run.fits closer then some (i, run) else none

theorem opener?_eq_findSome? (p : Pairing) (closer : Run) :
    p.opener? closer = (p.waiting closer.mark).findSome? (p.offer? closer) := rfl

theorem offer?_eq_some_iff {closer opener : Run} {i j : Nat} :
    p.offer? closer j = some (i, opener) ↔ j = i ∧ p.runs.toList[i]? = some opener ∧ opener.fits closer := by
  rw [offer?, Option.bind_eq_some_iff]
  constructor
  · rintro ⟨run, hrun, h⟩
    split at h
    · cases h
      exact ⟨rfl, by rwa [Array.getElem?_toList], ‹_›⟩
    · cases h
  · rintro ⟨rfl, hrun, hfits⟩
    rw [Array.getElem?_toList] at hrun
    exact ⟨opener, hrun, if_pos hfits⟩

theorem findSome?_eq_some_iff_of_falling {α : Type} {l : List Nat} (h : l.Pairwise (· > ·)) {f : Nat → Option α}
    {b : α} : l.findSome? f = some b ↔ ∃ i ∈ l, f i = some b ∧ ∀ k ∈ l, f k ≠ none → k ≤ i := by
  rw [List.findSome?_eq_some_iff]
  constructor
  · rintro ⟨front, i, back, rfl, hi, hfront⟩
    refine ⟨i, by simp, hi, fun k hk hsome => ?_⟩
    rcases List.mem_append.1 hk with hk | hk
    · exact absurd (hfront k hk) hsome
    rcases List.mem_cons.1 hk with rfl | hk
    · exact Nat.le_refl _
    · exact Nat.le_of_lt ((List.pairwise_cons.1 (List.pairwise_append.1 h).2.1).1 k hk)
  · rintro ⟨i, hi, hsome, hnearest⟩
    obtain ⟨front, back, rfl⟩ := List.append_of_mem hi
    refine ⟨front, i, back, rfl, hsome, fun k hk => ?_⟩
    refine Classical.byContradiction fun hne => ?_
    have hle := hnearest k (List.mem_append_left _ hk) hne
    have hlt := (List.pairwise_append.1 h).2.2 k hk i (List.mem_cons_self ..)
    omega

/-- The opener is the nearest of the waiting runs that fit. -/
theorem opener?_eq_some_iff {closer opener : Run} {i : Nat}
    (hsorted : (p.waiting closer.mark).Pairwise (· > ·)) : p.opener? closer = some (i, opener) ↔
      (i ∈ p.waiting closer.mark ∧ p.runs.toList[i]? = some opener ∧ opener.fits closer) ∧
        ∀ k run, k ∈ p.waiting closer.mark ∧ p.runs.toList[k]? = some run ∧ run.fits closer → k ≤ i := by
  rw [opener?_eq_findSome?, findSome?_eq_some_iff_of_falling hsorted]
  constructor
  · rintro ⟨j, hj, hoffer, hnearest⟩
    obtain ⟨rfl, hrun, hfits⟩ := offer?_eq_some_iff.1 hoffer
    refine ⟨⟨hj, hrun, hfits⟩, fun k run ⟨hk, hkrun, hkfits⟩ => hnearest k hk ?_⟩
    rw [offer?_eq_some_iff.2 ⟨rfl, hkrun, hkfits⟩]
    exact Option.some_ne_none _
  · rintro ⟨⟨hi, hrun, hfits⟩, hnearest⟩
    refine ⟨i, hi, offer?_eq_some_iff.2 ⟨rfl, hrun, hfits⟩, fun k hk hsome => ?_⟩
    obtain ⟨⟨k', run⟩, hoffer⟩ := Option.ne_none_iff_exists'.1 hsome
    obtain ⟨rfl, hkrun, hkfits⟩ := offer?_eq_some_iff.1 hoffer
    exact hnearest k run ⟨hk, hkrun, hkfits⟩

theorem exists_of_opener? {closer opener : Run} {i : Nat} (h : p.opener? closer = some (i, opener)) :
    i ∈ p.waiting closer.mark ∧ p.runs.toList[i]? = some opener := by
  obtain ⟨j, hj, h⟩ := List.exists_of_findSome?_eq_some h
  obtain ⟨rfl, hrun, -⟩ := offer?_eq_some_iff.1 h
  exact ⟨hj, hrun⟩

section

variable {i : Nat} {opener closer : Run} {bond : Bond}

theorem toList_runs_join (p : Pairing) (i : Nat) (opener : Run) (bond : Bond) :
    (p.join i opener bond).runs.toList = p.runs.toList.set i (opener.openBond bond) := by
  rw [join]
  split
  · rw [runs_setWaiting]
    simp
  · simp

theorem size_join (p : Pairing) (i : Nat) (opener : Run) (bond : Bond) :
    (p.join i opener bond).runs.size = p.runs.size := by
  rw [← Array.length_toList, toList_runs_join, List.length_set, Array.length_toList]

theorem toList_runs_of_opener? (h : p.opener? closer = some (i, opener)) (bond : Bond) :
    p.runs.toList = p.runs.toList.take i ++ opener :: p.runs.toList.drop (i + 1) ∧
      (p.join i opener bond).runs.toList =
        p.runs.toList.take i ++ opener.openBond bond :: p.runs.toList.drop (i + 1) := by
  obtain ⟨hlt, hget⟩ := List.getElem?_eq_some_iff.1 (exists_of_opener? h).2
  refine ⟨?_, ?_⟩
  · rw [← hget, List.getElem_cons_drop, List.take_append_drop]
  · rw [toList_runs_join, List.set_eq_take_append_cons_drop, if_pos hlt]

theorem waiting_join (p : Pairing) (i : Nat) (bond : Bond) {mark : Char} (hmark : IsRunMark mark)
    (hopener : IsRunMark opener.mark) :
    (p.join i opener bond).waiting mark =
      if mark = opener.mark ∧ (opener.openBond bond).left = 0
      then ((p.waiting mark).dropWhile (i < ·)).tail else (p.waiting mark).dropWhile (i < ·) := by
  have hcut : ({ p.cut i with runs := p.runs.setIfInBounds i (opener.openBond bond) } : Pairing).waiting =
      (p.cut i).waiting := rfl
  rw [join]
  split
  · rename_i hleft
    rw [waiting_setWaiting _ hopener hmark, hcut, waiting_cut, waiting_cut]
    by_cases h : mark = opener.mark
    · rw [if_pos h, if_pos ⟨h, hleft⟩, h]
    · rw [if_neg h, if_neg fun hboth => h hboth.1]
  · rename_i hleft
    rw [if_neg fun hboth => hleft hboth.2, hcut, waiting_cut]

theorem waiting_join_sublist (p : Pairing) (i : Nat) (bond : Bond) {mark : Char}
    (hmark : IsRunMark mark) (hopener : IsRunMark opener.mark) :
    ((p.join i opener bond).waiting mark).Sublist (p.waiting mark) := by
  have hdrop := List.dropWhile_sublist (fun j => decide (i < j)) (l := p.waiting mark)
  rw [waiting_join p i bond hmark hopener]
  split
  · exact (List.tail_sublist _).trans hdrop
  · exact hdrop

/-- After a bond, only runs in front of its opener wait, and the opener itself if anything of it is
left. -/
theorem mem_waiting_join {mark : Char} (hmark : IsRunMark mark) (hopener : IsRunMark opener.mark)
    (hsorted : (p.waiting mark).Pairwise (· > ·)) (hi : i ∈ p.waiting opener.mark) (bond : Bond)
    {j : Nat} : j ∈ (p.join i opener bond).waiting mark ↔ j ∈ p.waiting mark ∧
      (j < i ∨ j = i ∧ (mark = opener.mark → (opener.openBond bond).left ≠ 0)) := by
  have hle := mem_dropWhile_lt_iff hsorted (i := i) (j := j)
  rw [waiting_join p i bond hmark hopener]
  split
  · rename_i hused
    rw [← hused.1] at hi
    obtain ⟨rest, hrest⟩ := exists_dropWhile_lt hsorted hi
    have hfalling := hsorted.sublist (List.dropWhile_sublist fun j => decide (i < j))
    rw [hrest] at hle hfalling ⊢
    have hlt := (List.pairwise_cons.1 hfalling).1 j
    rw [List.mem_cons] at hle
    rw [List.tail_cons]
    constructor
    · intro hj
      exact ⟨(hle.1 (.inr hj)).1, .inl (hlt hj)⟩
    · rintro ⟨hj, hlt | ⟨_, hleft⟩⟩
      · exact (hle.2 ⟨hj, Nat.le_of_lt hlt⟩).resolve_left (Nat.ne_of_lt hlt)
      · exact absurd hused.2 (hleft hused.1)
  · rename_i hused
    rw [hle, Nat.le_iff_lt_or_eq]
    refine and_congr_right fun _ => or_congr_right ?_
    exact (and_iff_left fun hsame hleft => hused ⟨hsame, hleft⟩).symm

theorem extents_join (h : p.opener? closer = some (i, opener)) :
    (p.join i opener bond).runs.toList.map Run.extent = p.runs.toList.map Run.extent := by
  obtain ⟨hruns, hjoined⟩ := toList_runs_of_opener? h bond
  have hextent : (opener.openBond bond).extent = opener.extent := rfl
  rw [hjoined, List.map_append, List.map_cons, hextent, ← List.map_cons, ← List.map_append, ← hruns]

/-- Of a closer, only what is left changes, and what it closes. -/
theorem exists_close_eq (p : Pairing) (closer : Run) :
    ∃ left closes, (p.close closer).2 = { closer with left := left, closes := closes } := by
  fun_induction Pairing.close p closer with
  | case1 | case2 | case3 => exact ⟨_, _, rfl⟩
  | case4 p closer hleft i opener hopener bond hbond ih => exact ih

end

theorem runs_wait (p : Pairing) (run : Run) : (p.wait run).runs.toList = p.runs.toList ++ [run] := by
  rw [wait]
  split
  · rw [runs_setWaiting]
    simp
  · simp

theorem size_wait (p : Pairing) (run : Run) : (p.wait run).runs.size = p.runs.size + 1 := by
  rw [← Array.length_toList, runs_wait, List.length_append, Array.length_toList]
  rfl

theorem waiting_wait (p : Pairing) {run : Run} {mark : Char} (hrun : IsRunMark run.mark)
    (hmark : IsRunMark mark) : (p.wait run).waiting mark =
      if mark = run.mark ∧ run.left ≠ 0 ∧ run.canOpen then p.runs.size :: p.waiting mark
      else p.waiting mark := by
  rw [Pairing.wait]
  split
  · rename_i hwaits
    simp only [ne_eq, Bool.and_eq_true, decide_eq_true_eq] at hwaits
    rw [waiting_setWaiting _ hrun hmark]
    by_cases hsame : mark = run.mark
    · rw [if_pos hsame, if_pos ⟨hsame, hwaits⟩, hsame]
      rfl
    · rw [if_neg hsame, if_neg fun h => hsame h.1]
      rfl
  · rename_i hwaits
    simp only [ne_eq, Bool.and_eq_true, decide_eq_true_eq] at hwaits
    rw [if_neg fun h => hwaits h.2]
    rfl

end Pairing

end MarkdownOutline.Inline
