import MarkdownOutline.Proofs.Inline.Stacks

namespace MarkdownOutline.Inline

def Bond.Takes (bond : Bond) (mark : Char) : Prop :=
  match bond with
  | .emphasis | .strong => mark = '*' ∨ mark = '_'
  | .strikethrough => mark = '~'

structure Opening where
  mark : Char
  bond : Bond

def widths (openings : List Opening) : Nat := (openings.map fun o => o.bond.width).sum

@[simp] theorem widths_nil : widths [] = 0 := rfl

@[simp] theorem widths_cons (o : Opening) (openings : List Opening) :
    widths (o :: openings) = o.bond.width + widths openings := by simp [widths]

@[simp] theorem widths_append (openings more : List Opening) :
    widths (openings ++ more) = widths openings + widths more := by simp [widths]

namespace Run

def openings (run : Run) : List Opening := (run.opens.map (Opening.mk run.mark)).reverse

theorem openings_openBond (run : Run) (bond : Bond) :
    (run.openBond bond).openings = run.openings ++ [⟨run.mark, bond⟩] := by
  simp [openings, openBond]

structure IsFresh (run : Run) : Prop where
  mark : IsRunMark run.mark
  length_pos : 0 < run.length
  left : run.left = run.length
  opens : run.opens = []
  closes : run.closes = 0

/-- A run closes some openings of its mark. These, what it opens and what is left make up the run. -/
structure Closes (run : Run) (inner : List Opening) : Prop where
  count : inner.length = run.closes
  marks : ∀ o ∈ inner, o.mark = run.mark
  takes : ∀ o ∈ run.openings, o.bond.Takes o.mark
  chars : widths inner + run.left + widths run.openings = run.length

theorem bond?_takes {opener closer : Run} {bond : Bond} (h : opener.bond? closer = some bond)
    (hmark : IsRunMark closer.mark) : bond.Takes closer.mark := by
  simp only [bond?] at h
  split at h
  · split at h <;> cases h
    assumption
  · have hmark : closer.mark = '*' ∨ closer.mark = '_' := by
      rcases hmark with h | h | h
      · exact .inl h
      · exact .inr h
      · contradiction
    split at h <;> cases h <;> exact hmark

theorem width_le_of_bond? {opener closer : Run} {bond : Bond} (h : opener.bond? closer = some bond)
    (hopener : opener.left ≠ 0) (hcloser : closer.left ≠ 0) :
    bond.width ≤ opener.left ∧ bond.width ≤ closer.left := by
  simp only [bond?] at h
  by_cases hboth : 2 ≤ opener.left ∧ 2 ≤ closer.left
  · have hwidth : bond.width ≤ 2 := by cases bond <;> decide
    omega
  · have hemphasis : bond = .emphasis := by
      split at h
      · simp [hboth] at h
      · simpa [hboth] using h.symm
    subst hemphasis
    exact ⟨Nat.one_le_iff_ne_zero.2 hopener, Nat.one_le_iff_ne_zero.2 hcloser⟩

theorem Closes.openBond {run : Run} {inner : List Opening} (h : run.Closes inner) {bond : Bond}
    (htakes : bond.Takes run.mark) (hwidth : bond.width ≤ run.left) :
    (run.openBond bond).Closes inner where
  count := h.count
  marks := h.marks
  takes := by
    rw [openings_openBond]
    exact List.forall_mem_append.2 ⟨h.takes, List.forall_mem_singleton.2 htakes⟩
  chars := by
    have hchars := h.chars
    rw [openings_openBond, widths_append, widths_cons, widths_nil]
    simp only [Run.openBond]
    omega

theorem Closes.closeBond {run : Run} {inner : List Opening} (h : run.Closes inner) {bond : Bond}
    (hwidth : bond.width ≤ run.left) : (run.closeBond bond).Closes (inner ++ [⟨run.mark, bond⟩]) where
  count := by simp [Run.closeBond, h.count]
  marks := List.forall_mem_append.2 ⟨h.marks, List.forall_mem_singleton.2 rfl⟩
  takes := h.takes
  chars := by
    have hchars := h.chars
    simp only [widths_append, widths_cons, widths_nil, Run.closeBond]
    change _ + _ + widths run.openings = _
    omega

end Run

/-- Runs that lead from one stack of openings to another, the innermost first. -/
inductive Nested : List Opening → List Run → List Opening → Prop
  | nil (stack) : Nested stack [] stack
  | cons {run runs inner outer stack} : run.Closes inner → Nested (run.openings ++ outer) runs stack →
      Nested (inner ++ outer) (run :: runs) stack

namespace Nested

variable {stack stack' stack'' : List Opening} {runs more : List Run} {run : Run}

theorem append (h : Nested stack runs stack') (h' : Nested stack' more stack'') :
    Nested stack (runs ++ more) stack'' := by
  induction h with
  | nil => exact h'
  | cons hrun _ ih => exact .cons hrun (ih h')

theorem split (h : Nested stack (runs ++ more) stack'') :
    ∃ stack', Nested stack runs stack' ∧ Nested stack' more stack'' := by
  induction runs generalizing stack with
  | nil => exact ⟨stack, .nil _, h⟩
  | cons run runs ih =>
      cases h with
      | cons hrun h =>
          obtain ⟨stack', hruns, hmore⟩ := ih h
          exact ⟨stack', .cons hrun hruns, hmore⟩

/-- Openings that stay open are not looked at. -/
theorem beneath (h : Nested stack runs stack') (outer : List Opening) :
    Nested (stack ++ outer) runs (stack' ++ outer) := by
  induction h with
  | nil => exact .nil _
  | cons hrun _ ih =>
      rw [List.append_assoc] at ih ⊢
      exact .cons hrun ih

theorem unique (h : Nested stack runs stack') (h' : Nested stack runs stack'') : stack' = stack'' := by
  induction h with
  | nil =>
      cases h'
      rfl
  | @cons run runs inner outer stack' hrun _ ih =>
      generalize hstack : inner ++ outer = stack at h'
      cases h' with
      | cons hrun' h' =>
          obtain ⟨rfl, rfl⟩ := List.append_inj hstack (hrun.count.trans hrun'.count.symm)
          exact ih h'

/-- A run that closes all openings in front of it begins a chain of its own. -/
theorem after {inner : List Opening} (h : Nested inner (run :: runs) stack) (hrun : run.Closes inner) :
    Nested run.openings runs stack := by
  generalize hinner : inner = whole at h
  cases h with
  | @cons _ _ inner' outer _ hrun' h =>
      have hlength := congrArg List.length hinner
      rw [List.length_append, hrun.count, hrun'.count] at hlength
      have houter : outer = [] := List.length_eq_zero_iff.1 (by omega)
      rw [houter, List.append_nil] at h
      exact h

theorem single {inner : List Opening} (h : run.Closes inner) : Nested inner [run] run.openings := by
  have hrun : Nested (inner ++ []) [run] (run.openings ++ []) := .cons h (.nil _)
  rwa [List.append_nil, List.append_nil] at hrun

end Nested

namespace Pairing

variable {p : Pairing}

/-- A run may be paired again if it closes all that is open in front of it: no bond reaches over
it. -/
structure Waits (p : Pairing) (mark : Char) (i : Nat) : Prop where
  free : ∃ run inner, p.runs.toList[i]? = some run ∧ run.mark = mark ∧ run.left ≠ 0 ∧
    Nested [] (p.runs.toList.take i) inner ∧ run.Closes inner

/-- The bonds of the runs met so far nest, with some openings that only the next run closes. -/
structure Sound (p : Pairing) (stack : List Opening) : Prop where
  nested : Nested [] p.runs.toList stack
  waits : ∀ mark, IsRunMark mark → ∀ i ∈ p.waiting mark, p.Waits mark i
  sorted : ∀ mark, IsRunMark mark → (p.waiting mark).Pairwise (· > ·)

theorem Waits.lt {mark : Char} {i : Nat} (h : p.Waits mark i) : i < p.runs.toList.length := by
  obtain ⟨run, _, hrun, _⟩ := h.free
  exact (List.getElem?_eq_some_iff.1 hrun).1

section

variable {stack : List Opening} {i : Nat} {opener closer : Run} {bond : Bond}

/-- A bond goes beneath everything that has been opened since its opener. -/
theorem Sound.join (h : p.Sound stack) (hmark : IsRunMark closer.mark) (hleft : closer.left ≠ 0)
    (hopener : p.opener? closer = some (i, opener))
    (hbond : opener.bond? closer = some bond) :
    (p.join i opener bond).Sound (stack ++ [⟨closer.mark, bond⟩]) := by
  obtain ⟨hi, hrun⟩ := exists_of_opener? hopener
  obtain ⟨_, inner, hrun', hsame, hopen, hinner, hcloses⟩ := (h.waits _ hmark i hi).free
  obtain rfl := Option.some.inj (hrun.symm.trans hrun')
  obtain ⟨hopenWidth, _⟩ := Run.width_le_of_bond? hbond hopen hleft
  have htakes : bond.Takes opener.mark := by
    rw [hsame]
    exact Run.bond?_takes hbond hmark
  have hcloses' := hcloses.openBond htakes hopenWidth
  obtain ⟨hruns, hjoined⟩ := toList_runs_of_opener? hopener bond
  refine ⟨?_, ?_, fun mark hmark' => ?_⟩
  · have hnested := h.nested
    rw [hruns] at hnested
    obtain ⟨_, hfront, hback⟩ := hnested.split
    rw [← hinner.unique hfront] at hback
    have hbehind := (hback.after hcloses).beneath [⟨closer.mark, bond⟩]
    rw [← hsame, ← Run.openings_openBond] at hbehind
    rw [hsame] at hbehind
    rw [hjoined]
    exact hinner.append ((Nested.single hcloses').append hbehind)
  · intro mark hmark' j hj
    obtain ⟨hmem, hplace⟩ := (mem_waiting_join hmark' (hsame ▸ hmark) (h.sorted mark hmark')
      (hsame ▸ hi) bond).1 hj
    obtain ⟨run, before, hjrun, hjmark, hjleft, hbefore, hjcloses⟩ := (h.waits mark hmark' j hmem).free
    refine ⟨?_⟩
    rw [toList_runs_join]
    rcases hplace with hlt' | ⟨rfl, hused⟩
    · refine ⟨run, before, ?_, hjmark, hjleft, ?_, hjcloses⟩
      · rw [List.getElem?_set_ne (by omega), hjrun]
      · rwa [List.take_set_of_le (by omega)]
    · obtain rfl := Option.some.inj (hjrun.symm.trans hrun)
      refine ⟨_, inner, List.getElem?_set_self (List.getElem?_eq_some_iff.1 hrun).1, hjmark, hused hjmark.symm, ?_, hcloses'⟩
      rwa [List.take_set_of_le (by omega)]
  · exact (h.sorted mark hmark').sublist (waiting_join_sublist p i bond hmark' (hsame ▸ hmark))

/-- A closer is paired until nothing of it is left or nothing fits, and closes all that is then open
in front of it. -/
theorem Sound.close (h : p.Sound stack) (hcloser : closer.Closes stack) (hmark : IsRunMark closer.mark) :
    ∃ stack', (p.close closer).1.Sound stack' ∧ (p.close closer).2.Closes stack' ∧
      (p.close closer).1.runs.toList.map Run.extent = p.runs.toList.map Run.extent := by
  fun_induction Pairing.close p closer generalizing stack with
  | case1 p closer hleft => exact ⟨stack, h, hcloser, rfl⟩
  | case2 p closer hleft hnone => exact ⟨stack, h, hcloser, rfl⟩
  | case3 p closer hleft i opener hopener hnone => exact ⟨stack, h, hcloser, rfl⟩
  | case4 p closer hleft i opener hopener bond hbond ih =>
      obtain ⟨hi, hrun⟩ := exists_of_opener? hopener
      obtain ⟨_, _, hrun', _, hopen, _⟩ := (h.waits _ hmark i hi).free
      obtain rfl := Option.some.inj (hrun.symm.trans hrun')
      obtain ⟨_, hwidth⟩ := Run.width_le_of_bond? hbond hopen hleft
      obtain ⟨stack', hsound, hcloses, hextents⟩ :=
        ih (h.join hmark hleft hopener hbond) (hcloser.closeBond hwidth) hmark
      exact ⟨stack', hsound, hcloses, hextents.trans (extents_join hopener)⟩

theorem Waits.wait {mark : Char} {j : Nat} (h : p.Waits mark j) (run : Run) :
    (p.wait run).Waits mark j := by
  have hlt := h.lt
  obtain ⟨other, inner, hrun, hsame, hleft, hinner, hother⟩ := h.free
  refine ⟨other, inner, ?_, hsame, hleft, ?_, hother⟩
  · rw [runs_wait, List.getElem?_append_left hlt, hrun]
  · rwa [runs_wait, List.take_append_of_le_length (Nat.le_of_lt hlt)]

/-- A run joins those met so far with all that is open in front of it closed. -/
theorem Sound.wait (h : p.Sound stack) {run : Run} (hcloses : run.Closes stack)
    (hmark : IsRunMark run.mark) : (p.wait run).Sound run.openings := by
  refine ⟨?_, fun mark hmark' j hj => ?_, fun mark hmark' => ?_⟩
  · rw [runs_wait]
    exact h.nested.append (Nested.single hcloses)
  · rw [waiting_wait p hmark hmark'] at hj
    split at hj
    · rename_i hpushed
      rcases List.mem_cons.1 hj with rfl | hj
      · refine ⟨run, stack, ?_, hpushed.1.symm, hpushed.2.1, ?_, hcloses⟩
        · rw [runs_wait, ← Array.length_toList, List.getElem?_concat_length]
        · rw [runs_wait, ← Array.length_toList, List.take_left]
          exact h.nested
      · exact (h.waits _ hmark' j hj).wait run
    · exact (h.waits mark hmark' j hj).wait run
  · rw [waiting_wait p hmark hmark']
    split
    · exact List.pairwise_cons.2 ⟨fun j hj => (h.waits _ hmark' j hj).lt, h.sorted _ hmark'⟩
    · exact h.sorted mark hmark'

theorem Sound.add (h : p.Sound []) {run : Run} (hrun : run.IsFresh) :
    (p.add run).Sound [] ∧
      (p.add run).runs.toList.map Run.extent = p.runs.toList.map Run.extent ++ [run.extent] := by
  have hcloses : run.Closes [] := by
    refine ⟨hrun.closes.symm, fun _ ho => (List.not_mem_nil ho).elim, ?_, ?_⟩
    · simp [Run.openings, hrun.opens]
    · simp [Run.openings, hrun.opens, hrun.left]
  have hidle (left closes : Nat) :
      Run.openings { run with left := left, closes := closes } = [] := by
    simp [Run.openings, hrun.opens]
  rw [Pairing.add]
  split
  · obtain ⟨stack, hsound, hcloses, hextents⟩ := h.close hcloses hrun.mark
    obtain ⟨left, closes, hclosed⟩ := exists_close_eq p run
    change ((p.close run).1.wait (p.close run).2).Sound [] ∧
      ((p.close run).1.wait (p.close run).2).runs.toList.map Run.extent = _
    rw [hclosed] at hcloses ⊢
    have hwait := hsound.wait hcloses hrun.mark
    rw [hidle left closes] at hwait
    refine ⟨hwait, ?_⟩
    rw [runs_wait, List.map_append, hextents, List.map_singleton]
    rfl
  · have hwait := h.wait hcloses hrun.mark
    rw [show run.openings = [] from hidle run.left run.closes] at hwait
    exact ⟨hwait, by rw [runs_wait, List.map_append, List.map_singleton]⟩

theorem Sound.addAll (h : p.Sound []) {runs : List Run} (hruns : ∀ r ∈ runs, r.IsFresh) :
    (runs.foldl Pairing.add p).Sound [] ∧
      (runs.foldl Pairing.add p).runs.toList.map Run.extent =
        p.runs.toList.map Run.extent ++ runs.map Run.extent := by
  induction runs generalizing p with
  | nil => exact ⟨h, (List.append_nil _).symm⟩
  | cons run runs ih =>
      obtain ⟨hrun, hruns⟩ := List.forall_mem_cons.1 hruns
      obtain ⟨hsound, hextents⟩ := h.add hrun
      obtain ⟨hall, hmap⟩ := ih hsound hruns
      refine ⟨hall, hmap.trans ?_⟩
      rw [hextents, List.append_assoc]
      rfl

theorem sound_empty : Sound {} [] where
  nested := .nil _
  waits := by
    rintro mark (rfl | rfl | rfl) i hi <;> cases hi
  sorted := by
    rintro mark (rfl | rfl | rfl) <;> exact List.Pairwise.nil

end

end Pairing

/-- The bonds of any text nest, and its runs stay what they are. -/
theorem nested_pairRuns {runs : List Run} (h : ∀ r ∈ runs, r.IsFresh) :
    Nested [] (pairRuns runs) [] ∧ (pairRuns runs).map Run.extent = runs.map Run.extent := by
  obtain ⟨hsound, hextents⟩ := Pairing.sound_empty.addAll h
  exact ⟨hsound.nested, hextents⟩

end MarkdownOutline.Inline
