import MarkdownOutline.Proofs.Inline.Runs

namespace MarkdownOutline.Inline

structure Pair where
  opener : Nat
  closer : Nat
  bond : Bond
  deriving DecidableEq

namespace Pair

def uses (pair : Pair) (i : Nat) : Nat :=
  if pair.opener = i ∨ pair.closer = i then pair.bond.width else 0

def Spans (pair : Pair) (i : Nat) : Prop := pair.opener < i ∧ i < pair.closer

end Pair

def Run.withPairs (run : Run) (made : List Pair) (i : Nat) : Run :=
  { run with
    left := run.length - (made.map (Pair.uses · i)).sum
    opens := ((made.filter (·.opener = i)).map Pair.bond).reverse
    closes := made.countP (·.closer = i) }

section

variable (runs : List Run) (made : List Pair)

def runAt? (i : Nat) : Option Run := (runs[i]?).map (·.withPairs made i)

/-- In front of place `j`, a run waits if it can open, something of it is left and no pair spans it. -/
structure Waiting (j i : Nat) (run : Run) : Prop where
  before : i < j
  found : runAt? runs made i = some run
  canOpen : run.canOpen
  left : run.left ≠ 0
  free : ∀ pair ∈ made, ¬pair.Spans i

structure Fitting (j : Nat) (closer : Run) (i : Nat) (run : Run) : Prop where
  waiting : Waiting runs made j i run
  mark : run.mark = closer.mark
  fits : run.fits closer

structure IsNext (opener closer : Run) (pair : Pair) : Prop where
  found : runAt? runs made pair.closer = some closer
  canClose : closer.canClose
  left : closer.left ≠ 0
  fitting : Fitting runs made pair.closer closer pair.opener opener
  nearest : ∀ i run, Fitting runs made pair.closer closer i run → i ≤ pair.opener
  bond : opener.bond? closer = some pair.bond

/-- From place `j` on, with the pairs `made` already, the rest follow one by one. -/
inductive Course : Nat → List Pair → List Pair → Prop
  | done {j made} : runs.length ≤ j → Course j made []
  | skip {j made rest} : (∀ opener closer pair, pair.closer = j → ¬IsNext runs made opener closer pair) →
      Course (j + 1) made rest → Course j made rest
  | pair {j made opener closer pair rest} : IsNext runs made opener closer pair → pair.closer = j →
      Course j (made ++ [pair]) rest → Course j made (pair :: rest)

end

namespace Course

variable {runs : List Run} {made rest : List Pair} {j : Nat}

theorem le_closer (h : Course runs j made rest) : ∀ pair ∈ rest, j ≤ pair.closer := by
  induction h with
  | done => exact List.forall_mem_nil _
  | skip _ _ ih => exact fun pair hpair => Nat.le_of_succ_le (ih pair hpair)
  | pair _ hj _ ih => exact List.forall_mem_cons.2 ⟨Nat.le_of_eq hj.symm, ih⟩

theorem pairwise_closer (h : Course runs j made rest) : rest.Pairwise (·.closer ≤ ·.closer) := by
  induction h with
  | done => exact List.Pairwise.nil
  | skip _ _ ih => exact ih
  | pair _ hj hcourse ih =>
      refine List.pairwise_cons.2 ⟨fun other hother => ?_, ih⟩
      rw [hj]
      exact hcourse.le_closer other hother

/-- The course can be taken up between any two pairs, at any place between their closers. -/
theorem split {before : List Pair} {k : Nat} (h : Course runs k made (before ++ rest)) (hk : k ≤ j)
    (hbefore : ∀ pair ∈ before, pair.closer ≤ j) (hrest : ∀ pair ∈ rest, j ≤ pair.closer) :
    Course runs j (made ++ before) rest := by
  generalize hall : before ++ rest = all at h
  induction h generalizing before with
  | done hlength =>
      obtain ⟨rfl, rfl⟩ := List.append_eq_nil_iff.1 hall
      exact .done (Nat.le_trans hlength hk)
  | @skip k made all hnone hcourse ih =>
      subst hall
      rcases Nat.lt_or_eq_of_le hk with hlt | rfl
      · exact ih hlt hbefore rfl
      · -- No pair has its closer in front of the next place.
        cases before with
        | nil =>
            rw [List.append_nil]
            exact .skip hnone hcourse
        | cons pair before =>
            have hlt := hcourse.le_closer pair (List.mem_cons_self ..)
            have hle := hbefore pair (List.mem_cons_self ..)
            omega
  | @pair k made opener closer pair all hnext hcloser hcourse ih =>
      cases before with
      | nil =>
          subst hall
          have hle := hrest pair (List.mem_cons_self ..)
          obtain rfl : k = j := by omega
          rw [List.append_nil]
          exact .pair hnext hcloser hcourse
      | cons other before =>
          obtain ⟨rfl, rfl⟩ := List.cons.inj hall
          have hmade := ih hk (fun pair hpair => hbefore pair (List.mem_cons_of_mem _ hpair)) rfl
          rwa [List.append_assoc] at hmade

end Course

theorem IsNext.unique {runs : List Run} {made : List Pair} {opener opener' closer closer' : Run}
    {pair pair' : Pair} (h : IsNext runs made opener closer pair)
    (h' : IsNext runs made opener' closer' pair') (hplace : pair.closer = pair'.closer) : pair = pair' := by
  obtain ⟨i, j, bond⟩ := pair
  obtain ⟨i', j', bond'⟩ := pair'
  subst hplace
  obtain rfl := Option.some.inj (h.found.symm.trans h'.found)
  obtain rfl : i = i' := Nat.le_antisymm (h'.nearest _ _ h.fitting) (h.nearest _ _ h'.fitting)
  obtain rfl := Option.some.inj (h.fitting.waiting.found.symm.trans h'.fitting.waiting.found)
  obtain rfl := Option.some.inj (h.bond.symm.trans h'.bond)
  rfl

/-- At any moment the next pair with a given closer is made if there is one. -/
theorem Course.head?_eq_some_iff {runs : List Run} {made rest : List Pair} {j : Nat}
    (h : Course runs j made rest) {pair : Pair} (hj : pair.closer = j) :
    rest.head? = some pair ↔ ∃ opener closer, IsNext runs made opener closer pair := by
  cases h with
  | done hlength =>
      refine iff_of_false (by simp) ?_
      rintro ⟨_, closer, hnext⟩
      have hcloser := hnext.found
      rw [hj, runAt?, List.getElem?_eq_none hlength] at hcloser
      cases hcloser
  | skip hnone hcourse =>
      refine iff_of_false (fun hhead => ?_) ?_
      · have hle := hcourse.le_closer pair (List.mem_of_head? hhead)
        omega
      · rintro ⟨opener, closer, hnext⟩
        exact hnone opener closer pair hj hnext
  | @pair _ _ opener closer other rest hnext hplace hcourse =>
      rw [List.head?_cons, Option.some.injEq]
      constructor
      · rintro rfl
        exact ⟨opener, closer, hnext⟩
      · rintro ⟨opener', closer', hnext'⟩
        exact hnext.unique hnext' (hplace.trans hj.symm)

section

variable {runs : List Run} {made : List Pair} {run : Run} {pair : Pair} {i : Nat}

theorem withPairs_concat (run : Run) (made : List Pair) (h : pair.opener ≠ pair.closer) (i : Nat) :
    run.withPairs (made ++ [pair]) i =
      if i = pair.opener then (run.withPairs made i).openBond pair.bond
      else if i = pair.closer then (run.withPairs made i).closeBond pair.bond
      else run.withPairs made i := by
  by_cases hopener : i = pair.opener
  · have hcloser : pair.closer ≠ i := fun hcloser => h (hopener.symm.trans hcloser.symm)
    simp [Run.withPairs, Run.openBond, Pair.uses, hopener, hopener ▸ hcloser, Nat.sub_add_eq]
  · by_cases hcloser : i = pair.closer
    · simp [Run.withPairs, Run.closeBond, Pair.uses, hcloser, h, h.symm, Nat.sub_add_eq]
    · simp [Run.withPairs, Pair.uses, hopener, hcloser, Ne.symm hopener, Ne.symm hcloser]

theorem withPairs_of_apart (hrun : run.IsFresh) (h : ∀ pair ∈ made, pair.opener ≠ i ∧ pair.closer ≠ i) :
    run.withPairs made i = run := by
  have huses : made.map (Pair.uses · i) = made.map fun _ => 0 :=
    List.map_congr_left fun pair hpair =>
      if_neg fun hplace => hplace.elim (h pair hpair).1 (h pair hpair).2
  have hsum : (made.map (Pair.uses · i)).sum = 0 := by
    rw [huses, List.map_const', List.sum_replicate_nat, Nat.mul_zero]
  have hopens : made.filter (·.opener = i) = [] :=
    List.filter_eq_nil_iff.2 fun pair hpair => by simpa using (h pair hpair).1
  have hcloses : made.countP (·.closer = i) = 0 :=
    List.countP_eq_zero.2 fun pair hpair => by simpa using (h pair hpair).2
  rw [Run.withPairs, hsum, hopens, hcloses]
  obtain ⟨mark, length, canOpen, canClose, left, opens, closes⟩ := run
  obtain rfl : left = length := hrun.left
  obtain rfl : opens = [] := hrun.opens
  obtain rfl : closes = 0 := hrun.closes
  rfl

end

end MarkdownOutline.Inline
