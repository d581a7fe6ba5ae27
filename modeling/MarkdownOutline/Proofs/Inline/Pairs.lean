import MarkdownOutline.Proofs.Inline.Course

namespace MarkdownOutline.Inline

namespace Pairing

def closePairs (p : Pairing) (closer : Run) : List Pair :=
  if closer.left = 0 then []
  else match p.opener? closer with
    | none => []
    | some (i, opener) =>
      match opener.bond? closer with
      | none => []
      | some bond =>
        ⟨i, p.runs.size, bond⟩ :: closePairs (p.join i opener bond) (closer.closeBond bond)
termination_by closer.left
decreasing_by exact closer.left_closeBond_lt bond ‹_›

def addPairs (p : Pairing) (run : Run) : List Pair := if run.canClose then p.closePairs run else []

def pairsFrom : Pairing → List Run → List Pair
  | _, [] => []
  | p, run :: runs => p.addPairs run ++ pairsFrom (p.add run) runs

end Pairing

def pairs (runs : List Run) : List Pair := Pairing.pairsFrom {} runs

def bondRuns (runs : List Run) (made : List Pair) : List Run :=
  runs.mapIdx fun i run => run.withPairs made i

section

variable {runs : List Run} {made : List Pair} {run : Run} {pair : Pair} {i : Nat}

structure Logged (runs : List Run) (p : Pairing) (made : List Pair) : Prop where
  found : ∀ i < p.runs.size, p.runs.toList[i]? = runAt? runs made i
  waits : ∀ mark, IsRunMark mark → ∀ i, i ∈ p.waiting mark ↔
    ∃ run, Waiting runs made p.runs.size i run ∧ run.mark = mark
  sorted : ∀ mark, IsRunMark mark → (p.waiting mark).Pairwise (· > ·)
  places : ∀ pair ∈ made, pair.opener < pair.closer ∧ pair.closer ≤ p.runs.size

variable {p : Pairing} {opener closer : Run}

theorem Logged.fitting_iff (h : Logged runs p made) (hmark : IsRunMark closer.mark) :
    Fitting runs made p.runs.size closer i run ↔
      i ∈ p.waiting closer.mark ∧ p.runs.toList[i]? = some run ∧ run.fits closer := by
  constructor
  · rintro ⟨hwaiting, hsame, hfits⟩
    refine ⟨(h.waits _ hmark i).2 ⟨run, hwaiting, hsame⟩, ?_, hfits⟩
    rw [h.found i hwaiting.before, hwaiting.found]
  · rintro ⟨hi, hrun, hfits⟩
    obtain ⟨run', hwaiting, hsame⟩ := (h.waits _ hmark i).1 hi
    rw [h.found i hwaiting.before, hwaiting.found] at hrun
    obtain rfl := Option.some.inj hrun
    exact ⟨hwaiting, hsame, hfits⟩

theorem Logged.opener?_eq_some_iff (h : Logged runs p made) (hmark : IsRunMark closer.mark) :
    p.opener? closer = some (i, opener) ↔ Fitting runs made p.runs.size closer i opener ∧
      ∀ k run, Fitting runs made p.runs.size closer k run → k ≤ i := by
  simp only [Pairing.opener?_eq_some_iff (h.sorted _ hmark), h.fitting_iff hmark]

theorem runAt?_concat_opener {j : Nat} (hij : i ≠ j) (hopener : runAt? runs made i = some opener)
    (bond : Bond) : runAt? runs (made ++ [⟨i, j, bond⟩]) i = some (opener.openBond bond) := by
  obtain ⟨run, hrun, rfl⟩ := Option.map_eq_some_iff.1 hopener
  rw [runAt?, hrun, Option.map_some, withPairs_concat run made hij, if_pos rfl]

theorem runAt?_concat_closer {j : Nat} (hij : i ≠ j) (hcloser : runAt? runs made j = some closer)
    (bond : Bond) : runAt? runs (made ++ [⟨i, j, bond⟩]) j = some (closer.closeBond bond) := by
  obtain ⟨run, hrun, rfl⟩ := Option.map_eq_some_iff.1 hcloser
  rw [runAt?, hrun, Option.map_some, withPairs_concat run made hij, if_neg hij.symm, if_pos rfl]

theorem runAt?_concat_of_ne (runs : List Run) (made : List Pair) (h : pair.opener ≠ pair.closer)
    (hopener : i ≠ pair.opener) (hcloser : i ≠ pair.closer) :
    runAt? runs (made ++ [pair]) i = runAt? runs made i := by
  rw [runAt?, runAt?]
  refine congrArg (Option.map · _) (funext fun run => ?_)
  rw [withPairs_concat run made h, if_neg hopener, if_neg hcloser]

/-- A pair leaves those waiting that wait in front of it, and its opener if anything of that is left. -/
theorem waiting_concat_iff {j k : Nat} {bond : Bond} (hij : i < j) (hopener : runAt? runs made i = some opener) :
    Waiting runs (made ++ [⟨i, j, bond⟩]) j k run ↔ k < i ∧ Waiting runs made j k run ∨
      k = i ∧ run = opener.openBond bond ∧ opener.canOpen ∧ (opener.openBond bond).left ≠ 0 ∧
        ∀ pair ∈ made, ¬pair.Spans i := by
  have hne : i ≠ j := Nat.ne_of_lt hij
  have hat := runAt?_concat_opener hne hopener bond
  constructor
  · rintro ⟨hbefore, hfound, hopen, hleft, hall⟩
    obtain ⟨hfree, hpair⟩ := List.forall_mem_append.1 hall
    rcases Nat.lt_trichotomy k i with hlt | rfl | hlt
    · rw [runAt?_concat_of_ne runs made hne (Nat.ne_of_lt hlt) (Nat.ne_of_lt hbefore)] at hfound
      exact .inl ⟨hlt, hbefore, hfound, hopen, hleft, hfree⟩
    · rw [hat] at hfound
      obtain rfl := Option.some.inj hfound
      exact .inr ⟨rfl, rfl, hopen, hleft, hfree⟩
    · exact absurd ⟨hlt, hbefore⟩ (hpair _ (List.mem_singleton_self _))
  · rintro (⟨hlt, hbefore, hfound, hopen, hleft, hfree⟩ | ⟨rfl, rfl, hopen, hleft, hfree⟩)
    · refine ⟨hbefore, ?_, hopen, hleft, List.forall_mem_append.2 ⟨hfree, ?_⟩⟩
      · rwa [runAt?_concat_of_ne runs made hne (Nat.ne_of_lt hlt) (Nat.ne_of_lt hbefore)]
      · exact List.forall_mem_singleton.2 fun hspans => Nat.lt_asymm hlt hspans.1
    · refine ⟨hij, hat, hopen, hleft, List.forall_mem_append.2 ⟨hfree, ?_⟩⟩
      exact List.forall_mem_singleton.2 fun hspans => Nat.lt_irrefl _ hspans.1

theorem Logged.join (h : Logged runs p made) (hmark : IsRunMark opener.mark)
    (hi : i ∈ p.waiting opener.mark) (hrun : p.runs.toList[i]? = some opener) (bond : Bond) :
    Logged runs (p.join i opener bond) (made ++ [⟨i, p.runs.size, bond⟩]) := by
  obtain ⟨_, hwaiting, _⟩ := (h.waits _ hmark i).1 hi
  have hlt := hwaiting.before
  have hne : i ≠ p.runs.size := Nat.ne_of_lt hlt
  have hat : runAt? runs made i = some opener := by rw [← h.found i hlt, hrun]
  obtain rfl := Option.some.inj (hwaiting.found.symm.trans hat)
  refine ⟨fun k hk => ?_, fun mark hmark' k => ?_, fun mark hmark' => ?_, ?_⟩
  · rw [Pairing.size_join] at hk
    rw [Pairing.toList_runs_join]
    by_cases hki : k = i
    · subst hki
      rw [List.getElem?_set_self (by simpa using hk), runAt?_concat_opener hne hat bond]
    · rw [List.getElem?_set_ne (Ne.symm hki), h.found k hk,
        runAt?_concat_of_ne runs made hne hki (Nat.ne_of_lt hk)]
  · rw [Pairing.mem_waiting_join hmark' hmark (h.sorted mark hmark') hi bond, Pairing.size_join,
      h.waits mark hmark' k]
    simp only [waiting_concat_iff hlt hat]
    constructor
    · rintro ⟨⟨run, hwaits, rfl⟩, hki | ⟨rfl, hleft⟩⟩
      · exact ⟨run, .inl ⟨hki, hwaits⟩, rfl⟩
      · obtain rfl := Option.some.inj (hwaits.found.symm.trans hat)
        exact ⟨_, .inr ⟨rfl, rfl, hwaits.canOpen, hleft rfl, hwaits.free⟩, rfl⟩
    · rintro ⟨run, ⟨hki, hwaits⟩ | ⟨rfl, rfl, hopen, hleft, hfree⟩, rfl⟩
      · exact ⟨⟨run, hwaits, rfl⟩, .inl hki⟩
      · exact ⟨⟨_, hwaiting, rfl⟩, .inr ⟨rfl, fun _ => hleft⟩⟩
  · exact (h.sorted mark hmark').sublist (Pairing.waiting_join_sublist p i bond hmark' hmark)
  · rw [Pairing.size_join]
    exact List.forall_mem_append.2 ⟨h.places, List.forall_mem_singleton.2 ⟨hlt, Nat.le_refl _⟩⟩

/-- The next pair of a closer is the one that its stack gives. -/
theorem Logged.isNext_iff (h : Logged runs p made) (hcloser : runAt? runs made p.runs.size = some closer)
    (hmark : IsRunMark closer.mark) (hclose : closer.canClose) {last : Run}
    (hplace : pair.closer = p.runs.size) : IsNext runs made opener last pair ↔
      last = closer ∧ closer.left ≠ 0 ∧ p.opener? closer = some (pair.opener, opener) ∧
        opener.bond? closer = some pair.bond := by
  constructor
  · rintro ⟨hfound, _, hleft, hfitting, hnearest, hbond⟩
    rw [hplace] at hfound hfitting hnearest
    obtain rfl := Option.some.inj (hfound.symm.trans hcloser)
    exact ⟨rfl, hleft, (h.opener?_eq_some_iff hmark).2 ⟨hfitting, hnearest⟩, hbond⟩
  · rintro ⟨rfl, hleft, hopener, hbond⟩
    obtain ⟨hfitting, hnearest⟩ := (h.opener?_eq_some_iff hmark).1 hopener
    rw [← hplace] at hcloser hfitting hnearest
    exact ⟨hcloser, hclose, hleft, hfitting, hnearest, hbond⟩

theorem Pairing.closePairs_eq_nil (h : ∀ i opener, closer.left ≠ 0 → p.opener? closer = some (i, opener) →
    opener.bond? closer = none) : p.closePairs closer = [] := by
  rw [Pairing.closePairs]
  split
  · rfl
  · rename_i hleft
    cases hopener : p.opener? closer with
    | none => rfl
    | some found => simp only [h _ _ hleft hopener]

theorem Pairing.closePairs_of_bond? {bond : Bond} (hleft : closer.left ≠ 0)
    (hopener : p.opener? closer = some (i, opener)) (hbond : opener.bond? closer = some bond) :
    p.closePairs closer =
      ⟨i, p.runs.size, bond⟩ :: (p.join i opener bond).closePairs (closer.closeBond bond) := by
  rw [Pairing.closePairs, if_neg hleft, hopener]
  simp only [hbond]

structure Closing (runs : List Run) (made : List Pair) (p : Pairing) (closer : Run)
    (after : Pairing × Run) : Prop where
  logged : Logged runs after.1 (made ++ p.closePairs closer)
  size : after.1.runs.size = p.runs.size
  last : runAt? runs (made ++ p.closePairs closer) p.runs.size = some after.2
  course : ∀ rest, Course runs (p.runs.size + 1) (made ++ p.closePairs closer) rest →
    Course runs p.runs.size made (p.closePairs closer ++ rest)

theorem Closing.stop (h : Logged runs p made) (hcloser : runAt? runs made p.runs.size = some closer)
    (hmark : IsRunMark closer.mark) (hclose : closer.canClose)
    (hnone : ∀ i opener, closer.left ≠ 0 → p.opener? closer = some (i, opener) →
      opener.bond? closer = none) : Closing runs made p closer (p, closer) := by
  have hnil := Pairing.closePairs_eq_nil hnone
  refine ⟨?_, rfl, ?_, fun rest hrest => ?_⟩
  · rwa [hnil, List.append_nil]
  · rwa [hnil, List.append_nil]
  · rw [hnil, List.append_nil] at hrest
    rw [hnil, List.nil_append]
    refine .skip (fun opener last pair hplace hnext => ?_) hrest
    obtain ⟨-, hleft, hopener, hbond⟩ := (h.isNext_iff hcloser hmark hclose hplace).1 hnext
    rw [hnone _ _ hleft hopener] at hbond
    cases hbond

theorem Closing.more {bond : Bond} {after : Pairing × Run}
    (hnext : IsNext runs made opener closer ⟨i, p.runs.size, bond⟩)
    (hpairs : p.closePairs closer =
      ⟨i, p.runs.size, bond⟩ :: (p.join i opener bond).closePairs (closer.closeBond bond))
    (h : Closing runs (made ++ [⟨i, p.runs.size, bond⟩]) (p.join i opener bond) (closer.closeBond bond)
      after) : Closing runs made p closer after := by
  obtain ⟨hlogged, hsize, hlast, hcourse⟩ := h
  rw [List.append_assoc, List.singleton_append, ← hpairs] at hlogged hlast hcourse
  rw [Pairing.size_join] at hsize hlast hcourse
  refine ⟨hlogged, hsize, hlast, fun rest hrest => ?_⟩
  rw [hpairs]
  exact .pair hnext rfl (hcourse rest hrest)

theorem Logged.close (h : Logged runs p made) (hcloser : runAt? runs made p.runs.size = some closer)
    (hmark : IsRunMark closer.mark) (hclose : closer.canClose) :
    Closing runs made p closer (p.close closer) := by
  fun_induction Pairing.close p closer generalizing made with
  | case1 p closer hleft =>
      exact .stop h hcloser hmark hclose fun _ _ hne => absurd hleft hne
  | case2 p closer hleft hnone =>
      refine .stop h hcloser hmark hclose fun _ _ _ hopener => ?_
      rw [hnone] at hopener
      cases hopener
  | case3 p closer hleft i opener hopener hnone =>
      refine .stop h hcloser hmark hclose fun _ _ _ hopener' => ?_
      rw [hopener] at hopener'
      cases hopener'
      exact hnone
  | case4 p closer hleft i opener hopener bond hbond ih =>
      obtain ⟨hi, hfound⟩ := Pairing.exists_of_opener? hopener
      have hnext : IsNext runs made opener closer ⟨i, p.runs.size, bond⟩ :=
        (h.isNext_iff hcloser hmark hclose rfl).2 ⟨rfl, hleft, hopener, hbond⟩
      have hsame : opener.mark = closer.mark := hnext.fitting.mark
      have hjoin := h.join (hsame ▸ hmark) (hsame ▸ hi) hfound bond
      have hclosed : runAt? runs (made ++ [⟨i, p.runs.size, bond⟩]) (p.join i opener bond).runs.size =
          some (closer.closeBond bond) := by
        rw [Pairing.size_join]
        exact runAt?_concat_closer (Nat.ne_of_lt hnext.fitting.waiting.before) hcloser bond
      exact .more hnext (Pairing.closePairs_of_bond? hleft hopener hbond) (ih hjoin hclosed hmark hclose)

theorem waiting_succ_iff {last : Run} {j k : Nat} (hplaces : ∀ pair ∈ made, pair.closer ≤ j)
    (hlast : runAt? runs made j = some last) : Waiting runs made (j + 1) k run ↔
      Waiting runs made j k run ∨ k = j ∧ run = last ∧ last.canOpen ∧ last.left ≠ 0 := by
  constructor
  · rintro ⟨hbefore, hfound, hopen, hleft, hfree⟩
    rcases Nat.lt_succ_iff_lt_or_eq.1 hbefore with hlt | rfl
    · exact .inl ⟨hlt, hfound, hopen, hleft, hfree⟩
    · obtain rfl := Option.some.inj (hfound.symm.trans hlast)
      exact .inr ⟨rfl, rfl, hopen, hleft⟩
  · rintro (h | ⟨rfl, rfl, hopen, hleft⟩)
    · exact ⟨Nat.lt_succ_of_lt h.before, h.found, h.canOpen, h.left, h.free⟩
    · refine ⟨Nat.lt_succ_self _, hlast, hopen, hleft, fun pair hpair hspans => ?_⟩
      exact Nat.not_lt_of_le (hplaces pair hpair) hspans.2

/-- Between two runs, all pairs made have their closers behind them. -/
structure Settled (runs : List Run) (p : Pairing) (made : List Pair) : Prop extends Logged runs p made where
  closed : ∀ pair ∈ made, pair.closer < p.runs.size

theorem Logged.mem_waiting_wait (h : Logged runs p made) {last : Run}
    (hlast : runAt? runs made p.runs.size = some last) (hmark : IsRunMark last.mark) {mark : Char}
    (hmark' : IsRunMark mark) (k : Nat) : k ∈ (p.wait last).waiting mark ↔
      ∃ run, Waiting runs made (p.runs.size + 1) k run ∧ run.mark = mark := by
  simp only [waiting_succ_iff (fun pair hpair => (h.places pair hpair).2) hlast]
  rw [Pairing.waiting_wait p hmark hmark']
  split
  · rename_i hpushed
    rw [List.mem_cons, h.waits mark hmark' k]
    constructor
    · rintro (rfl | ⟨other, hwaits, hsame⟩)
      · exact ⟨_, .inr ⟨rfl, rfl, hpushed.2.2, hpushed.2.1⟩, hpushed.1.symm⟩
      · exact ⟨other, .inl hwaits, hsame⟩
    · rintro ⟨other, hwaits | ⟨rfl, -⟩, hsame⟩
      · exact .inr ⟨other, hwaits, hsame⟩
      · exact .inl rfl
  · rename_i hidle
    rw [h.waits mark hmark' k]
    refine exists_congr fun other => and_congr_left fun hsame => (or_iff_left ?_).symm
    rintro ⟨rfl, rfl, hopen, hleft⟩
    exact hidle ⟨hsame.symm, hleft, hopen⟩

theorem Logged.wait (h : Logged runs p made) {last : Run} (hlast : runAt? runs made p.runs.size = some last)
    (hmark : IsRunMark last.mark) : Settled runs (p.wait last) made := by
  have hplaces : ∀ pair ∈ made, pair.closer ≤ p.runs.size := fun pair hpair => (h.places pair hpair).2
  refine ⟨⟨fun k hk => ?_, fun mark hmark' k => ?_, fun mark hmark' => ?_, fun pair hpair => ?_⟩,
    fun pair hpair => ?_⟩
  · rw [Pairing.size_wait] at hk
    rw [Pairing.runs_wait]
    rcases Nat.lt_succ_iff_lt_or_eq.1 hk with hlt | rfl
    · rw [List.getElem?_append_left (by simpa using hlt), h.found k hlt]
    · rw [hlast, ← Array.length_toList, List.getElem?_concat_length]
  · rw [Pairing.size_wait]
    exact h.mem_waiting_wait hlast hmark hmark' k
  · rw [Pairing.waiting_wait p hmark hmark']
    split
    · refine List.pairwise_cons.2 ⟨fun k hk => ?_, h.sorted mark hmark'⟩
      obtain ⟨_, hwaits, _⟩ := (h.waits mark hmark' k).1 hk
      exact hwaits.before
    · exact h.sorted mark hmark'
  · rw [Pairing.size_wait]
    exact ⟨(h.places pair hpair).1, Nat.le_succ_of_le (hplaces pair hpair)⟩
  · rw [Pairing.size_wait]
    exact Nat.lt_succ_of_le (hplaces pair hpair)

theorem Settled.add (h : Settled runs p made) (hrun : runs[p.runs.size]? = some run) (hfresh : run.IsFresh) :
    Settled runs (p.add run) (made ++ p.addPairs run) ∧ (p.add run).runs.size = p.runs.size + 1 ∧
      ∀ rest, Course runs (p.runs.size + 1) (made ++ p.addPairs run) rest →
        Course runs p.runs.size made (p.addPairs run ++ rest) := by
  have hat : runAt? runs made p.runs.size = some run := by
    rw [runAt?, hrun, Option.map_some, withPairs_of_apart hfresh]
    intro pair hpair
    have hplace := (h.places pair hpair).1
    have hlt := h.closed pair hpair
    omega
  rw [Pairing.add, Pairing.addPairs]
  split
  · rename_i hclose
    obtain ⟨hlogged, hsize, hlast, hcourse⟩ := h.toLogged.close hat hfresh.mark hclose
    have hmark : IsRunMark (p.close run).2.mark := by
      obtain ⟨_, _, hclosed⟩ := Pairing.exists_close_eq p run
      rw [hclosed]
      exact hfresh.mark
    rw [← hsize] at hlast
    exact ⟨hlogged.wait hlast hmark, by rw [Pairing.size_wait, hsize], hcourse⟩
  · rename_i hclose
    rw [List.append_nil]
    refine ⟨h.wait hat hfresh.mark, Pairing.size_wait p run, fun rest hrest =>
      .skip (fun _ last pair hplace hnext => ?_) hrest⟩
    have hfound := hnext.found
    rw [hplace, hat] at hfound
    cases hfound
    exact hclose hnext.canClose

theorem Settled.addAll (hfresh : ∀ r ∈ runs, r.IsFresh) (rest : List Run) : ∀ {p made},
    runs.drop p.runs.size = rest → Settled runs p made →
      Settled runs (rest.foldl Pairing.add p) (made ++ p.pairsFrom rest) ∧
        Course runs p.runs.size made (p.pairsFrom rest) := by
  induction rest with
  | nil =>
      intro p made hdrop h
      rw [Pairing.pairsFrom, List.append_nil]
      exact ⟨h, .done (List.drop_eq_nil_iff.1 hdrop)⟩
  | cons run rest ih =>
      intro p made hdrop h
      have hrun : runs[p.runs.size]? = some run := by
        rw [← List.head?_drop, hdrop, List.head?_cons]
      obtain ⟨hadd, hsize, hcourse⟩ := h.add hrun (hfresh run (List.mem_of_getElem? hrun))
      have hdrop' : runs.drop (p.add run).runs.size = rest := by
        rw [hsize, ← List.tail_drop, hdrop, List.tail_cons]
      obtain ⟨hall, hrest⟩ := ih hdrop' hadd
      rw [hsize] at hrest
      rw [Pairing.pairsFrom, List.foldl_cons, ← List.append_assoc]
      exact ⟨hall, hcourse _ hrest⟩

theorem settled_empty (runs : List Run) : Settled runs {} [] where
  found := fun _ hi => absurd hi (Nat.not_lt_zero _)
  waits := by
    rintro mark hmark i
    refine iff_of_false ?_ fun ⟨run, hwaits, _⟩ => absurd hwaits.before (Nat.not_lt_zero _)
    rcases hmark with rfl | rfl | rfl <;> exact List.not_mem_nil
  sorted := by
    rintro mark (rfl | rfl | rfl) <;> exact List.Pairwise.nil
  places := List.forall_mem_nil _
  closed := List.forall_mem_nil _

/-- The pairs of fresh runs are all that come to be, and their bonds are those of the runs. -/
theorem course_pairs (hfresh : ∀ r ∈ runs, r.IsFresh) :
    Course runs 0 [] (pairs runs) ∧ pairRuns runs = bondRuns runs (pairs runs) := by
  have hdrop : runs.drop ({} : Pairing).runs.size = runs := List.drop_zero
  obtain ⟨hsettled, hcourse⟩ := Settled.addAll hfresh runs hdrop (settled_empty runs)
  refine ⟨hcourse, List.ext_getElem? fun i => ?_⟩
  have hlength : (pairRuns runs).length = runs.length := by
    have hextents := congrArg List.length (nested_pairRuns hfresh).2
    rwa [List.length_map, List.length_map] at hextents
  rw [bondRuns, List.getElem?_mapIdx]
  rcases Nat.lt_or_ge i runs.length with hlt | hle
  · exact hsettled.found i (by rwa [← Array.length_toList, ← pairRuns, hlength])
  · rw [List.getElem?_eq_none (hlength ▸ hle), List.getElem?_eq_none hle, Option.map_none]

end

end MarkdownOutline.Inline
