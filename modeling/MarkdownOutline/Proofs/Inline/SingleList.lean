import Mathlib.Data.List.TakeWhile
import MarkdownOutline.Proofs.Inline.Runs

namespace MarkdownOutline.Inline

namespace SingleList

structure Entry where
  run : Run
  active : Bool

/-- The rule of three, on the lengths that the runs had at first: if one of them can both open and
close, their lengths may add up to a multiple of three only where both are multiples. -/
def MayPair (opener closer : Run) : Prop :=
  (opener.canOpen && opener.canClose) ∨ (closer.canOpen && closer.canClose) →
    3 ∣ opener.length + closer.length → 3 ∣ opener.length ∧ 3 ∣ closer.length

instance (opener closer : Run) : Decidable (MayPair opener closer) :=
  inferInstanceAs (Decidable (_ → _))

def Serves (closer : Run) (entry : Entry) : Prop :=
  entry.active ∧ entry.run.mark = closer.mark ∧ MayPair entry.run closer

instance (closer : Run) (entry : Entry) : Decidable (Serves closer entry) :=
  inferInstanceAs (Decidable (_ ∧ _))

def bondOf (opener closer : Run) : Bond :=
  if 2 ≤ opener.left ∧ 2 ≤ closer.left then .strong else .emphasis

def Entry.still (entry : Entry) : Entry := { entry with active := false }

def Entry.opened (entry : Entry) (bond : Bond) : Entry :=
  let run := entry.run.openBond bond
  ⟨run, run.left ≠ 0⟩

/-- Looks back, the nearest run first, for a run that serves the closer. What has been passed over is
active no longer. -/
def pair? (closer : Run) : List Entry → Option (Bond × List Entry)
  | [] => none
  | entry :: before =>
    if Serves closer entry then
      let bond := bondOf entry.run closer
      some (bond, entry.opened bond :: before)
    else (pair? closer before).map fun (bond, before) => (bond, entry.still :: before)

def close (entries : List Entry) (closer : Run) : List Entry × Run :=
  if closer.left = 0 then (entries, closer)
  else match pair? closer entries with
    | none => (entries, closer)
    | some (bond, entries) => close entries (closer.closeBond bond)
termination_by closer.left
decreasing_by exact closer.left_closeBond_lt bond ‹_›

def add (entries : List Entry) (run : Run) : List Entry :=
  let (entries, run) := if run.canClose then close entries run else (entries, run)
  ⟨run, run.left ≠ 0 && run.canOpen⟩ :: entries

def activeAt (mark : Char) : List Entry → List Nat
  | [] => []
  | entry :: before =>
    if entry.active ∧ entry.run.mark = mark then before.length :: activeAt mark before
    else activeAt mark before

structure Matches (p : Pairing) (entries : List Entry) : Prop where
  runs : p.runs.toList = (entries.map Entry.run).reverse
  waiting : ∀ mark, IsRunMark mark → p.waiting mark = activeAt mark entries
  canOpen : ∀ entry ∈ entries, entry.active → entry.run.canOpen

section

variable {mark : Char} {entry : Entry} {before between entries : List Entry} {closer : Run}

theorem lt_of_mem_activeAt {i : Nat} (h : i ∈ activeAt mark entries) : i < entries.length := by
  induction entries with
  | nil => cases h
  | cons entry before ih =>
      rw [activeAt] at h
      rw [List.length_cons]
      split at h
      · rcases List.mem_cons.1 h with rfl | h
        · exact Nat.lt_succ_self _
        · exact Nat.lt_succ_of_lt (ih h)
      · exact Nat.lt_succ_of_lt (ih h)

theorem activeAt_still (between before : List Entry) :
    activeAt mark (between.map Entry.still ++ before) = activeAt mark before := by
  induction between with
  | nil => rfl
  | cons entry between ih =>
      rw [List.map_cons, List.cons_append, activeAt, if_neg fun h => Bool.false_ne_true h.1, ih]

theorem dropWhile_activeAt (between : List Entry) (entry : Entry) (before : List Entry) :
    (activeAt mark (between ++ entry :: before)).dropWhile (before.length < ·) =
      activeAt mark (entry :: before) := by
  induction between with
  | nil =>
      rw [List.nil_append, List.dropWhile_eq_self_iff]
      intro hpos
      have hmem := lt_of_mem_activeAt (List.getElem_mem hpos)
      rw [List.length_cons] at hmem
      simp only [decide_eq_true_eq]
      omega
  | cons other between ih =>
      rw [List.cons_append, activeAt]
      split
      · rw [List.dropWhile_cons_of_pos, ih]
        rw [List.length_append, List.length_cons]
        exact decide_eq_true (by omega)
      · exact ih

theorem activeAt_opened (hactive : entry.active) (bond : Bond) :
    activeAt mark (entry.opened bond :: before) =
      if mark = entry.run.mark ∧ (entry.run.openBond bond).left = 0
      then (activeAt mark (entry :: before)).tail else activeAt mark (entry :: before) := by
  rw [activeAt, activeAt]
  change (if decide ((entry.run.openBond bond).left ≠ 0) ∧ entry.run.mark = mark then _ else _) = _
  by_cases hsame : entry.run.mark = mark
  · by_cases hleft : (entry.run.openBond bond).left = 0
    · rw [if_neg (by simp [hleft]), if_pos ⟨hsame.symm, hleft⟩, if_pos ⟨hactive, hsame⟩, List.tail_cons]
    · rw [if_pos ⟨by simpa using hleft, hsame⟩, if_neg fun h => hleft h.2, if_pos ⟨hactive, hsame⟩]
  · rw [if_neg fun h => hsame h.2, if_neg fun h => hsame h.1.symm, if_neg fun h => hsame h.2]

theorem pair?_eq_none_iff : pair? closer entries = none ↔ ∀ entry ∈ entries, ¬Serves closer entry := by
  induction entries with
  | nil => simp [pair?]
  | cons entry before ih =>
      rw [pair?, List.forall_mem_cons, ← ih]
      split
      · simp [*]
      · simp [*]

theorem exists_of_pair? {bond : Bond} {after : List Entry}
    (h : pair? closer entries = some (bond, after)) :
    ∃ between entry before, entries = between ++ entry :: before ∧
      (∀ other ∈ between, ¬Serves closer other) ∧ Serves closer entry ∧
      bond = bondOf entry.run closer ∧
      after = between.map Entry.still ++ entry.opened bond :: before := by
  induction entries generalizing after with
  | nil => cases h
  | cons entry before ih =>
      rw [pair?] at h
      split at h
      · cases h
        exact ⟨[], entry, before, rfl, List.forall_mem_nil _, ‹_›, rfl, rfl⟩
      · obtain ⟨⟨_, after⟩, hfound, h⟩ := Option.map_eq_some_iff.1 h
        cases h
        obtain ⟨between, opener, front, rfl, hbetween, hserves, hbond, rfl⟩ := ih hfound
        exact ⟨entry :: between, opener, front, rfl, List.forall_mem_cons.2 ⟨‹_›, hbetween⟩, hserves,
          hbond, rfl⟩

theorem fits_iff_mayPair {opener : Run} (hopen : opener.canOpen) (hclose : closer.canClose)
    (hmark : closer.mark ≠ '~') : opener.fits closer ↔ MayPair opener closer := by
  simp only [Run.fits, MayPair, hopen, hclose, hmark, Nat.dvd_iff_mod_eq_zero, Bool.true_and,
    Bool.and_true, Bool.or_eq_true, Bool.not_eq_true', Bool.or_eq_false_iff, bne_iff_ne,
    Bool.and_eq_true, beq_iff_eq, decide_false, Bool.false_or]
  grind

theorem bond?_eq_bondOf (opener : Run) (hmark : closer.mark ≠ '~') :
    opener.bond? closer = some (bondOf opener closer) := by
  rw [Run.bond?, bondOf, if_neg hmark]
  simp only [Bool.and_eq_true, decide_eq_true_eq]
  split <;> rfl

variable {p : Pairing}

theorem Matches.offer?_eq (h : Matches p (between ++ entry :: before)) (hactive : entry.active)
    (hclose : closer.canClose) (hmark : closer.mark ≠ '~') :
    p.offer? closer before.length =
      if MayPair entry.run closer then some (before.length, entry.run) else none := by
  have hrun : p.runs[before.length]? = some entry.run := by
    rw [← Array.getElem?_toList, h.runs, List.map_append, List.map_cons, List.reverse_append,
      List.reverse_cons, List.append_assoc, List.getElem?_append_right (by simp)]
    simp
  have hopen : entry.run.canOpen := h.canOpen entry (by simp) hactive
  rw [Pairing.offer?, hrun, Option.bind_some]
  exact if_congr (fits_iff_mayPair hopen hclose hmark) rfl rfl

theorem findSome?_activeAt (hclose : closer.canClose) (hmark : closer.mark ≠ '~')
    (between : List Entry) : ∀ behind, Matches p (behind ++ (between ++ before)) →
      (∀ other ∈ between, ¬Serves closer other) →
      (activeAt closer.mark (between ++ before)).findSome? (p.offer? closer) =
        (activeAt closer.mark before).findSome? (p.offer? closer) := by
  induction between with
  | nil => exact fun _ _ _ => rfl
  | cons other between ih =>
      intro behind h hnone
      obtain ⟨hother, hnone⟩ := List.forall_mem_cons.1 hnone
      have ih := ih (behind ++ [other]) (by simpa using h) hnone
      rw [List.cons_append] at h ⊢
      rw [activeAt]
      split
      · rename_i hactive
        have hoffer := h.offer?_eq hactive.1 hclose hmark
        rw [if_neg fun hpair => hother ⟨hactive.1, hactive.2, hpair⟩] at hoffer
        rw [List.findSome?_cons, hoffer]
        exact ih
      · exact ih

theorem Matches.opener?_of_none (h : Matches p entries) (hclose : closer.canClose)
    (hmark : IsRunMark closer.mark) (hsolid : closer.mark ≠ '~')
    (hnone : ∀ entry ∈ entries, ¬Serves closer entry) : p.opener? closer = none := by
  have hentries : entries ++ [] = entries := List.append_nil entries
  rw [Pairing.opener?_eq_findSome?, h.waiting _ hmark, ← hentries,
    findSome?_activeAt hclose hsolid entries [] (by rwa [List.nil_append, hentries]) hnone]
  rfl

theorem Matches.opener?_of_serves (h : Matches p (between ++ entry :: before)) (hclose : closer.canClose)
    (hmark : IsRunMark closer.mark) (hsolid : closer.mark ≠ '~')
    (hnone : ∀ other ∈ between, ¬Serves closer other) (hserves : Serves closer entry) :
    p.opener? closer = some (before.length, entry.run) := by
  obtain ⟨hactive, hsame, hpair⟩ := hserves
  rw [Pairing.opener?_eq_findSome?, h.waiting _ hmark, findSome?_activeAt hclose hsolid between [] h hnone,
    activeAt, if_pos ⟨hactive, hsame⟩, List.findSome?_cons, h.offer?_eq hactive hclose hsolid,
    if_pos hpair]

theorem Matches.join (h : Matches p (between ++ entry :: before)) (hactive : entry.active)
    (hmark : IsRunMark entry.run.mark) (bond : Bond) :
    Matches (p.join before.length entry.run bond)
      (between.map Entry.still ++ entry.opened bond :: before) := by
  refine ⟨?_, fun mark hmark' => ?_, ?_⟩
  · have hstill : (between.map Entry.still).map Entry.run = between.map Entry.run := by
      rw [List.map_map]
      rfl
    rw [Pairing.toList_runs_join, h.runs]
    simp only [List.map_append, List.map_cons, hstill, List.reverse_append, List.reverse_cons,
      List.append_assoc]
    rw [List.set_append_right _ _ (by simp)]
    simp [Entry.opened]
  · rw [Pairing.waiting_join p before.length bond hmark' hmark, h.waiting mark hmark',
      dropWhile_activeAt, activeAt_still, activeAt_opened hactive]
  · intro other hother hopen
    rcases List.mem_append.1 hother with hother | hother
    · obtain ⟨_, _, rfl⟩ := List.mem_map.1 hother
      exact (Bool.false_ne_true hopen).elim
    rcases List.mem_cons.1 hother with rfl | hother
    · exact h.canOpen entry (by simp) hactive
    · exact h.canOpen other (by simp [hother]) hopen

/-- A closer finds the same openers in the list as on its stack. -/
theorem Matches.close (h : Matches p entries) (hclose : closer.canClose)
    (hmark : IsRunMark closer.mark) (hsolid : closer.mark ≠ '~') :
    ∃ after, SingleList.close entries closer = (after, (p.close closer).2) ∧
      Matches (p.close closer).1 after := by
  fun_induction Pairing.close p closer generalizing entries with
  | case1 p closer hleft =>
      rw [SingleList.close, if_pos hleft]
      exact ⟨entries, rfl, h⟩
  | case2 p closer hleft hnone =>
      rw [SingleList.close, if_neg hleft]
      cases hpair : pair? closer entries with
      | none => exact ⟨entries, rfl, h⟩
      | some found =>
          obtain ⟨between, entry, before, rfl, hbetween, hserves, -, -⟩ := exists_of_pair? hpair
          rw [h.opener?_of_serves hclose hmark hsolid hbetween hserves] at hnone
          cases hnone
  | case3 p closer hleft i opener hopener hnone =>
      rw [bond?_eq_bondOf opener hsolid] at hnone
      cases hnone
  | case4 p closer hleft i opener hopener bond hbond ih =>
      rw [SingleList.close, if_neg hleft]
      cases hpair : pair? closer entries with
      | none =>
          rw [h.opener?_of_none hclose hmark hsolid (pair?_eq_none_iff.1 hpair)] at hopener
          cases hopener
      | some found =>
          obtain ⟨between, entry, before, rfl, hbetween, hserves, hbond', hafter⟩ := exists_of_pair? hpair
          rw [h.opener?_of_serves hclose hmark hsolid hbetween hserves] at hopener
          cases hopener
          rw [bond?_eq_bondOf entry.run hsolid, ← hbond'] at hbond
          cases hbond
          have hjoin := h.join hserves.1 (hserves.2.1 ▸ hmark) found.1
          rw [← hafter] at hjoin
          exact ih hjoin hclose hmark hsolid

theorem Matches.wait (h : Matches p entries) {run : Run} (hmark : IsRunMark run.mark) :
    Matches (p.wait run) (⟨run, run.left ≠ 0 && run.canOpen⟩ :: entries) := by
  refine ⟨?_, fun mark hmark' => ?_, ?_⟩
  · rw [Pairing.runs_wait, h.runs, List.map_cons, List.reverse_cons]
  · have hsize : p.runs.size = entries.length := by
      rw [← Array.length_toList, h.runs, List.length_reverse, List.length_map]
    rw [Pairing.waiting_wait p hmark hmark', h.waiting mark hmark', activeAt, hsize]
    refine if_congr ?_ rfl rfl
    rw [Bool.and_eq_true, decide_eq_true_eq, and_comm, eq_comm (a := mark)]
  · refine List.forall_mem_cons.2 ⟨fun hactive => ?_, h.canOpen⟩
    exact (Bool.and_eq_true_iff.1 hactive).2

theorem Matches.add (h : Matches p entries) {run : Run} (hmark : IsRunMark run.mark)
    (hsolid : run.mark ≠ '~') : Matches (p.add run) (SingleList.add entries run) := by
  rw [Pairing.add, SingleList.add]
  split
  · obtain ⟨after, hafter, hmatches⟩ := h.close ‹_› hmark hsolid
    obtain ⟨left, closes, hclosed⟩ := Pairing.exists_close_eq p run
    rw [hafter]
    change Matches ((p.close run).1.wait (p.close run).2) _
    rw [hclosed]
    exact hmatches.wait hmark
  · exact h.wait hmark

theorem Matches.addAll {runs : List Run} (hruns : ∀ run ∈ runs, IsRunMark run.mark ∧ run.mark ≠ '~') :
    ∀ {p entries}, Matches p entries →
      Matches (runs.foldl Pairing.add p) (runs.foldl SingleList.add entries) := by
  induction runs with
  | nil => exact fun h => h
  | cons run runs ih =>
      obtain ⟨⟨hmark, hsolid⟩, hruns⟩ := List.forall_mem_cons.1 hruns
      exact fun h => ih hruns (h.add hmark hsolid)

theorem matches_nil : Matches {} [] where
  runs := rfl
  waiting := by
    rintro mark (rfl | rfl | rfl) <;> rfl
  canOpen := List.forall_mem_nil _

end

end SingleList

def pairSingly (runs : List Run) : List Run :=
  ((runs.foldl SingleList.add []).map SingleList.Entry.run).reverse

theorem pairRuns_eq_pairSingly {runs : List Run}
    (h : ∀ run ∈ runs, IsRunMark run.mark ∧ run.mark ≠ '~') : pairRuns runs = pairSingly runs :=
  (SingleList.matches_nil.addAll h).runs

/-- Without tildes, three stacks do what a single list does, down to the labels within labels. -/
theorem readWithin_eq_single_list (settings : Settings) (loc : Location) (room : Nat) {cs : List Char}
    (h : '~' ∉ cs) : readWithin settings loc room cs = readWith settings loc pairSingly room cs := by
  rw [readWithin_eq_readWith]
  apply readWith_congr
  intro runs hruns
  apply pairRuns_eq_pairSingly
  intro run hrun
  obtain ⟨hfresh, hmem⟩ := hruns run hrun
  exact ⟨hfresh.mark, fun hmark => h (hmark ▸ hmem)⟩

/-- Within a label, a closer passes over a nearer run by the rule of three and cuts off a low line. -/
theorem skipped_eq_single_list : '~' ∉ "[*a**b _c*](u) d_".toList ∧
    readWithin {} ⟨1, 1, none, none⟩ 1 "[*a**b _c*](u) d_".toList =
      readWith {} ⟨1, 1, none, none⟩ pairSingly 1 "[*a**b _c*](u) d_".toList ∧
    readWith {} ⟨1, 1, none, none⟩ pairSingly 1 "[*a**b _c*](u) d_".toList =
      [.branch ⟨1, 1, none, none⟩ (.link "u" none)
        [.branch ⟨1, 1, none, none⟩ .emphasis [.leaf ⟨1, 1, none, none⟩ (.text "a**b _c")]],
        .leaf ⟨1, 1, none, none⟩ (.text " d_")] := by
  have hplain : '~' ∉ "[*a**b _c*](u) d_".toList := by decide
  exact ⟨hplain, readWithin_eq_single_list {} ⟨1, 1, none, none⟩ 1 hplain, by decide +kernel⟩

end MarkdownOutline.Inline
