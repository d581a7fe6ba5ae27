import Mathlib.Order.Bounds.Defs
import MarkdownOutline.Proofs.Inline.Pairs

namespace MarkdownOutline.Inline

section

variable (runs : List Run) (made : List Pair) (j i : Nat)

def Usable : Prop := ∃ run, Waiting runs made j i run ∧ run.mark = '~' ∧ 2 ≤ run.left

def Short : Prop := ∃ run, Waiting runs made j i run ∧ run.mark = '~' ∧ run.left < 2

end

section

variable {runs : List Run} {made : List Pair} {opener closer : Run} {pair : Pair}

theorem fits_of_tilde (hmark : closer.mark = '~') : opener.fits closer := by
  simp [Run.fits, hmark]

theorem bond?_of_tilde (hmark : closer.mark = '~') {bond : Bond} :
    opener.bond? closer = some bond ↔ bond = .strikethrough ∧ 2 ≤ opener.left ∧ 2 ≤ closer.left := by
  rw [Run.bond?, if_pos hmark]
  simp only [Bool.and_eq_true, decide_eq_true_eq]
  split
  · rename_i hboth
    rw [Option.some.injEq, and_iff_left hboth, eq_comm]
  · rename_i hshort
    exact iff_of_false (by simp) fun h => hshort h.2

theorem isNext_tilde_iff (hcloser : runAt? runs made pair.closer = some closer)
    (hmark : closer.mark = '~') (hclose : closer.canClose) :
    (∃ opener last, IsNext runs made opener last pair) ↔
      2 ≤ closer.left ∧ pair.bond = .strikethrough ∧
        IsGreatest {k | Usable runs made pair.closer k} pair.opener ∧
        ∀ k, Short runs made pair.closer k → k < pair.opener := by
  constructor
  · rintro ⟨opener, last, hfound, _, _, hfitting, hnearest, hbond⟩
    obtain rfl := Option.some.inj (hfound.symm.trans hcloser)
    obtain ⟨hbond, hopenerLeft, hcloserLeft⟩ := (bond?_of_tilde hmark).1 hbond
    have hwaits {k : Nat} {run : Run} (hwaiting : Waiting runs made pair.closer k run)
        (htilde : run.mark = '~') : k ≤ pair.opener :=
      hnearest k run ⟨hwaiting, htilde.trans hmark.symm, fits_of_tilde hmark⟩
    refine ⟨hcloserLeft, hbond, ⟨?_, ?_⟩, ?_⟩
    · exact ⟨opener, hfitting.waiting, hfitting.mark.trans hmark, hopenerLeft⟩
    · rintro k ⟨_, hwaiting, htilde, _⟩
      exact hwaits hwaiting htilde
    · rintro k ⟨run, hwaiting, htilde, hleft⟩
      apply Nat.lt_of_le_of_ne (hwaits hwaiting htilde)
      intro hk
      have hsame := hfitting.waiting.found
      rw [← hk, hwaiting.found] at hsame
      obtain rfl := Option.some.inj hsame
      omega
  · rintro ⟨hleft, hbond, ⟨⟨opener, hwaiting, htilde, hopenerLeft⟩, husable⟩, hshort⟩
    refine ⟨opener, closer, hcloser, hclose, by omega, ?_, ?_, ?_⟩
    · exact ⟨hwaiting, htilde.trans hmark.symm, fits_of_tilde hmark⟩
    · intro k run hfitting
      have hrun : run.mark = '~' := hfitting.mark.trans hmark
      by_cases htwo : 2 ≤ run.left
      · exact husable ⟨run, hfitting.waiting, hrun, htwo⟩
      · exact Nat.le_of_lt (hshort k ⟨run, hfitting.waiting, hrun, by omega⟩)
    · exact (bond?_of_tilde hmark).2 ⟨hbond, hopenerLeft, hleft⟩

end

def textRuns (ctx : Context) (cs : List Char) : List Run := (scan ctx cs).filterMap Piece.run?

/-- A moment at which the run at place `j` looks for an opener, with some pairs made already. -/
structure Moment (runs : List Run) (made rest : List Pair) (j : Nat) : Prop where
  all : pairs runs = made ++ rest
  behind : ∀ pair ∈ made, pair.closer ≤ j
  ahead : ∀ pair ∈ rest, j ≤ pair.closer

/-- The tree of any text is that of its pairs, which are made closer by closer. A tilde run that looks
for an opener takes the nearest usable run, and it takes none if it has a single tilde itself or a run
with a single tilde waits behind the nearest usable one. -/
theorem strikes_nearest (settings : Settings) (loc : Location) (cs : List Char) :
    (∀ room, readWithin settings loc room cs =
      readWith settings loc (fun runs => bondRuns runs (pairs runs)) room cs) ∧
    ∀ label runs, textRuns ⟨settings, loc, label⟩ cs = runs →
      (pairs runs).Pairwise (·.closer ≤ ·.closer) ∧
      ∀ made rest j closer, Moment runs made rest j → runAt? runs made j = some closer →
        closer.mark = '~' → closer.canClose → ∀ i bond, rest.head? = some ⟨i, j, bond⟩ ↔
          2 ≤ closer.left ∧ bond = .strikethrough ∧ IsGreatest {k | Usable runs made j k} i ∧
            ∀ k, Short runs made j k → k < i := by
  refine ⟨fun room => ?_, ?_⟩
  · rw [readWithin_eq_readWith]
    apply readWith_congr
    intro runs hruns
    exact (course_pairs fun r hr => (hruns r hr).1).2
  · rintro label runs rfl
    have hfresh : ∀ r ∈ textRuns ⟨settings, loc, label⟩ cs, r.IsFresh := isFresh_of_mem_scanFrom none none cs
    have hcourse := (course_pairs hfresh).1
    refine ⟨hcourse.pairwise_closer, fun made rest j closer h hcloser hmark hclose i bond => ?_⟩
    rw [h.all] at hcourse
    have hmoment := hcourse.split (Nat.zero_le j) h.behind h.ahead
    rw [List.nil_append] at hmoment
    rw [hmoment.head?_eq_some_iff rfl]
    exact isNext_tilde_iff hcloser hmark hclose

/-- A pair of stars has cut off the second tilde run, and the first has been used in part, so that the
last is paired with the first. -/
theorem partlyStruck_nearest :
    let runs := textRuns ⟨{}, ⟨1, 1, none, none⟩, none⟩ "~~~~a *b ~~c* d~~ e~~".toList
    let made : List Pair := [⟨1, 3, .emphasis⟩, ⟨0, 4, .strikethrough⟩]
    let closer : Run := ⟨'~', 2, false, true, 2, [], 0⟩
    Moment runs made [⟨0, 5, .strikethrough⟩] 5 ∧ runAt? runs made 5 = some closer ∧
      closer.mark = '~' ∧ closer.canClose ∧ IsGreatest {k | Usable runs made 5 k} 0 ∧
      (∀ k, Short runs made 5 k → k < 0) := by
  intro runs made closer
  have hall : pairs runs = made ++ [⟨0, 5, .strikethrough⟩] := by decide +kernel
  have hmoment : Moment runs made [⟨0, 5, .strikethrough⟩] 5 := ⟨hall, by decide, by decide⟩
  have hcloser : runAt? runs made 5 = some closer := by decide +kernel
  obtain ⟨-, hrule⟩ := strikes_nearest {} ⟨1, 1, none, none⟩ "~~~~a *b ~~c* d~~ e~~".toList
  have hstruck := ((hrule none runs rfl).2 _ _ 5 closer hmoment hcloser rfl rfl 0 .strikethrough).1 rfl
  exact ⟨hmoment, hcloser, rfl, rfl, hstruck.2.2⟩

/-- A run with a single tilde keeps the runs around it from being paired. -/
theorem shorter_run_prevents_pair :
    let runs := textRuns ⟨{}, ⟨1, 1, none, none⟩, none⟩ "~~a ~b~~".toList
    Moment runs [] [] 2 ∧ runAt? runs [] 2 = some ⟨'~', 2, false, true, 2, [], 0⟩ ∧
      IsGreatest {k | Usable runs [] 2 k} 0 ∧
      read {} ⟨1, 1, none, none⟩ "~~a ~b~~".toList =
        [.leaf ⟨1, 1, none, none⟩ (.text "~~a ~b~~")] := by
  intro runs
  have hfirst : runAt? runs [] 0 = some ⟨'~', 2, true, false, 2, [], 0⟩ := by decide +kernel
  have hsecond : runAt? runs [] 1 = some ⟨'~', 1, true, false, 1, [], 0⟩ := by decide +kernel
  refine ⟨⟨by decide +kernel, by decide, by decide⟩, by decide +kernel, ⟨?_, ?_⟩, by decide +kernel⟩
  · exact ⟨_, ⟨by decide, hfirst, rfl, by decide, List.forall_mem_nil _⟩, rfl, by decide⟩
  · rintro k ⟨run, hwaiting, _, hleft⟩
    have hbefore := hwaiting.before
    obtain rfl | rfl : k = 0 ∨ k = 1 := by omega
    · exact Nat.le_refl 0
    · have hfound := hwaiting.found
      rw [hsecond] at hfound
      cases hfound
      contradiction

end MarkdownOutline.Inline
