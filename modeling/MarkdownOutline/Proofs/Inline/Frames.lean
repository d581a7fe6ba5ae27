import MarkdownOutline.Proofs.Inline.Nesting
import MarkdownOutline.Proofs.Inline.Nodes

namespace MarkdownOutline.Inline

section

variable (loc : Location)

namespace Nest

def leave? (nest : Nest) : Option Nest :=
  if nest.bonds.isEmpty then none else some (nest.leave loc)

def leaveTimes? : Nat → Nest → Option Nest
  | 0, nest => some nest
  | n + 1, nest => do leaveTimes? n (← nest.leave? loc)

def addRun? (nest : Nest) (run : Run) : Option Nest := do
  let nest ← leaveTimes? loc run.closes nest
  let nest := if run.left = 0 then nest else nest.add (.text (List.replicate run.left run.mark))
  return run.opens.foldl enter nest

def addPiece? (nest : Nest) : Piece → Option Nest
  | .run run => nest.addRun? loc run
  | piece => some (nest.addPiece loc piece)

end Nest

/-- Nodes put together from pieces, unless a bond is left that is not open or stays open at the
end. -/
def assemble? (pieces : List Piece) : Option (List Node) := do
  let paired := withRuns pieces (pairRuns (pieces.filterMap Piece.run?))
  let nest ← paired.foldlM (Nest.addPiece? loc) {}
  if nest.bonds.isEmpty then some (nodes loc nest.base.reverse) else none

end

namespace Nest

variable {loc : Location} (nest : Nest)

@[simp] theorem length_bonds_add (part : Part) : (nest.add part).bonds.length = nest.bonds.length := by
  rw [add]
  split <;> simp_all

@[simp] theorem length_bonds_enter (bond : Bond) :
    (nest.enter bond).bonds.length = nest.bonds.length + 1 := rfl

@[simp] theorem length_bonds_leave : (nest.leave loc).bonds.length = nest.bonds.length - 1 := by
  rw [leave]
  split <;> simp_all

theorem length_bonds_enterAll (bonds : List Bond) :
    (bonds.foldl enter nest).bonds.length = bonds.length + nest.bonds.length := by
  induction bonds generalizing nest with
  | nil => simp
  | cons bond bonds ih => rw [List.foldl_cons, ih, length_bonds_enter, List.length_cons]; omega

theorem repeat_leave_succ (n : Nat) :
    (n + 1).repeat (leave loc) nest = n.repeat (leave loc) (nest.leave loc) := by
  induction n with
  | zero => rfl
  | succ n ih => exact congrArg (leave loc) ih

theorem leaveTimes?_eq {n : Nat} (h : n ≤ nest.bonds.length) :
    leaveTimes? loc n nest = some (n.repeat (leave loc) nest) := by
  induction n generalizing nest with
  | zero => rfl
  | succ n ih =>
      have hopen : nest.bonds.isEmpty = false := by
        rw [List.isEmpty_eq_false_iff, ← List.length_pos_iff]
        omega
      rw [leaveTimes?, leave?, hopen, repeat_leave_succ]
      exact ih _ (by rw [length_bonds_leave]; omega)

theorem length_bonds_repeat_leave (n : Nat) :
    (n.repeat (leave loc) nest).bonds.length = nest.bonds.length - n := by
  induction n with
  | zero => rfl
  | succ n ih =>
      rw [Nat.repeat, length_bonds_leave, ih]
      omega

theorem addRun?_eq {run : Run} (h : run.closes ≤ nest.bonds.length) :
    nest.addRun? loc run = some (nest.addRun loc run) := by
  rw [addRun?, leaveTimes?_eq nest h]
  rfl

theorem length_bonds_addRun (run : Run) : (nest.addRun loc run).bonds.length =
    run.opens.length + (nest.bonds.length - run.closes) := by
  rw [addRun, length_bonds_enterAll]
  split
  · rw [length_bonds_repeat_leave]
  · rw [length_bonds_add, length_bonds_repeat_leave]

end Nest

theorem filterMap_run?_cons (run : Run) (pieces : List Piece) :
    (Piece.run run :: pieces).filterMap Piece.run? = run :: pieces.filterMap Piece.run? := rfl

/-- As many bonds are open as the chain of runs says. -/
theorem foldlM_addPiece?_eq (loc : Location) {pieces : List Piece} {stack stack' : List Opening}
    (h : Nested stack (pieces.filterMap Piece.run?) stack') {nest : Nest}
    (hnest : nest.bonds.length = stack.length) :
    pieces.foldlM (Nest.addPiece? loc) nest = some (pieces.foldl (Nest.addPiece loc) nest) ∧
      (pieces.foldl (Nest.addPiece loc) nest).bonds.length = stack'.length := by
  induction pieces generalizing nest stack with
  | nil =>
      cases h
      exact ⟨rfl, hnest⟩
  | cons piece pieces ih =>
      rw [List.foldlM_cons, List.foldl_cons]
      cases piece with
      | text cs => exact ih h (by rw [Nest.addPiece, Nest.length_bonds_add, hnest])
      | node n => exact ih h (by rw [Nest.addPiece, Nest.length_bonds_add, hnest])
      | run run =>
          rw [filterMap_run?_cons] at h
          cases h with
          | @cons _ _ inner outer _ hrun h =>
              rw [List.length_append, hrun.count] at hnest
              rw [Nest.addPiece?, Nest.addRun?_eq nest (by omega)]
              have hadded : (nest.addRun loc run).bonds.length = (run.openings ++ outer).length := by
                rw [Nest.length_bonds_addRun, hnest]
                simp [Run.openings]
              exact ih h hadded

theorem filterMap_withRuns {pieces : List Piece} {runs : List Run}
    (h : runs.length = (pieces.filterMap Piece.run?).length) :
    (withRuns pieces runs).filterMap Piece.run? = runs := by
  fun_induction withRuns pieces runs with
  | case1 => simpa [eq_comm] using h
  | case2 r pieces run runs ih =>
      rw [filterMap_run?_cons, List.length_cons, List.length_cons] at h
      rw [filterMap_run?_cons, ih (by omega)]
  | case3 piece pieces runs hpiece ih =>
      cases piece with
      | text cs => exact ih h
      | node n => exact ih h
      | run r =>
          cases runs with
          | nil => cases h
          | cons run runs => exact (hpiece r run runs rfl rfl).elim

theorem foldlM_paired (loc : Location) {pieces : List Piece}
    (h : ∀ r ∈ pieces.filterMap Piece.run?, r.IsFresh) :
    (withRuns pieces (pairRuns (pieces.filterMap Piece.run?))).foldlM (Nest.addPiece? loc) {} =
        some ((withRuns pieces (pairRuns (pieces.filterMap Piece.run?))).foldl (Nest.addPiece loc) {}) ∧
      ((withRuns pieces (pairRuns (pieces.filterMap Piece.run?))).foldl (Nest.addPiece loc) {}).bonds = [] := by
  obtain ⟨hnested, hextents⟩ := nested_pairRuns h
  have hlength : (pairRuns (pieces.filterMap Piece.run?)).length = (pieces.filterMap Piece.run?).length := by
    simpa using congrArg List.length hextents
  rw [← filterMap_withRuns hlength] at hnested
  have hempty : ({} : Nest).bonds.length = ([] : List Opening).length := rfl
  obtain ⟨hfold, hclosed⟩ := foldlM_addPiece?_eq loc hnested hempty
  exact ⟨hfold, List.length_eq_zero_iff.1 hclosed⟩

theorem assemble?_eq_some (loc : Location) {pieces : List Piece}
    (h : ∀ r ∈ pieces.filterMap Piece.run?, r.IsFresh) :
    assemble? loc pieces = some (assemble loc pieces) := by
  obtain ⟨hfold, hclosed⟩ := foldlM_paired loc h
  rw [assemble?, assemble, hfold, Option.bind_eq_bind, Option.bind_some, if_pos (List.isEmpty_iff.2 hclosed)]

end MarkdownOutline.Inline
