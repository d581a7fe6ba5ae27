import MarkdownOutline.Proofs.Inline.Runs

namespace MarkdownOutline.Inline

def Part.textLength : Part → Nat
  | text cs => cs.length
  | node n => n.plainText.length

def Piece.textLength : Piece → Nat
  | text cs => cs.length
  | node n => n.plainText.length
  | run _ => 0

def Part.textLengths (parts : List Part) : Nat := (parts.map textLength).sum

def Piece.textLengths (pieces : List Piece) : Nat := (pieces.map textLength).sum

@[simp] theorem Part.textLengths_nil : textLengths [] = 0 := rfl

@[simp] theorem Part.textLengths_cons (part : Part) (parts : List Part) :
    textLengths (part :: parts) = part.textLength + textLengths parts := List.sum_cons

@[simp] theorem Piece.textLengths_nil : textLengths [] = 0 := rfl

@[simp] theorem Piece.textLengths_cons (piece : Piece) (pieces : List Piece) :
    textLengths (piece :: pieces) = piece.textLength + textLengths pieces := List.sum_cons

@[simp] theorem Piece.textLengths_append (pieces more : List Piece) :
    textLengths (pieces ++ more) = textLengths pieces + textLengths more := by
  rw [textLengths, List.map_append, List.sum_append]
  rfl

theorem Part.textLengths_reverse (parts : List Part) : textLengths parts.reverse = textLengths parts := by
  rw [textLengths, List.map_reverse, List.sum_reverse]
  rfl

theorem textLengths_joinTexts (parts : List Part) : Part.textLengths (joinTexts parts) = Part.textLengths parts := by
  induction parts with
  | nil => rfl
  | cons part parts ih =>
      cases part with
      | node n => simp [joinTexts, ih]
      | text cs =>
          rw [joinTexts, Part.textLengths_cons, ← ih]
          split
          · simp [Part.textLength, Nat.add_assoc, *]
          · rfl

theorem length_plainText_toNode (loc : Location) (part : Part) : (part.toNode loc).plainText.length = part.textLength := by
  cases part with
  | text cs => exact String.length_ofList
  | node n => rfl

theorem length_plainTexts_nodes (loc : Location) (parts : List Part) :
    (plainTexts (nodes loc parts)).length = Part.textLengths parts := by
  rw [← textLengths_joinTexts, nodes]
  induction joinTexts parts with
  | nil => rfl
  | cons part parts ih =>
      rw [List.map_cons, plainTexts_cons, String.length_append, ih, length_plainText_toNode, Part.textLengths_cons]

def leftovers (runs : List Run) : Nat := (runs.map Run.left).sum

def Nest.textLength (nest : Nest) : Nat :=
  Part.textLengths nest.base + (nest.bonds.map fun bond => Part.textLengths bond.2).sum

namespace Nest

theorem textLength_add (nest : Nest) (part : Part) : (nest.add part).textLength = nest.textLength + part.textLength := by
  rcases nest with ⟨base, _ | ⟨⟨bond, parts⟩, outer⟩⟩ <;> simp [add, textLength] <;> omega

theorem textLength_enterAll (nest : Nest) (bonds : List Bond) :
    (bonds.foldl enter nest).textLength = nest.textLength := by
  induction bonds generalizing nest with
  | nil => rfl
  | cons bond bonds ih =>
      rw [List.foldl_cons, ih]
      simp [enter, textLength]

theorem textLength_leave (loc : Location) (nest : Nest) : (nest.leave loc).textLength = nest.textLength := by
  rcases nest with ⟨base, _ | ⟨⟨bond, parts⟩, outer⟩⟩
  · rfl
  · rw [leave, textLength_add]
    have hbranch : (Part.node (.branch loc bond.branch (nodes loc parts.reverse))).textLength = Part.textLengths parts :=
      (length_plainTexts_nodes loc _).trans (Part.textLengths_reverse parts)
    rw [hbranch]
    simp [textLength]
    omega

theorem textLength_repeat_leave (loc : Location) (nest : Nest) (n : Nat) :
    (n.repeat (leave loc) nest).textLength = nest.textLength := by
  induction n with
  | zero => rfl
  | succ n ih => exact (textLength_leave loc _).trans ih

theorem textLength_addRun (loc : Location) (nest : Nest) (run : Run) :
    (nest.addRun loc run).textLength = nest.textLength + run.left := by
  rw [addRun, textLength_enterAll]
  split
  · rw [textLength_repeat_leave, ‹run.left = 0›, Nat.add_zero]
  · rw [textLength_add, textLength_repeat_leave, Part.textLength, List.length_replicate]

theorem textLength_addPieces (loc : Location) (nest : Nest) (pieces : List Piece) :
    (pieces.foldl (addPiece loc) nest).textLength =
      nest.textLength + (Piece.textLengths pieces + leftovers (pieces.filterMap Piece.run?)) := by
  induction pieces generalizing nest with
  | nil => rfl
  | cons piece pieces ih =>
      rw [List.foldl_cons, ih]
      cases piece with
      | text cs =>
          rw [List.filterMap_cons_none rfl]
          simp [addPiece, textLength_add, Piece.textLength, Part.textLength, Nat.add_assoc]
      | node n =>
          rw [List.filterMap_cons_none rfl]
          simp [addPiece, textLength_add, Piece.textLength, Part.textLength, Nat.add_assoc]
      | run run =>
          rw [filterMap_run?_cons]
          simp [addPiece, textLength_addRun, Piece.textLength, leftovers]
          omega

end Nest

theorem textLengths_withRuns (pieces : List Piece) (runs : List Run) :
    Piece.textLengths (withRuns pieces runs) = Piece.textLengths pieces := by
  fun_induction withRuns pieces runs with
  | case1 => rfl
  | case2 r pieces run runs ih => simp [Piece.textLength, ih]
  | case3 runs piece pieces _ ih => simp [ih]

/-- The text of the nodes is the text of the pieces and what the pairing leaves over. -/
theorem length_plainTexts_assemble (loc : Location) {pieces : List Piece}
    (h : ∀ r ∈ pieces.filterMap Piece.run?, r.IsFresh) :
    (plainTexts (assemble loc pieces)).length =
      Piece.textLengths pieces + leftovers (pairRuns (pieces.filterMap Piece.run?)) := by
  have hcount : (pairRuns (pieces.filterMap Piece.run?)).length = (pieces.filterMap Piece.run?).length := by
    simpa using congrArg List.length (nested_pairRuns h).2
  have hruns := filterMap_withRuns hcount
  have hlength := Nest.textLength_addPieces loc {} (withRuns pieces (pairRuns (pieces.filterMap Piece.run?)))
  rw [hruns, textLengths_withRuns] at hlength
  rw [assemble, length_plainTexts_nodes, Part.textLengths_reverse]
  have hclosed := (foldlM_paired loc h).2
  rw [Nest.textLength, hclosed] at hlength
  simpa [Nest.textLength] using hlength

structure Outgrown (k : Nat) (pieces pieces' : List Piece) : Prop where
  runs : pieces.filterMap Piece.run? = pieces'.filterMap Piece.run?
  lengths : Piece.textLengths pieces + k ≤ Piece.textLengths pieces'

theorem Outgrown.append_left {k : Nat} {pieces pieces' : List Piece} (h : Outgrown k pieces pieces')
    (front : List Piece) : Outgrown k (front ++ pieces) (front ++ pieces') where
  runs := by rw [List.filterMap_append, List.filterMap_append, h.runs]
  lengths := by
    have := h.lengths
    rw [Piece.textLengths_append, Piece.textLengths_append]
    omega

theorem Outgrown.length_le {k : Nat} {pieces pieces' : List Piece} (h : Outgrown k pieces pieces') (loc : Location)
    (hfresh : ∀ r ∈ pieces.filterMap Piece.run?, r.IsFresh) :
    (plainTexts (assemble loc pieces)).length + k ≤ (plainTexts (assemble loc pieces')).length := by
  have := h.lengths
  rw [length_plainTexts_assemble loc hfresh, length_plainTexts_assemble loc (h.runs ▸ hfresh), h.runs]
  omega

end MarkdownOutline.Inline
