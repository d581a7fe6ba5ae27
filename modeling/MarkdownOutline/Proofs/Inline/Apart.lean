import MarkdownOutline.Proofs.Inline.Literal
import MarkdownOutline.Proofs.Inline.Runs

namespace MarkdownOutline.Inline

inductive OneApart {α : Type} (R : α → α → Prop) : List α → List α → Prop
  | here {a a' : α} (h : R a a') (rest : List α) : OneApart R (a :: rest) (a' :: rest)
  | next (a : α) {l l' : List α} (h : OneApart R l l') : OneApart R (a :: l) (a :: l')

namespace OneApart

variable {α : Type} {R : α → α → Prop} {l l' : List α}

theorem append_left (h : OneApart R l l') (front : List α) : OneApart R (front ++ l) (front ++ l') := by
  induction front with
  | nil => exact h
  | cons a front ih => exact ih.next a

theorem append_right (h : OneApart R l l') (behind : List α) : OneApart R (l ++ behind) (l' ++ behind) := by
  induction h with
  | here h rest => exact .here h (rest ++ behind)
  | next a h ih => exact ih.next a

theorem reverse (h : OneApart R l l') : OneApart R l.reverse l'.reverse := by
  induction h with
  | here h rest =>
      rw [List.reverse_cons, List.reverse_cons]
      exact (OneApart.here h []).append_left rest.reverse
  | next a h ih =>
      rw [List.reverse_cons, List.reverse_cons]
      exact ih.append_right [a]

end OneApart

/-- The same trees with the same text, but that `w` stands in one text, or in the alternative text of one
image, where the others have `w'`. -/
inductive NodesApart (w w' : List Char) : List Node → List Node → Prop
  | text (loc : Location) (pre post : List Char) (rest : List Node) :
      NodesApart w w' (.leaf loc (.text (.ofList (pre ++ (w ++ post)))) :: rest)
        (.leaf loc (.text (.ofList (pre ++ (w' ++ post)))) :: rest)
  | image (loc : Location) (url : String) (pre post : List Char) (title : Option String) (rest : List Node) :
      NodesApart w w' (.leaf loc (.image url (.ofList (pre ++ (w ++ post))) title) :: rest)
        (.leaf loc (.image url (.ofList (pre ++ (w' ++ post))) title) :: rest)
  | branch (loc : Location) (shape : Branch) {children children' : List Node} (h : NodesApart w w' children children')
      (rest : List Node) : NodesApart w w' (.branch loc shape children :: rest) (.branch loc shape children' :: rest)
  | next (node : Node) {rest rest' : List Node} (h : NodesApart w w' rest rest') :
      NodesApart w w' (node :: rest) (node :: rest')

section

variable {w w' : List Char}

def TextApart (w w' : List Char) (text text' : String) : Prop :=
  ∃ pre post, text = .ofList (pre ++ (w ++ post)) ∧ text' = .ofList (pre ++ (w' ++ post))

theorem TextApart.append {text text' : String} (h : TextApart w w' text text') (more : String) :
    TextApart w w' (text ++ more) (text' ++ more) := by
  obtain ⟨pre, post, rfl, rfl⟩ := h
  refine ⟨pre, post ++ more.toList, ?_, ?_⟩ <;> simp [String.ext_iff]

theorem TextApart.append_left {text text' : String} (h : TextApart w w' text text') (more : String) :
    TextApart w w' (more ++ text) (more ++ text') := by
  obtain ⟨pre, post, rfl, rfl⟩ := h
  refine ⟨more.toList ++ pre, post, ?_, ?_⟩ <;> simp

theorem TextApart.length_eq {text text' : String} (h : TextApart w w' text text') :
    text.length + w'.length = text'.length + w.length := by
  obtain ⟨pre, post, rfl, rfl⟩ := h
  simp only [String.length_ofList, List.length_append]
  omega

theorem NodesApart.plainTexts {ns ns' : List Node} (h : NodesApart w w' ns ns') :
    TextApart w w' (plainTexts ns) (plainTexts ns') := by
  induction h with
  | text loc pre post rest => exact TextApart.append ⟨pre, post, rfl, rfl⟩ _
  | image loc url pre post title rest => exact TextApart.append ⟨pre, post, rfl, rfl⟩ _
  | branch loc shape h rest ih => exact ih.append _
  | next node h ih => exact ih.append_left _

theorem NodesApart.kinds {ns ns' : List Node} (h : NodesApart w w' ns ns') : ns.map Node.kind = ns'.map Node.kind := by
  induction h with
  | text | image | branch => rfl
  | next node h ih => exact congrArg (node.kind :: ·) ih

inductive PartApart (w w' : List Char) : Part → Part → Prop
  | text (pre post : List Char) : PartApart w w' (.text (pre ++ (w ++ post))) (.text (pre ++ (w' ++ post)))
  | node {n n' : Node} (h : ∀ rest, NodesApart w w' (n :: rest) (n' :: rest)) : PartApart w w' (.node n) (.node n')

theorem PartApart.toNode {part part' : Part} (h : PartApart w w' part part') (loc : Location) (rest : List Node) :
    NodesApart w w' (part.toNode loc :: rest) (part'.toNode loc :: rest) := by
  cases h with
  | text pre post => exact .text loc pre post rest
  | node h => exact h rest

def prependText (cs : List Char) : List Part → List Part
  | .text more :: rest => .text (cs ++ more) :: rest
  | rest => .text cs :: rest

theorem joinTexts_text (cs : List Char) (parts : List Part) :
    joinTexts (.text cs :: parts) = prependText cs (joinTexts parts) := by
  rw [joinTexts]
  split <;> simp_all [prependText]

theorem OneApart.prependText {parts parts' : List Part} (h : OneApart (PartApart w w') parts parts')
    (cs : List Char) : OneApart (PartApart w w') (prependText cs parts) (prependText cs parts') := by
  cases h with
  | here h rest =>
      cases h with
      | text pre post =>
          have hword := OneApart.here (@PartApart.text w w' (cs ++ pre) post) rest
          rwa [List.append_assoc, List.append_assoc] at hword
      | node h => exact (OneApart.here (PartApart.node h) rest).next (.text cs)
  | next part h =>
      cases part with
      | text more => exact h.next (.text (cs ++ more))
      | node n => exact (h.next (.node n)).next (.text cs)

theorem oneApart_prependText (pre post : List Char) (parts : List Part) :
    OneApart (PartApart w w') (prependText (pre ++ (w ++ post)) parts) (prependText (pre ++ (w' ++ post)) parts) := by
  have hword (post : List Char) := @PartApart.text w w' pre post
  cases parts with
  | nil => exact .here (hword post) []
  | cons part rest =>
      cases part with
      | text more =>
          have hmore := OneApart.here (hword (post ++ more)) rest
          simp only [← List.append_assoc] at hmore ⊢
          exact hmore
      | node n => exact .here (hword post) (.node n :: rest)

theorem OneApart.joinTexts {parts parts' : List Part} (h : OneApart (PartApart w w') parts parts') :
    OneApart (PartApart w w') (joinTexts parts) (joinTexts parts') := by
  induction h with
  | here h rest =>
      cases h with
      | text pre post =>
          rw [joinTexts_text, joinTexts_text]
          exact oneApart_prependText pre post _
      | node h => exact .here (.node h) _
  | next part h ih =>
      cases part with
      | text cs =>
          rw [joinTexts_text, joinTexts_text]
          exact ih.prependText cs
      | node n => exact ih.next (.node n)

theorem nodesApart_map (loc : Location) {parts parts' : List Part} (h : OneApart (PartApart w w') parts parts') :
    NodesApart w w' (parts.map fun part => part.toNode loc) (parts'.map fun part => part.toNode loc) := by
  induction h with
  | here h rest => exact h.toNode loc _
  | next part h ih => exact ih.next _

theorem nodesApart_nodes (loc : Location) {parts parts' : List Part} (h : OneApart (PartApart w w') parts parts') :
    NodesApart w w' (nodes loc parts) (nodes loc parts') := nodesApart_map loc h.joinTexts

inductive NestApart (w w' : List Char) : Nest → Nest → Prop
  | base {base base' : List Part} (h : OneApart (PartApart w w') base base') (bonds : List (Bond × List Part)) :
      NestApart w w' ⟨base, bonds⟩ ⟨base', bonds⟩
  | bonds (base : List Part) {bonds bonds' : List (Bond × List Part)}
      (h : OneApart (fun b b' => b.1 = b'.1 ∧ OneApart (PartApart w w') b.2 b'.2) bonds bonds') :
      NestApart w w' ⟨base, bonds⟩ ⟨base, bonds'⟩

theorem nestApart_add (nest : Nest) {part part' : Part} (h : PartApart w w' part part') :
    NestApart w w' (nest.add part) (nest.add part') := by
  rcases nest with ⟨base, _ | ⟨⟨bond, parts⟩, outer⟩⟩
  · exact .base (.here h base) []
  · exact .bonds base (.here ⟨rfl, .here h parts⟩ outer)

namespace NestApart

variable {nest nest' : Nest} (h : NestApart w w' nest nest')
include h

theorem add (part : Part) : NestApart w w' (nest.add part) (nest'.add part) := by
  cases h with
  | base h bonds =>
      rcases bonds with _ | ⟨⟨bond, parts⟩, outer⟩
      · exact .base (h.next part) []
      · exact .base h _
  | bonds base h =>
      cases h with
      | here h rest => exact .bonds base (.here ⟨h.1, h.2.next part⟩ rest)
      | next b h => exact .bonds base (h.next _)

theorem enter (bond : Bond) : NestApart w w' (nest.enter bond) (nest'.enter bond) := by
  cases h with
  | base h bonds => exact .base h _
  | bonds base h => exact .bonds base (h.next _)

theorem leave (loc : Location) : NestApart w w' (nest.leave loc) (nest'.leave loc) := by
  cases h with
  | base h bonds =>
      rcases bonds with _ | ⟨⟨bond, parts⟩, outer⟩
      · exact .base h []
      · exact (NestApart.base h outer).add _
  | bonds base h =>
      cases h with
      | @here b b' h rest =>
          obtain ⟨bond, parts⟩ := b
          obtain ⟨bond', parts'⟩ := b'
          obtain ⟨rfl, h⟩ := h
          exact nestApart_add ⟨base, rest⟩ (.node fun more => .branch loc bond.branch (nodesApart_nodes loc h.reverse) more)
      | next b h => exact (NestApart.bonds base h).add _

theorem repeatLeave (loc : Location) (n : Nat) :
    NestApart w w' (n.repeat (Nest.leave loc) nest) (n.repeat (Nest.leave loc) nest') := by
  induction n with
  | zero => exact h
  | succ n ih => exact ih.leave loc

theorem foldlEnter (bonds : List Bond) : NestApart w w' (bonds.foldl Nest.enter nest) (bonds.foldl Nest.enter nest') := by
  induction bonds generalizing nest nest' with
  | nil => exact h
  | cons bond bonds ih => exact ih (h.enter bond)

theorem addRun (loc : Location) (run : Run) : NestApart w w' (nest.addRun loc run) (nest'.addRun loc run) := by
  have hclosed := h.repeatLeave loc run.closes
  rw [Nest.addRun, Nest.addRun]
  refine foldlEnter ?_ run.opens
  split
  · exact hclosed
  · exact hclosed.add _

theorem addPiece (loc : Location) (piece : Piece) :
    NestApart w w' (nest.addPiece loc piece) (nest'.addPiece loc piece) := by
  cases piece with
  | text cs => exact h.add _
  | node n => exact h.add _
  | run run => exact h.addRun loc run

theorem addPieces (loc : Location) (pieces : List Piece) :
    NestApart w w' (pieces.foldl (Nest.addPiece loc) nest) (pieces.foldl (Nest.addPiece loc) nest') := by
  induction pieces generalizing nest nest' with
  | nil => exact h
  | cons piece pieces ih => exact ih (h.addPiece loc piece)

end NestApart

inductive PieceApart (w w' : List Char) : Piece → Piece → Prop
  | part {part part' : Part} (h : PartApart w w' part part') : PieceApart w w' part.toPiece part'.toPiece

theorem PieceApart.run?_eq {piece piece' : Piece} (h : PieceApart w w' piece piece') :
    piece.run? = none ∧ piece'.run? = none := by
  obtain ⟨h⟩ := h
  cases h <;> exact ⟨rfl, rfl⟩

variable {pieces pieces' : List Piece} (h : OneApart (PieceApart w w') pieces pieces')
include h

theorem OneApart.filterMap_run? : pieces.filterMap Piece.run? = pieces'.filterMap Piece.run? := by
  induction h with
  | here h rest =>
      obtain ⟨hrun, hrun'⟩ := h.run?_eq
      rw [List.filterMap_cons_none hrun, List.filterMap_cons_none hrun']
  | next piece h ih => rw [List.filterMap_cons, List.filterMap_cons, ih]

theorem OneApart.withRuns (runs : List Run) :
    OneApart (PieceApart w w') (withRuns pieces runs) (withRuns pieces' runs) := by
  induction h generalizing runs with
  | here h rest =>
      obtain ⟨hpart⟩ := h
      cases hpart with
      | text pre post => exact .here (.part (.text pre post)) (Inline.withRuns rest runs)
      | node h => exact .here (.part (.node h)) (Inline.withRuns rest runs)
  | next piece h ih =>
      cases piece with
      | text cs => exact (ih runs).next (.text cs)
      | node n => exact (ih runs).next (.node n)
      | run run =>
          cases runs with
          | nil => exact (ih []).next (.run run)
          | cons paired runs => exact (ih runs).next (.run paired)

omit h in
theorem addPiece_toPiece (loc : Location) (nest : Nest) (part : Part) :
    nest.addPiece loc part.toPiece = nest.add part := by
  cases part <;> rfl

theorem nestApart_foldl (loc : Location) (nest : Nest) :
    NestApart w w' (pieces.foldl (Nest.addPiece loc) nest) (pieces'.foldl (Nest.addPiece loc) nest) := by
  induction h generalizing nest with
  | here h rest =>
      obtain ⟨hpart⟩ := h
      have hadded := nestApart_add nest hpart
      rw [← addPiece_toPiece loc, ← addPiece_toPiece loc] at hadded
      exact hadded.addPieces loc rest
  | next piece h ih => exact ih _

omit h in
theorem NestApart.nodes {nest nest' : Nest} (h : NestApart w w' nest nest') (hclosed : nest.bonds = [])
    (loc : Location) : NodesApart w w' (nodes loc nest.base.reverse) (nodes loc nest'.base.reverse) := by
  cases h with
  | base h bonds => exact nodesApart_nodes loc h.reverse
  | bonds base h =>
      obtain rfl : _ = [] := hclosed
      cases h

/-- Delimiter runs pair alike around different words. -/
theorem nodesApart_assemble (loc : Location) (hfresh : ∀ r ∈ pieces.filterMap Piece.run?, r.IsFresh) :
    NodesApart w w' (assemble loc pieces) (assemble loc pieces') := by
  have hnest := nestApart_foldl (h.withRuns (pairRuns (pieces.filterMap Piece.run?))) loc {}
  rw [assemble, assemble, ← h.filterMap_run?]
  exact hnest.nodes (foldlM_paired loc hfresh).2 loc

end

end MarkdownOutline.Inline
