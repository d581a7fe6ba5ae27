import MarkdownOutline.Proofs.Inline.Runs

namespace MarkdownOutline.Inline

def Part.map (f : Node → Node) : Part → Part
  | text cs => text cs
  | node n => node (f n)

def Piece.map (f : Node → Node) : Piece → Piece
  | text cs => text cs
  | node n => node (f n)
  | run r => run r

def Nest.map (f : Node → Node) (nest : Nest) : Nest where
  base := nest.base.map (Part.map f)
  bonds := nest.bonds.map fun b => (b.1, b.2.map (Part.map f))

/-- A map of nodes that nesting does not see: it keeps texts, and what a bond encloses it maps inside. -/
structure Maps (loc : Location) (f : Node → Node) : Prop where
  text : ∀ content : String, f (.leaf loc (.text content)) = .leaf loc (.text content)
  bond : ∀ (bond : Bond) (children : List Node),
    f (.branch loc bond.branch children) = .branch loc bond.branch (children.map f)

section

variable (f : Node → Node)

theorem joinTexts_map (parts : List Part) :
    joinTexts (parts.map (Part.map f)) = (joinTexts parts).map (Part.map f) := by
  induction parts with
  | nil => rfl
  | cons part parts ih =>
      cases part with
      | text cs =>
          rw [List.map_cons, Part.map, joinTexts, joinTexts, ih]
          rcases joinTexts parts with _ | ⟨_ | _, rest⟩ <;> rfl
      | node n => exact congrArg (_ :: ·) ih

theorem withRuns_map (pieces : List Piece) (runs : List Run) :
    withRuns (pieces.map (Piece.map f)) runs = (withRuns pieces runs).map (Piece.map f) := by
  induction pieces generalizing runs with
  | nil => rfl
  | cons piece pieces ih =>
      cases piece with
      | run r =>
          cases runs with
          | nil => exact congrArg (_ :: ·) (ih [])
          | cons run runs => exact congrArg (_ :: ·) (ih runs)
      | text cs => exact congrArg (_ :: ·) (ih runs)
      | node n => exact congrArg (_ :: ·) (ih runs)

theorem filterMap_run?_map (pieces : List Piece) :
    (pieces.map (Piece.map f)).filterMap Piece.run? = pieces.filterMap Piece.run? := by
  rw [List.filterMap_map]
  congr 1
  funext piece
  cases piece <;> rfl

theorem Nest.map_add (nest : Nest) (part : Part) : (nest.add part).map f = (nest.map f).add (part.map f) := by
  rcases nest with ⟨base, _ | ⟨⟨bond, parts⟩, outer⟩⟩ <;> rfl

theorem Nest.map_foldlEnter (nest : Nest) (bonds : List Bond) :
    (bonds.foldl Nest.enter nest).map f = bonds.foldl Nest.enter (nest.map f) := by
  induction bonds generalizing nest with
  | nil => rfl
  | cons bond bonds ih => exact ih _

end

section

variable {loc : Location} {f : Node → Node} (hf : Maps loc f)
include hf

theorem nodes_map (parts : List Part) : nodes loc (parts.map (Part.map f)) = (nodes loc parts).map f := by
  rw [nodes, nodes, joinTexts_map, List.map_map, List.map_map]
  refine List.map_congr_left fun part _ => ?_
  cases part with
  | text cs => exact (hf.text _).symm
  | node n => rfl

theorem Nest.map_leave (nest : Nest) : (nest.leave loc).map f = (nest.map f).leave loc := by
  rcases nest with ⟨base, _ | ⟨⟨bond, parts⟩, outer⟩⟩
  · rfl
  · have hnodes := nodes_map hf parts.reverse
    rw [List.map_reverse] at hnodes
    have hbond : (Part.node (.branch loc bond.branch (nodes loc parts.reverse))).map f =
        .node (.branch loc bond.branch (nodes loc (parts.map (Part.map f)).reverse)) := by
      rw [Part.map, hf.bond, hnodes]
    exact (Nest.map_add f ⟨base, outer⟩ _).trans (congrArg _ hbond)

theorem Nest.map_repeatLeave (nest : Nest) (n : Nat) :
    (n.repeat (Nest.leave loc) nest).map f = n.repeat (Nest.leave loc) (nest.map f) := by
  induction n with
  | zero => rfl
  | succ n ih => rw [Nat.repeat, Nest.map_leave hf, ih, Nat.repeat]

theorem Nest.map_addPiece (nest : Nest) (piece : Piece) :
    (nest.addPiece loc piece).map f = (nest.map f).addPiece loc (piece.map f) := by
  cases piece with
  | text cs => exact Nest.map_add f nest _
  | node n => exact Nest.map_add f nest _
  | run run =>
      have hclosed := Nest.map_repeatLeave hf nest run.closes
      change (nest.addRun loc run).map f = (nest.map f).addRun loc run
      simp only [Nest.addRun, Nest.map_foldlEnter, ← hclosed]
      split
      · rfl
      · rw [Nest.map_add]
        rfl

theorem Nest.map_addPieces (nest : Nest) (pieces : List Piece) :
    (pieces.foldl (Nest.addPiece loc) nest).map f =
      (pieces.map (Piece.map f)).foldl (Nest.addPiece loc) (nest.map f) := by
  induction pieces generalizing nest with
  | nil => rfl
  | cons piece pieces ih => rw [List.foldl_cons, ih, Nest.map_addPiece hf, List.map_cons, List.foldl_cons]

theorem assemble_map (pieces : List Piece) :
    assemble loc (pieces.map (Piece.map f)) = (assemble loc pieces).map f := by
  have hnest := Nest.map_addPieces hf {} (withRuns pieces (pairRuns (pieces.filterMap Piece.run?)))
  simp only [assemble, filterMap_run?_map, withRuns_map]
  rw [← nodes_map hf, List.map_reverse]
  exact congrArg (fun nest : Nest => nodes loc nest.base.reverse) hnest.symm

end

def Found.map (f : Node → Node) : Found → Found
  | piece p => piece (p.map f)
  | text cs => text cs
  | newline => newline

def Step.map (f : Node → Node) (s : Step) : Step := ⟨s.found.map f, s.taken⟩

structure Replaces (f : Node → Node) (loc : Location) (read read' : List Char → List Node) : Prop where
  link : ∀ (url : String) (title : Option String) (cs : List Char),
    f (.branch loc (.link url title) (read cs)) = .branch loc (.link url title) (read' cs)
  image : ∀ cs : List Char, plainTexts (read cs) = plainTexts (read' cs)

/-- A map that replaces the labels of a scan and keeps all else that it reads. -/
structure Relabels (f : Node → Node) (loc : Location) (a b : Option (List Char → List Node)) : Prop where
  leaf : ∀ content : Leaf, f (.leaf loc content) = .leaf loc content
  autolink : ∀ url text : String, f (.branch loc (.link url none) [.leaf loc (.text text)]) =
    .branch loc (.link url none) [.leaf loc (.text text)]
  label : Option.Rel (Replaces f loc) a b

section

variable {f : Node → Node}

theorem Found.map_of_holds {found : Found} (h : found.Holds fun n => f n = n) : found.map f = found := by
  rcases found with _ | ⟨_ | n | _⟩ | _
  case piece.node => exact congrArg (fun n => Found.piece (.node n)) h
  all_goals rfl

theorem map_flush (pending : Option (List Char)) : (flush pending).map (Piece.map f) = flush pending := by
  cases pending <;> rfl

variable {settings : Settings} {loc : Location} {a b : Option (List Char → List Node)} (hf : Relabels f loc a b)
include hf

theorem Relabels.scans : Scans ⟨settings, loc, none⟩ (fun _ => True) fun n => f n = n where
  leaf content _ _ := hf.leaf content
  autolink _ url text _ := hf.autolink url text
  link _ hlabel := by cases hlabel

theorem readLink?_relabel (rest : List Char) :
    readLink? ⟨settings, loc, a⟩ rest = none ∧ readLink? ⟨settings, loc, b⟩ rest = none ∨
      ∃ read read' reference taken, Replaces f loc read read' ∧
        readLink? ⟨settings, loc, a⟩ rest = some (reference, read reference.label, taken) ∧
        readLink? ⟨settings, loc, b⟩ rest = some (reference, read' reference.label, taken) := by
  cases hf.label with
  | none => exact .inl ⟨rfl, rfl⟩
  | @some read read' h =>
      cases hlink : link? rest with
      | none => exact .inl ⟨by simp [readLink?, hlink], by simp [readLink?, hlink]⟩
      | some found =>
          refine .inr ⟨read, read', found.1, found.2, h, ?_, ?_⟩
          · exact readLink?_eq_some_iff.2 ⟨read, rfl, hlink, rfl⟩
          · exact readLink?_eq_some_iff.2 ⟨read', rfl, hlink, rfl⟩

theorem linkStep_relabel (rest : List Char) :
    linkStep ⟨settings, loc, b⟩ rest = (linkStep ⟨settings, loc, a⟩ rest).map f := by
  rw [linkStep, linkStep]
  obtain ⟨hread, hread'⟩ | ⟨read, read', reference, taken, h, hread, hread'⟩ := readLink?_relabel hf rest
  · rw [hread, hread']
    rfl
  · rw [hread, hread']
    simp only [Step.map, Found.map, Piece.map, h.link]

theorem imageStep_relabel (rest : List Char) :
    imageStep ⟨settings, loc, b⟩ rest = (imageStep ⟨settings, loc, a⟩ rest).map f := by
  rw [imageStep, imageStep]
  obtain ⟨hread, hread'⟩ | ⟨read, read', reference, taken, h, hread, hread'⟩ := readLink?_relabel hf rest.tail
  · rw [hread, hread']
    rfl
  · rw [hread, hread']
    simp only [h.image, leafStep, Step.map, Found.map, Piece.map, hf.leaf]

theorem step_relabel (before : Option Char) (c : Char) (rest : List Char) :
    step ⟨settings, loc, b⟩ before c rest = (step ⟨settings, loc, a⟩ before c rest).map f := by
  by_cases himage : c = '!' ∧ rest.head? = some '['
  · obtain ⟨rfl, hhead⟩ := himage
    obtain ⟨rest, rfl⟩ := List.head?_eq_some_iff.1 hhead
    exact imageStep_relabel hf ('[' :: rest)
  by_cases hlink : c = '['
  · subst hlink
    exact linkStep_relabel hf rest
  -- All else is read as it would be without labels.
  have hnone (readers : Option (List Char → List Node)) :
      step ⟨settings, loc, readers⟩ before c rest = step ⟨settings, loc, none⟩ before c rest :=
    step_congr_label (fun h => absurd h hlink) (fun h => absurd (by simpa using h) himage) before
  have hkept : (step ⟨settings, loc, none⟩ before c rest).found.Holds fun n => f n = n :=
    step_holds hf.scans trivial before c fun _ _ => trivial
  rw [hnone a, hnone b, Step.map, Found.map_of_holds hkept]

theorem map_newlinePieces (pending : Option (List Char)) :
    (newlinePieces ⟨settings, loc, a⟩ pending).map (Piece.map f) =
      newlinePieces ⟨settings, loc, b⟩ pending := by
  simp only [newlinePieces, List.map_append, map_flush, List.map_singleton, Piece.map, hf.leaf]

theorem scanFrom_relabel (before : Option Char) (pending : Option (List Char)) (cs : List Char) :
    scanFrom ⟨settings, loc, b⟩ before pending cs =
      (scanFrom ⟨settings, loc, a⟩ before pending cs).map (Piece.map f) := by
  have hstep := @step_relabel f settings loc a b hf
  fun_induction scanFrom ⟨settings, loc, a⟩ before pending cs with
  | case1 before pending => rw [scanFrom, map_flush]
  | case2 before pending c rest s last text hfound ih =>
      have htext : step ⟨settings, loc, b⟩ before c rest = ⟨.text text, s.taken⟩ := by
        rw [hstep before c rest, Step.map, hfound, Found.map]
      rw [scanFrom_of_text _ htext]
      exact ih
  | case3 before pending c rest s last piece hfound ih =>
      have hpiece : step ⟨settings, loc, b⟩ before c rest = ⟨.piece (piece.map f), s.taken⟩ := by
        rw [hstep before c rest, Step.map, hfound, Found.map]
      rw [scanFrom_of_piece _ hpiece, List.map_append, map_flush, List.map_cons, ← ih]
  | case4 before pending c rest s last hfound ih =>
      have hnewline : step ⟨settings, loc, b⟩ before c rest = ⟨.newline, s.taken⟩ := by
        rw [hstep before c rest, Step.map, hfound, Found.map]
      rw [scanFrom_of_newline _ hnewline, List.map_append, map_newlinePieces hf, ← ih]

end

end MarkdownOutline.Inline
