import MarkdownOutline.Document.Walk

namespace MarkdownOutline

section

variable {m : Type → Type u} [Monad m] (visit : Visit → m Signal)

mutual

def descend (place : Place) : Node → m Outcome
  | .leaf loc content => do
    match ← visit ⟨place, .leaf loc content, true⟩ with
    | .stop => pure .stopped
    | _ => pure .completed
  | .branch loc shape children => do
    match ← visit ⟨place, .branch loc shape children, true⟩ with
    | .stop => pure .stopped
    | .skipChildren => pure .completed
    | .next =>
      match ← descendAll place 0 children with
      | .stopped => pure .stopped
      | .completed =>
        match ← visit ⟨place, .branch loc shape children, false⟩ with
        | .stop => pure .stopped
        | _ => pure .completed

def descendAll (place : Place) (index : Nat) : List Node → m Outcome
  | [] => pure .completed
  | child :: rest => do
    match ← descend (index :: place) child with
    | .stopped => pure .stopped
    | .completed => descendAll place (index + 1) rest

end

variable [LawfulMonad m]

mutual

/-- The open branches wait while a child is walked, and go on unless it has stopped the walk. -/
theorem resume_child (place : Place) (node : Node) (index : Nat) (child : Node) (rest : List Node)
    (frames : List Frame) :
    resume visit (⟨place, node, index, child :: rest⟩ :: frames) = (do
      match ← descend visit (index :: place) child with
      | .stopped => pure .stopped
      | .completed => resume visit (⟨place, node, index + 1, rest⟩ :: frames)) := by
  cases child with
  | leaf loc content =>
      rw [resume_leaf, descend, bind_assoc]
      apply bind_congr
      intro signal
      cases signal <;> simp only [pure_bind]
  | branch loc shape children =>
      rw [resume_branch, descend, bind_assoc]
      apply bind_congr
      intro signal
      cases signal with
      | stop | skipChildren => simp only [pure_bind]
      | next =>
          simp only [bind_assoc]
          rw [resume_children]
          apply bind_congr
          intro outcome
          cases outcome with
          | stopped => simp only [pure_bind]
          | completed =>
              simp only [bind_assoc]
              apply bind_congr
              intro signal
              cases signal <;> simp only [pure_bind]

theorem resume_children (place : Place) (node : Node) (index : Nat) (children : List Node)
    (frames : List Frame) :
    resume visit (⟨place, node, index, children⟩ :: frames) = (do
      match ← descendAll visit place index children with
      | .stopped => pure .stopped
      | .completed =>
        match ← visit ⟨place, node, false⟩ with
        | .stop => pure .stopped
        | _ => resume visit frames) := by
  cases children with
  | nil =>
      rw [resume_close, descendAll]
      refine Eq.trans ?_ (pure_bind _ _).symm
      rfl
  | cons child rest =>
      rw [resume_child, descendAll, bind_assoc]
      apply bind_congr
      intro outcome
      cases outcome with
      | stopped => simp only [pure_bind]
      | completed => exact resume_children place node (index + 1) rest frames

end

theorem walk_eq_descend (place : Place) (root : Node) :
    walk visit place root = descend visit place root := by
  cases root with
  | leaf loc content =>
      rw [walk, descend]
      apply bind_congr
      intro signal
      cases signal <;> rfl
  | branch loc shape children =>
      rw [walk, descend]
      apply bind_congr
      intro signal
      cases signal with
      | stop | skipChildren => rfl
      | next => simp only [resume_children, resume_nil]

end

/-- A visitor that may fail, which does not undo what it has done to its state. -/
abbrev Visitor (ε σ : Type) := Visit → ExceptT ε (StateM σ) Signal

def Visitor.logged {ε σ : Type} (visit : Visitor ε σ) : Visitor ε (σ × List Visit) :=
  fun v (s, visits) =>
    let (answer, s) := visit v s
    (answer, s, visits ++ [v])

/-- Both walks end in the same state, with the same outcome or the same failure, and they make the
same visits in the same order. -/
theorem walk_refines_descend {ε σ : Type} (visit : Visitor ε σ) (place : Place) (root : Node)
    (s : σ) :
    (walk visit place root).run.run s = (descend visit place root).run.run s ∧
      (walk visit.logged place root).run.run (s, []) =
        (descend visit.logged place root).run.run (s, []) := by
  constructor
  · rw [walk_eq_descend]
  · rw [walk_eq_descend]

end MarkdownOutline
