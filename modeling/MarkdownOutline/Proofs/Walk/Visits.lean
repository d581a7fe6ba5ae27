import MarkdownOutline.Proofs.Walk.Descent

namespace MarkdownOutline

mutual

def Node.visits (place : Place) : Node → List Visit
  | .leaf loc content => [⟨place, .leaf loc content, true⟩]
  | .branch loc shape children =>
    ⟨place, .branch loc shape children, true⟩ ::
      (Node.visitsAll place 0 children ++ [⟨place, .branch loc shape children, false⟩])

def Node.visitsAll (place : Place) (index : Nat) : List Node → List Visit
  | [] => []
  | child :: rest => child.visits (index :: place) ++ Node.visitsAll place (index + 1) rest

end

section

variable {m : Type → Type u} [Monad m] [LawfulMonad m] (work : Visit → m PUnit)

mutual

theorem descend_unsteered (place : Place) (node : Node) :
    descend (fun v => do work v; return Signal.next) place node =
      (do (node.visits place).forM work; return .completed) := by
  cases node with
  | leaf loc content =>
      simp only [descend, Node.visits, bind_assoc, pure_bind, List.forM_eq_forM, List.forM_cons,
        List.forM_nil]
  | branch loc shape children =>
      simp only [descend, Node.visits, bind_assoc, pure_bind, List.forM_eq_forM, List.forM_cons,
        List.forM_append, List.forM_nil]
      rw [descendAll_unsteered place 0 children]
      simp only [bind_assoc, pure_bind, List.forM_eq_forM]

theorem descendAll_unsteered (place : Place) (index : Nat) (children : List Node) :
    descendAll (fun v => do work v; return Signal.next) place index children =
      (do (Node.visitsAll place index children).forM work; return .completed) := by
  cases children with
  | nil => simp only [descendAll, Node.visitsAll, List.forM_eq_forM, List.forM_nil, pure_bind]
  | cons child rest =>
      rw [descendAll, descend_unsteered (index :: place) child]
      simp only [Node.visitsAll, bind_assoc, pure_bind, List.forM_eq_forM, List.forM_append]
      rw [descendAll_unsteered place (index + 1) rest]
      simp only [List.forM_eq_forM]

end

theorem walk_unsteered (place : Place) (root : Node) :
    walk (fun v => do work v; return Signal.next) place root =
      (do (root.visits place).forM work; return .completed) := by
  rw [walk_eq_descend, descend_unsteered]

end

end MarkdownOutline
