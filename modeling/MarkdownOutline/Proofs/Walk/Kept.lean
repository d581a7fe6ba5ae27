import Mathlib.Data.List.Infix
import MarkdownOutline.Proofs.Walk.Visits

namespace MarkdownOutline

section

variable (S : Place → Bool)

def skips (v : Visit) : Bool := v.entering && v.node.isBranch && S v.place

section

variable (place : Place) (loc : Location) (shape : Branch) (children : List Node)

@[simp] theorem skips_leaf (content : Leaf) (entering : Bool) :
    skips S ⟨place, .leaf loc content, entering⟩ = false := by
  simp [skips, Node.isBranch]

@[simp] theorem skips_entering : skips S ⟨place, .branch loc shape children, true⟩ = S place := by
  simp [skips, Node.isBranch]

@[simp] theorem skips_leaving : skips S ⟨place, .branch loc shape children, false⟩ = false := rfl

end

mutual

def Node.kept (place : Place) : Node → List Visit
  | .leaf loc content => [⟨place, .leaf loc content, true⟩]
  | .branch loc shape children =>
    ⟨place, .branch loc shape children, true⟩ ::
      if S place then [] else Node.keptAll place 0 children ++ [⟨place, .branch loc shape children, false⟩]

def Node.keptAll (place : Place) (index : Nat) : List Node → List Visit
  | [] => []
  | child :: rest => child.kept (index :: place) ++ Node.keptAll place (index + 1) rest

end

mutual

theorem kept_none (place : Place) (node : Node) : node.kept (fun _ => false) place = node.visits place := by
  cases node with
  | leaf loc content => rfl
  | branch loc shape children => rw [Node.kept, Node.visits, if_neg Bool.false_ne_true, keptAll_none]

theorem keptAll_none (place : Place) (index : Nat) (children : List Node) :
    Node.keptAll (fun _ => false) place index children = Node.visitsAll place index children := by
  cases children with
  | nil => rfl
  | cons child rest => rw [Node.keptAll, Node.visitsAll, kept_none, keptAll_none]

end

section

variable {m : Type → Type u} [Monad m] [LawfulMonad m] (work : Visit → m PUnit)

mutual

theorem descend_skipping (place : Place) (node : Node) :
    descend (fun v => do work v; return if skips S v then Signal.skipChildren else .next) place node =
      (do (node.kept S place).forM work; return .completed) := by
  cases node with
  | leaf loc content => simp [descend, Node.kept]
  | branch loc shape children =>
      cases hS : S place with
      | true => simp [descend, Node.kept, hS]
      | false =>
          rw [descend, descendAll_skipping place 0 children]
          simp [Node.kept, hS]

theorem descendAll_skipping (place : Place) (index : Nat) (children : List Node) :
    descendAll (fun v => do work v; return if skips S v then Signal.skipChildren else .next) place index children =
      (do (Node.keptAll S place index children).forM work; return .completed) := by
  cases children with
  | nil => simp [descendAll, Node.keptAll]
  | cons child rest =>
      rw [descendAll, descend_skipping (index :: place) child]
      simp only [Node.keptAll, bind_assoc, pure_bind, List.forM_eq_forM, List.forM_append]
      rw [descendAll_skipping place (index + 1) rest]
      simp only [List.forM_eq_forM]

end

theorem walk_skipping (place : Place) (root : Node) :
    walk (fun v => do work v; return if skips S v then Signal.skipChildren else .next) place root =
      (do (root.kept S place).forM work; return .completed) := by
  rw [walk_eq_descend, descend_skipping]

end

def Outside (root : Place) (v : Visit) : Prop :=
  ∀ p, root <:+ p → p <:+ v.place → S p = true → p = v.place ∧ v.entering = true

instance (root : Place) : DecidablePred (Outside S root) := fun v =>
  decidable_of_iff (∀ p ∈ v.place.tails, root <:+ p → S p = true → p = v.place ∧ v.entering = true) <| by
    simp only [List.mem_tails, Outside]
    exact ⟨fun h p hroot hp => h p hp hroot, fun h p hp hroot => h p hroot hp⟩

variable {S}

theorem outside_root_iff {place : Place} {node : Node} {entering : Bool} :
    Outside S place ⟨place, node, entering⟩ ↔ (S place = true → entering = true) := by
  constructor
  · intro h hS
    exact (h place (List.suffix_refl place) (List.suffix_refl place) hS).2
  · intro h p hroot hp hS
    obtain rfl : p = place := hp.eq_of_length_le hroot.length_le
    exact ⟨rfl, h hS⟩

/-- Around a node below a place that is not in `S` are the same branches of `S` from the child on. -/
theorem outside_iff_of_suffix {place : Place} {index : Nat} {v : Visit} (hS : S place = false)
    (hv : (index :: place) <:+ v.place) : Outside S place v ↔ Outside S (index :: place) v := by
  constructor
  · intro h p hroot hp
    exact h p ((List.suffix_cons index place).trans hroot) hp
  · intro h p hroot hp hSp
    refine h p ?_ hp hSp
    have hne : p ≠ place := by
      rintro rfl
      rw [hS] at hSp
      cases hSp
    have hlength : (index :: place).length ≤ p.length := by
      have hlt : place.length < p.length := by
        refine Nat.lt_of_le_of_ne hroot.length_le fun heq => hne (hroot.eq_of_length heq).symm
      exact hlt
    exact List.suffix_of_suffix_length_le hv hp hlength

theorem not_outside_of_suffix {place : Place} {index : Nat} {v : Visit} (hS : S place = true)
    (hv : (index :: place) <:+ v.place) : ¬Outside S place v := by
  intro h
  have hplace := (h place (List.suffix_refl place) ((List.suffix_cons index place).trans hv) hS).1
  rw [← hplace] at hv
  exact absurd hv.length_le (Nat.not_succ_le_self _)

end

end MarkdownOutline
