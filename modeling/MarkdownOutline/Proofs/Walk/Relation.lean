import MarkdownOutline.Proofs.Render.Run
import MarkdownOutline.Proofs.Walk.Visits

namespace MarkdownOutline

/-- A relation between computations of two monads that sequences keep. -/
structure Sequential {m : Type → Type u} {m' : Type → Type v} [Monad m] [Monad m']
    (R : ∀ α : Type, m α → m' α → Prop) : Prop where
  pure {α : Type} (a : α) : R α (pure a) (pure a)
  bind {α β : Type} {x : m α} {y : m' α} {f : α → m β} {g : α → m' β} (h : R α x y)
    (hrest : ∀ a, R β (f a) (g a)) : R β (x >>= f) (y >>= g)

namespace Sequential

variable {m : Type → Type u} {m' : Type → Type v} [Monad m] [Monad m']
variable {R : ∀ α : Type, m α → m' α → Prop} (hR : Sequential R)
variable {x : Visit → m Signal} {y : Visit → m' Signal}

include hR

mutual

theorem descend {place : Place} {node : Node} (h : ∀ v ∈ node.visits place, R _ (x v) (y v)) :
    R _ (descend x place node) (descend y place node) := by
  cases node with
  | leaf loc content =>
      refine hR.bind (h _ (List.mem_singleton_self _)) fun signal => ?_
      cases signal <;> exact hR.pure _
  | branch loc shape children =>
      obtain ⟨henter, h⟩ := List.forall_mem_cons.1 h
      obtain ⟨hinner, hleave⟩ := List.forall_mem_append.1 h
      rw [List.forall_mem_singleton] at hleave
      refine hR.bind henter fun signal => ?_
      cases signal with
      | stop | skipChildren => exact hR.pure _
      | next =>
          refine hR.bind (descendAll hinner) fun outcome => ?_
          cases outcome with
          | stopped => exact hR.pure _
          | completed =>
              refine hR.bind hleave fun signal => ?_
              cases signal <;> exact hR.pure _

theorem descendAll {place : Place} {index : Nat} {children : List Node}
    (h : ∀ v ∈ Node.visitsAll place index children, R _ (x v) (y v)) :
    R _ (descendAll x place index children) (descendAll y place index children) := by
  cases children with
  | nil => exact hR.pure _
  | cons child rest =>
      obtain ⟨hchild, hrest⟩ := List.forall_mem_append.1 h
      refine hR.bind (descend hchild) fun outcome => ?_
      cases outcome with
      | stopped => exact hR.pure _
      | completed => exact descendAll hrest

end

theorem walk [LawfulMonad m] [LawfulMonad m'] (h : ∀ v, R _ (x v) (y v)) (place : Place) (root : Node) :
    R _ (walk x place root) (walk y place root) := by
  rw [walk_eq_descend, walk_eq_descend]
  exact hR.descend fun v _ => h v

end Sequential

section

variable {m : Type → Type u} [Monad m] [LawfulMonad m] {α β : Type} (f : α → β)

def Related (x : Visit → StateT α m Signal) (y : Visit → StateT β m Signal) : Prop :=
  ∀ v a, (y v).run (f a) = (fun r => (r.1, f r.2)) <$> (x v).run a

theorem sequential_image : Sequential fun γ (x : StateT α m γ) (y : StateT β m γ) =>
    ∀ a, y.run (f a) = (fun r => (r.1, f r.2)) <$> x.run a where
  pure c a := by simp only [StateT.run_pure, map_pure]
  bind h hrest a := by
    simp only [StateT.run_bind, h a, map_bind, bind_map_left]
    exact bind_congr fun r => hrest r.1 r.2

variable {f}

theorem run_walk_related {x : Visit → StateT α m Signal} {y : Visit → StateT β m Signal} (h : Related f x y)
    (place : Place) (root : Node) (a : α) :
    (walk y place root).run (f a) = (fun r => (r.1, f r.2)) <$> (walk x place root).run a :=
  (sequential_image f).walk h place root a

end

section

variable {ε ε' α β : Type} (g : ε → ε') (f : α → β)

def image {γ : Type} (run : Except ε γ × α) : Except ε' γ × β := (run.1.mapError g, f run.2)

theorem sequential_mirror : Sequential fun γ (x : ExceptT ε (StateM α) γ) (y : ExceptT ε' (StateM β) γ) =>
    ∀ a, y.run.run (f a) = image g f (x.run.run a) where
  pure _ _ := rfl
  bind {_ _ x _ _ _} h hrest a := by
    rw [run_bind, run_bind, h a]
    rcases x.run.run a with ⟨_ | c, b⟩
    · rfl
    · exact hrest c b

end

end MarkdownOutline
