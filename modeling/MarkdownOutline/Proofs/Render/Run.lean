namespace MarkdownOutline

variable {σ ε α β : Type} (s : σ)

@[simp] theorem run_pure (a : α) : (pure a : ExceptT ε (StateM σ) α).run.run s = (.ok a, s) := rfl

@[simp] theorem run_lift (x : Except ε α) :
    (ExceptT.mk (pure x) : ExceptT ε (StateM σ) α).run.run s = (x, s) := rfl

@[simp] theorem run_get : (get : ExceptT ε (StateM σ) σ).run.run s = (.ok s, s) := rfl

@[simp] theorem run_modify (f : σ → σ) :
    (modify f : ExceptT ε (StateM σ) PUnit).run.run s = (.ok ⟨⟩, f s) := rfl

theorem run_bind (x : ExceptT ε (StateM σ) α) (f : α → ExceptT ε (StateM σ) β) :
    (x >>= f).run.run s = match x.run.run s with
      | (.ok a, t) => (f a).run.run t
      | (.error e, t) => (.error e, t) := by
  rw [ExceptT.run_bind, StateT.run_bind]
  rcases x.run.run s with ⟨_ | a, t⟩ <;> rfl

variable {s}

theorem run_bind_of_ok {x : ExceptT ε (StateM σ) α} {a : α} {t : σ} (h : x.run.run s = (.ok a, t))
    (f : α → ExceptT ε (StateM σ) β) : (x >>= f).run.run s = (f a).run.run t := by
  rw [run_bind, h]

theorem run_bind_of_error {x : ExceptT ε (StateM σ) α} {e : ε} (h : (x.run.run s).1 = .error e)
    (f : α → ExceptT ε (StateM σ) β) : ((x >>= f).run.run s).1 = .error e := by
  obtain ⟨t, hx⟩ : ∃ t, x.run.run s = (.error e, t) := ⟨_, Prod.ext h rfl⟩
  rw [run_bind, hx]

theorem exists_of_run_bind_eq_ok {x : ExceptT ε (StateM σ) α} {f : α → ExceptT ε (StateM σ) β} {b : β}
    {u : σ} (h : (x >>= f).run.run s = (.ok b, u)) :
    ∃ a t, x.run.run s = (.ok a, t) ∧ (f a).run.run t = (.ok b, u) := by
  rw [run_bind] at h
  rcases hx : x.run.run s with ⟨_ | a, t⟩
  · rw [hx] at h
    cases h
  · rw [hx] at h
    exact ⟨a, t, rfl, h⟩

theorem run_bind_of_run {x : StateM σ α} {a : α} {t : σ} (h : x.run s = (a, t)) (f : α → StateM σ β) :
    (x >>= f).run s = (f a).run t := by
  rw [StateT.run_bind, h]
  rfl

theorem run_liftM {x : StateM σ α} {a : α} {t : σ} (h : x.run s = (a, t)) :
    (liftM x : ExceptT ε (StateM σ) α).run.run s = (.ok a, t) := by
  change (Except.ok <$> x : StateM σ (Except ε α)).run s = _
  rw [StateT.run_map, h]
  rfl

def Ensures (x : ExceptT ε (StateM σ) α) (p : α → Prop) : Prop :=
  ∀ s a, (x.run.run s).1 = .ok a → p a

namespace Ensures

variable {x : ExceptT ε (StateM σ) α} {p : α → Prop} {r : β → Prop}

theorem pure {a : α} (h : p a) : Ensures (pure a : ExceptT ε (StateM σ) α) p := by
  intro s b hb
  cases hb
  exact h

theorem lift {x : Except ε α} (h : ∀ a, x = .ok a → p a) :
    Ensures (ExceptT.mk (Pure.pure x) : ExceptT ε (StateM σ) α) p := fun _ a ha => h a ha

theorem bind {f : α → ExceptT ε (StateM σ) β} (h : Ensures x p) (hf : ∀ a, p a → Ensures (f a) r) :
    Ensures (x >>= f) r := by
  intro s b hb
  have hx := h s
  rw [run_bind] at hb
  revert hb hx
  rcases x.run.run s with ⟨_ | a, t⟩
  · intro hb
    cases hb
  · intro hb hx
    exact hf a (hx a rfl) t b hb

end Ensures

end MarkdownOutline
