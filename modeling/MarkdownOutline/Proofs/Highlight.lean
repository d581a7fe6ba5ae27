import MarkdownOutline.Highlight

namespace MarkdownOutline.Highlight

/-- The highlighter gives no markup at all: it fails, does not know the language or returns nothing. -/
def Highlighter.Declines (h : Highlighter) : Prop :=
  ∀ code language, h.supports language = .ok true → ∀ html, h.paint code language ≠ .ok (some html)

def mute : Highlighter := ⟨"", fun _ => .ok false, fun _ _ => .ok none⟩

inductive Call where
  | choose (h : Option Highlighter)
  | get
  | highlight (code language : String)

namespace Call

def isChoice : Call → Bool
  | choose _ => true
  | get | highlight .. => false

def effect (r : Registry) : Call → Registry
  | choose h => r.choose h
  | get => r.load
  | highlight code language => (r.highlight code language).2

/-- The package is wanted: what is in force behind the call depends on it. -/
def Wants (r : Registry) (call : Call) : Prop :=
  ∃ package, (call.effect (r.offer package)).chosen ≠ (call.effect (r.offer none)).chosen

end Call

namespace Registry

def steps (r : Registry) : List Call → List (Registry × Call)
  | [] => []
  | call :: calls => (r, call) :: steps (call.effect r) calls

theorem highlight_congr {r r' : Registry} (h : r.load = r'.load) (code language : String) :
    r.highlight code language = r'.highlight code language := by
  rw [highlight, h]
  rfl

theorem load_of_tried {r : Registry} (h : r.tried = true) : r.load = r := by simp [load, h]

theorem load_of_fresh {r : Registry} (hchosen : r.chosen = none) (htried : r.tried = false) :
    r.load = { r with chosen := r.package, tried := true } := by simp [load, hchosen, htried]

end Registry

theorem effect_eq_load {r : Registry} {call : Call} (h : call.isChoice = false) : call.effect r = r.load := by
  cases call with
  | choose h' => cases h
  | get | highlight => rfl

variable {r : Registry} {call : Call}

theorem wants_iff : call.Wants r ↔ call.isChoice = false ∧ r.chosen = none ∧ r.tried = false := by
  constructor
  · rintro ⟨package, hne⟩
    cases hchoice : call.isChoice with
    | true =>
        cases call with
        | choose h => exact absurd rfl hne
        | get | highlight => cases hchoice
    | false =>
        rw [effect_eq_load hchoice, effect_eq_load hchoice] at hne
        refine ⟨rfl, ?_, ?_⟩
        · cases hchosen : r.chosen with
          | none => rfl
          | some h =>
              have hsome : r.chosen.isSome = true := Option.isSome_iff_exists.2 ⟨h, hchosen⟩
              rw [Registry.chosen_load (r.offer package) hsome, Registry.chosen_load (r.offer none) hsome] at hne
              exact absurd rfl hne
        · cases htried : r.tried with
          | false => rfl
          | true =>
              rw [Registry.load_of_tried (r := r.offer package) htried,
                Registry.load_of_tried (r := r.offer none) htried] at hne
              exact absurd rfl hne
  · rintro ⟨hchoice, hchosen, htried⟩
    refine ⟨some mute, ?_⟩
    rw [effect_eq_load hchoice, effect_eq_load hchoice,
      Registry.load_of_fresh (r := r.offer (some mute)) hchosen htried,
      Registry.load_of_fresh (r := r.offer none) hchosen htried]
    exact Option.some_ne_none _

theorem tried_effect (h : r.tried = true) (call : Call) : (call.effect r).tried = true := by
  cases hchoice : call.isChoice with
  | true =>
      cases call with
      | choose h' => exact h
      | get | highlight => cases hchoice
  | false => rw [effect_eq_load hchoice, Registry.load_of_tried h, h]

theorem tried_of_wants (h : call.Wants r) : (call.effect r).tried = true := by
  obtain ⟨hchoice, hchosen, htried⟩ := wants_iff.1 h
  rw [effect_eq_load hchoice, Registry.load_of_fresh hchosen htried]

theorem tried_steps (h : r.tried = true) (calls : List Call) : ∀ step ∈ r.steps calls, step.1.tried = true := by
  induction calls generalizing r with
  | nil => exact fun _ hstep => (List.not_mem_nil hstep).elim
  | cons call calls ih => exact List.forall_mem_cons.2 ⟨h, ih (tried_effect h call)⟩

/-- No two calls of a run both want the package. -/
theorem pairwise_steps (r : Registry) (calls : List Call) :
    (r.steps calls).Pairwise fun a b => a.2.Wants a.1 → ¬b.2.Wants b.1 := by
  induction calls generalizing r with
  | nil => exact .nil
  | cons call calls ih =>
      refine .cons (fun step hstep hwants hagain => ?_) (ih _)
      have htried := tried_steps (tried_of_wants hwants) calls step hstep
      rw [(wants_iff.1 hagain).2.2] at htried
      cases htried

theorem chosen_effect {h : Highlighter} (hchosen : r.chosen = some h) (hchoice : call.isChoice = false) :
    call.effect r = r := by
  rw [effect_eq_load hchoice, Registry.chosen_load r (Option.isSome_iff_exists.2 ⟨h, hchosen⟩)]

theorem chosen_foldl {h : Highlighter} (hchosen : r.chosen = some h) {calls : List Call}
    (hcalls : ∀ call ∈ calls, call.isChoice = false) : (calls.foldl Call.effect r).chosen = some h := by
  induction calls with
  | nil => exact hchosen
  | cons call calls ih =>
      obtain ⟨hcall, hrest⟩ := List.forall_mem_cons.1 hcalls
      rw [List.foldl_cons, chosen_effect hchosen hcall]
      exact ih hrest

end MarkdownOutline.Highlight
