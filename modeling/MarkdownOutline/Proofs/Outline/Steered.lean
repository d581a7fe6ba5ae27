import MarkdownOutline.Proofs.Outline.Captured
import MarkdownOutline.Proofs.Outline.Fault
import MarkdownOutline.Proofs.Outline.Numbered

namespace MarkdownOutline

/-- It never fails to answer a visit. -/
def Renderer.Answers {σ : Type} (r : Renderer σ) : Prop :=
  ∀ v s, ∃ answer t, (r.visit v).run.run s = (.ok answer, t)

namespace Outline

variable {σ : Type} (r : Renderer σ) (place : Place) (root : Node) (s : σ)

def entriesOf (ps : List Placed) (texts : List String) : List Entry :=
  (ps.zip texts).mapIdx fun i w => ⟨w.1.heading.level, anchorOf i, w.2⟩

structure Succeeds (es : List Entry) (root' : Node) (t : σ) : Prop where
  entries : (entries r place root).run s = ((.ok es, root'), t)
  outline : ∃ text, layout es none = .ok text ∧ (render r place root).run s = ((.ok text, root'), t)

structure Breaks (e : OutlineError) (root' : Node) (t : σ) : Prop where
  entries : (entries r place root).run s = ((.error e, root'), t)
  outline : (render r place root).run s = ((.error e, root'), t)

/-- How an outline goes whose walk enters the headings `reached`. -/
structure Steered (reached : List Placed) : Prop where
  inOrder : reached <+: root.listed place
  /-- Each of them has an entry with what the renderer writes inside, and only inside the last may the
  renderer have stopped. -/
  collected : (∀ p ∈ reached, 1 ≤ p.heading.level) →
    (∃ captured t, (reached.mapM (capture r)).run.run s = (.ok captured, t) ∧
      (∀ c ∈ captured.dropLast, c.1 = .completed) ∧
      (reached = root.listed place ∨ ∃ c ∈ captured.getLast?, c.1 = .stopped) ∧
      Succeeds r place root s (entriesOf reached (captured.map Prod.snd)) (root.anchored reached.length) t) ∨
    ∃ e t, ¬ r.Answers ∧ (reached.mapM (capture r)).run.run s = (.error e, t) ∧
      Breaks r place root s (.render e) (root.anchored reached.length) t
  /-- The headings in front of the one whose level is below one have got their anchors. -/
  rejected : (∃ p ∈ reached, p.heading.level < 1) →
    ∃ before p captured t, reached = before ++ [p] ∧ (∀ q ∈ before, 1 ≤ q.heading.level) ∧
      p.heading.level < 1 ∧ (before.mapM (capture r)).run.run s = (.ok captured, t) ∧
      (∀ c ∈ captured, c.1 = .completed) ∧
      Breaks r place root s (.levelBelowOne p.heading.level) (root.anchored before.length) t

section

variable {r}

end

section

variable {ε α : Type} {visit : Visitor ε α} {place : Place} {root : Node} {a b : α}
variable {result : Except ε Outcome} {seen : List Placed}

theorem mapError_id {γ : Type} (result : Except ε γ) : result.mapError id = result := by
  cases result <;> rfl

theorem run_walk_of_noting
    (h : (walk (noting visit) place root).run.run (a, []) = (result, (b, seen))) :
    (walk visit place root).run.run a = (result, b) := by
  have hvisit v (x : α × List Placed) :
      (visit v).run.run x.1 = image id Prod.fst ((noting visit v).run.run x) :=
    Prod.ext (mapError_id _).symm rfl
  have hwalk := (sequential_mirror id Prod.fst).walk hvisit place root (a, [])
  rw [h] at hwalk
  rw [hwalk, image, mapError_id]

end

section

variable {r place root s} {d : Collector} {t : σ} {e : OutlineError}

theorem run_collect_of_collectWalk {result : Except OutlineError PUnit}
    (h : (collectWalk r place root).run.run ({}, s) = (result, (d, t))) :
    (collect r place root).run s = ((result.map fun _ => d, assign d.anchors place root), t) := by
  have hwalk : collectWalk r place root ({}, s) = (result, (d, t)) := h
  simp only [collect, StateT.run_bind, hwalk, StateT.run_get, StateT.run_set, pure_bind, StateT.run_pure]
  rfl

theorem run_collect_of_ok {outcome : Outcome}
    (h : (walk (collectVisit r) place root).run.run ({}, s) = (.ok outcome, (d, t))) :
    (collect r place root).run s = ((.ok d.leave, assign d.leave.anchors place root), t) := by
  have hwalk : (collectWalk r place root).run.run ({}, s) = (.ok ⟨⟩, (d.leave, t)) := run_bind_of_ok h _
  exact run_collect_of_collectWalk hwalk

theorem assign_reached {reached : List Placed} (h : reached <+: root.listed place) :
    assign (anchorsFrom 0 reached) place root = root.anchored reached.length := by
  have htake := List.prefix_iff_eq_take.1 h
  rw [← assign_anchorsFrom, ← htake]

variable {reached : List Placed} {texts : List String}

end

section

variable {r} {s t u : σ} {ps : List Placed} {p : Placed} {texts : List String}

variable {place root} {rest : List Placed}

variable (hlisted : root.listed place = ps ++ p :: rest) (hcaptures : Captures r ps s texts t)

include hlisted

include hcaptures

end

variable {root}

end Outline

end MarkdownOutline
