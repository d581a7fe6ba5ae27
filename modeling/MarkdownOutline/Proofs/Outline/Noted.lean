import MarkdownOutline.Proofs.Outline.Collected
import MarkdownOutline.Proofs.Walk.Relation

namespace MarkdownOutline

def Placed.IsFlat (p : Placed) : Prop :=
  ∀ q ∈ Node.headingsAll p.place 0 p.children, q.heading.isTitle = true

instance (p : Placed) : Decidable p.IsFlat :=
  inferInstanceAs (Decidable (∀ q ∈ Node.headingsAll p.place 0 p.children, q.heading.isTitle = true))

namespace Outline

def opened? (v : Visit) : Option Placed :=
  match v.entering, v.node with
  | true, .branch loc (.heading h) children => if h.isTitle then none else some ⟨v.place, loc, h, children⟩
  | _, _ => none

theorem opened?_of_not_listed {v : Visit} (h : listed? v.node = none) : opened? v = none := by
  rcases v with ⟨place, ⟨loc, content⟩ | ⟨loc, shape, children⟩, _ | _⟩
  any_goals rfl
  cases shape with
  | heading heading =>
      have htitle : heading.isTitle = true := by simpa [listed?, Node.heading?] using h
      simp [opened?, htitle]
  | _ => rfl

theorem opened?_leaving (place : Place) (node : Node) : opened? ⟨place, node, false⟩ = none := rfl

theorem opened?_entering {p : Placed} (h : p.heading.isTitle = false) :
    opened? ⟨p.place, p.node, true⟩ = some p := by
  simp [opened?, Placed.node, h]

variable {σ : Type} (r : Renderer σ)

def capture (p : Placed) : RenderM σ (Outcome × String) := (descendAll r.write p.place 0 p.children).run ""

def noting {ε α : Type} (visit : Visitor ε α) : Visitor ε (α × List Placed) :=
  fun v (s, seen) =>
    let (answer, s) := visit v s
    (answer, s, seen ++ (opened? v).toList)

abbrev Noted (σ : Type) := (Collector × σ) × List Placed

theorem run_noting_collectVisit (v : Visit) (c : Collector) (s : σ) (seen : List Placed) :
    (noting (collectVisit r) v).run.run ((c, s), seen) =
      (((collectVisit r v).run.run (c, s)).1, ((collectVisit r v).run.run (c, s)).2,
        seen ++ (opened? v).toList) := rfl

theorem run_unlisted {v : Visit} (hv : listed? v.node = none) {c : Collector} (hc : c.current = none)
    (s : σ) (seen : List Placed) :
    (noting (collectVisit r) v).run.run ((c, s), seen) = (.ok .next, ((c, s), seen)) := by
  have hrun : (collectVisit r v).run.run (c, s) = (.ok .next, (c, s)) := by
    simp [run_collectVisit_of, hv, hc]
  rw [run_noting_collectVisit, hrun, opened?_of_not_listed hv, Option.toList_none, List.append_nil]

theorem run_write (v : Visit) (text : String) : (r.write v).run text = (do
    let (more, signal) ← r.visit v
    return (signal, text ++ more)) := by
  simp [Renderer.write]

/-- `y` does with the open heading of `c` what `x` does with its text. -/
def Fills (c : Collector) (seen : List Placed) (α : Type) (x : StateT String (RenderM σ) α)
    (y : ExceptT OutlineError (StateM (Noted σ)) α) : Prop :=
  ∀ text s, match (x.run text).run.run s with
    | (.ok (a, all), t) => y.run.run ((c.write text, s), seen) = (.ok a, ((c.write all, t), seen))
    | (.error e, t) =>
      ∃ all, y.run.run ((c.write text, s), seen) = (.error (.render e), ((c.write all, t), seen))

theorem sequential_fills (c : Collector) (seen : List Placed) : Sequential (Fills (σ := σ) c seen) where
  pure _ _ _ := rfl
  bind {_ _ x y f g} h hrest text s := by
    have hx := h text s
    rw [StateT.run_bind, run_bind]
    rcases hrun : (x.run text).run.run s with ⟨e | ⟨a, all⟩, t⟩
    · rw [hrun] at hx
      obtain ⟨all, hy⟩ := hx
      exact ⟨all, by rw [run_bind, hy]⟩
    · rw [hrun] at hx
      simp only [run_bind_of_ok hx]
      exact hrest a all t

theorem fills_visit {v : Visit} (hv : listed? v.node = none) {c : Collector} (hc : c.current.isSome = true)
    (seen : List Placed) : Fills c seen _ (r.write v) (noting (collectVisit r) v) := by
  intro text s
  have hopen : (c.write text).current.isSome = true := by rw [Collector.write, Option.isSome_map, hc]
  have hcollect := run_collectVisit_of r v (c.write text) s
  have hnone : seen ++ (opened? v).toList = seen := by
    rw [opened?_of_not_listed hv, Option.toList_none, List.append_nil]
  simp only [hv, hopen, if_true, renderInto] at hcollect
  rw [run_noting_collectVisit, hcollect, hnone, run_write, run_bind]
  rcases hvisit : (r.visit v).run.run s with ⟨e | ⟨more, signal⟩, t⟩
  · refine ⟨text, ?_⟩
    rw [show r.visit v s = _ from hvisit]
  · rw [show r.visit v s = _ from hvisit]
    exact congrArg (fun d => (Except.ok signal, ((d, t), seen))) (Collector.write_write c text more)

section

variable {r} {p : Placed} {c : Collector} {s t : σ} {seen : List Placed}

section

variable (hflat : p.IsFlat)

include hflat

theorem fills_inside (c : Collector) (seen : List Placed) :
    Fills (c.enter p.place p.heading.level) seen _ (descendAll r.write p.place 0 p.children)
      (descendAll (noting (collectVisit r)) p.place 0 p.children) :=
  (sequential_fills _ seen).descendAll fun v hv => fills_visit r (listed?_of_allTitles hflat v hv) rfl seen

theorem run_inside {outcome : Outcome} {html : String}
    (h : (capture r p).run.run s = (.ok (outcome, html), t)) :
    (descendAll (noting (collectVisit r)) p.place 0 p.children).run.run
        ((c.enter p.place p.heading.level, s), seen) =
      (.ok outcome, (((c.enter p.place p.heading.level).write html, t), seen)) := by
  have hinside := fills_inside (r := r) hflat c seen "" s
  rw [capture] at h
  rw [Collector.write_empty, h] at hinside
  exact hinside

theorem exists_run_inside {e : RenderError} (h : (capture r p).run.run s = (.error e, t)) :
    ∃ html, (descendAll (noting (collectVisit r)) p.place 0 p.children).run.run
        ((c.enter p.place p.heading.level, s), seen) =
      (.error (.render e), (((c.enter p.place p.heading.level).write html, t), seen)) := by
  have hinside := fills_inside (r := r) hflat c seen "" s
  rw [capture] at h
  rw [Collector.write_empty, h] at hinside
  exact hinside

end

variable (hlisted : p.heading.isTitle = false)

include hlisted

theorem run_heading_left : (noting (collectVisit r) ⟨p.place, p.node, false⟩).run.run ((c, s), seen) =
    (.ok .next, ((c.leave, s), seen)) := by
  rw [run_noting_collectVisit, run_collectVisit_of, listed?_node hlisted, opened?_leaving]
  simp

theorem run_heading_shallow (hlevel : p.heading.level < 1) :
    (descend (noting (collectVisit r)) p.place p.node).run.run ((c, s), seen) =
      (.error (.levelBelowOne p.heading.level), ((c, s), seen ++ [p])) := by
  have henter : (noting (collectVisit r) ⟨p.place, p.node, true⟩).run.run ((c, s), seen) =
      (.error (.levelBelowOne p.heading.level), ((c, s), seen ++ [p])) := by
    rw [run_noting_collectVisit, run_collectVisit_of, listed?_node hlisted, opened?_entering hlisted]
    simp [hlevel]
  rw [Placed.node] at henter ⊢
  rw [descend, run_bind, henter]

variable (hlevel : 1 ≤ p.heading.level)

include hlevel

theorem run_heading_entered :
    (descend (noting (collectVisit r)) p.place p.node).run.run ((c, s), seen) =
      (do
        match ← descendAll (noting (collectVisit r)) p.place 0 p.children with
        | .stopped => pure Outcome.stopped
        | .completed =>
          match ← noting (collectVisit r) ⟨p.place, p.node, false⟩ with
          | .stop => pure Outcome.stopped
          | _ => pure Outcome.completed).run.run ((c.enter p.place p.heading.level, s), seen ++ [p]) := by
  have henter : (noting (collectVisit r) ⟨p.place, p.node, true⟩).run.run ((c, s), seen) =
      (.ok .next, ((c.enter p.place p.heading.level, s), seen ++ [p])) := by
    rw [run_noting_collectVisit, run_collectVisit_of, listed?_node hlisted, opened?_entering hlisted]
    simp [Int.not_lt.2 hlevel]
  rw [Placed.node] at henter ⊢
  rw [descend]
  exact run_bind_of_ok henter _

variable (hflat : p.IsFlat)

include hflat

theorem run_heading_completed {html : String} (h : (capture r p).run.run s = (.ok (.completed, html), t)) :
    (descend (noting (collectVisit r)) p.place p.node).run.run ((c, s), seen) =
      (.ok .completed, ((c.add p html, t), seen ++ [p])) := by
  rw [run_heading_entered hlisted hlevel, run_bind_of_ok (run_inside hflat h)]
  exact run_bind_of_ok (run_heading_left hlisted) _

theorem run_heading_stopped {html : String} (h : (capture r p).run.run s = (.ok (.stopped, html), t)) :
    (descend (noting (collectVisit r)) p.place p.node).run.run ((c, s), seen) =
      (.ok .stopped, (((c.enter p.place p.heading.level).write html, t), seen ++ [p])) := by
  rw [run_heading_entered hlisted hlevel, run_bind_of_ok (run_inside hflat h)]
  rfl

variable (c seen) in
theorem exists_run_heading_failed {e : RenderError} (h : (capture r p).run.run s = (.error e, t)) :
    ∃ html, (descend (noting (collectVisit r)) p.place p.node).run.run ((c, s), seen) =
      (.error (.render e), (((c.enter p.place p.heading.level).write html, t), seen ++ [p])) := by
  obtain ⟨html, hinside⟩ := exists_run_inside hflat h
  refine ⟨html, ?_⟩
  rw [run_heading_entered hlisted hlevel, run_bind, hinside]

end

end Outline

end MarkdownOutline
