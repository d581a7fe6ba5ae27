import MarkdownOutline.Proofs.Html.Inlay
import MarkdownOutline.Proofs.Outline.Headings

namespace MarkdownOutline.Outline

namespace Collector

def add (c : Collector) (p : Placed) (html : String) : Collector :=
  ((c.enter p.place p.heading.level).write html).leave

def addEach (c : Collector) (work : List (Placed × String)) : Collector :=
  work.foldl (fun c w => c.add w.1 w.2) c

def addAll (html : Placed → String) (c : Collector) (ps : List Placed) : Collector :=
  ps.foldl (fun c p => c.add p (html p)) c

theorem addAll_eq_addEach (html : Placed → String) (c : Collector) (ps : List Placed) :
    c.addAll html ps = c.addEach (ps.map fun p => (p, html p)) := by
  rw [addAll, addEach, List.foldl_map]

theorem write_empty (c : Collector) : c.write "" = c := by
  rcases c with ⟨entries, _ | e, count, minimum, anchors⟩ <;> simp [write]

theorem write_write (c : Collector) (text more : String) :
    (c.write text).write more = c.write (text ++ more) := by
  rcases c with ⟨entries, _ | e, count, minimum, anchors⟩ <;> simp [write, String.append_assoc]

theorem leave_of_idle {c : Collector} (h : c.current = none) : c.leave = c := by
  rw [leave, h]

theorem entries_add (c : Collector) (p : Placed) (html : String) :
    (c.add p html).entries = c.entries ++ [⟨p.heading.level, anchorOf c.count, html⟩] := by
  simp [add, enter, write, leave]

theorem anchors_add (c : Collector) (p : Placed) (html : String) :
    (c.add p html).anchors = c.anchors ++ [(p.place, anchorOf c.count)] := rfl

theorem count_add (c : Collector) (p : Placed) (html : String) : (c.add p html).count = c.count + 1 := rfl

theorem minimum_enter {c : Collector} {levels : List Int} (h : c.minimum = levels.min?) (place : Place)
    (level : Int) : (c.enter place level).minimum = (levels ++ [level]).min? := by
  rw [enter, h]
  cases levels with
  | nil => rfl
  | cons first levels =>
      rw [List.cons_append, List.min?_cons', List.min?_cons', List.foldl_append]
      rfl

/-- The outline counts from the shallowest of its entries. -/
theorem minimum_add {c : Collector} (h : c.minimum = minLevel? c.entries) (p : Placed) (html : String) :
    (c.add p html).minimum = minLevel? (c.add p html).entries := by
  rw [entries_add, minLevel?, List.map_append]
  exact minimum_enter h p.place p.heading.level

theorem current_addEach {c : Collector} (h : c.current = none) (work : List (Placed × String)) :
    (c.addEach work).current = none := by
  induction work generalizing c with
  | nil => exact h
  | cons w work ih => exact ih rfl

theorem current_addAll {c : Collector} (h : c.current = none) (html : Placed → String)
    (ps : List Placed) : (c.addAll html ps).current = none := by
  rw [addAll_eq_addEach, current_addEach h]

end Collector

theorem listed?_node {p : Placed} (h : p.heading.isTitle = false) : listed? p.node = some p.heading := by
  simp [listed?, Placed.node, Node.heading?, h]

theorem run_collectVisit_of {σ : Type} (r : Renderer σ) (v : Visit) (c : Collector) (s : σ) :
    (collectVisit r v).run.run (c, s) = match listed? v.node with
      | some h =>
        if !v.entering then (.ok .next, (c.leave, s))
        else if h.level < 1 then (.error (.levelBelowOne h.level), (c, s))
        else (.ok .next, (c.enter v.place h.level, s))
      | none => if c.current.isSome then renderInto r v (c, s) else (.ok .next, (c, s)) := by
  rw [collectVisit]
  cases hlisted : listed? v.node with
  | some h =>
      cases hentering : v.entering with
      | false => rfl
      | true =>
          simp only [Bool.not_true, Bool.false_eq_true, if_false]
          split <;> rfl
  | none =>
      rw [run_bind, run_get]
      cases hcurrent : c.current <;> simp only [hcurrent] <;> rfl

section

variable (o : Html.Options)

theorem run_renderer_visit (v : Visit) (s : Html.State) :
    ((Html.renderer o).visit v).run.run s = match (Html.visit o v).run.run s with
      | (.ok markup, t) => (.ok (Html.write markup, .next), t)
      | (.error e, t) => (.error e, t) := by
  rw [Html.renderer, run_bind]
  rcases (Html.visit o v).run.run s with ⟨_ | markup, t⟩ <;> rfl

theorem run_collectVisit (v : Visit) (c : Collector) (s : Html.State) :
    (collectVisit (Html.renderer o) v).run.run (c, s) = match listed? v.node with
      | some h =>
        if !v.entering then (.ok .next, (c.leave, s))
        else if h.level < 1 then (.error (.levelBelowOne h.level), (c, s))
        else (.ok .next, (c.enter v.place h.level, s))
      | none =>
        if c.current.isSome then match (Html.visit o v).run.run s with
          | (.ok markup, t) => (.ok .next, (c.write (Html.write markup), t))
          | (.error e, t) => (.error (.render e), (c, t))
        else (.ok .next, (c, s)) := by
  have hvisit : (Html.renderer o).visit v s = _ := run_renderer_visit o v s
  rw [run_collectVisit_of, renderInto, hvisit]
  rcases (Html.visit o v).run.run s with ⟨_ | markup, t⟩ <;> rfl

def step (v : Visit) : CollectM Html.State PUnit := do
  let _ ← collectVisit (Html.renderer o) v

theorem collectVisit_eq_step (v : Visit) :
    collectVisit (Html.renderer o) v = (do step o v; return .next) := by
  have hrun x : (collectVisit (Html.renderer o) v).run.run x =
      ((do step o v; return .next : CollectM Html.State Signal).run.run x) := by
    rcases x with ⟨c, s⟩
    simp only [step, run_bind, run_collectVisit]
    cases listed? v.node with
    | some h =>
        cases v.entering with
        | false => rfl
        | true =>
            simp only [Bool.not_true, Bool.false_eq_true, if_false]
            split <;> rfl
    | none =>
        cases c.current with
        | none => rfl
        | some e =>
            simp only [Option.isSome_some, if_true]
            rcases (Html.visit o v).run.run s with ⟨_ | markup, t⟩ <;> rfl
  exact funext hrun

variable {o}

theorem run_step_idle {v : Visit} (hv : listed? v.node = none) {c : Collector} (hc : c.current = none)
    (s : Html.State) : (step o v).run.run (c, s) = (.ok ⟨⟩, (c, s)) := by
  have h := run_collectVisit o v c s
  simp only [hv, hc] at h
  rw [step, run_bind_of_ok h]
  rfl

theorem run_step_inlay {v : Visit} (hv : listed? v.node = none) {c : Collector}
    (hc : c.current.isSome = true) {s t : Html.State} {markup : List Html.Markup}
    (hvisit : (Html.visit o v).run.run s = (.ok markup, t)) :
    (step o v).run.run (c, s) = (.ok ⟨⟩, (c.write (Html.write markup), t)) := by
  have h := run_collectVisit o v c s
  simp only [hv, hc, hvisit, if_true] at h
  rw [step, run_bind_of_ok h]
  rfl

theorem run_step_error {v : Visit} (hv : listed? v.node = none) {c : Collector}
    (hc : c.current.isSome = true) {s t : Html.State} {e : RenderError}
    (hvisit : (Html.visit o v).run.run s = (.error e, t)) :
    (step o v).run.run (c, s) = (.error (.render e), (c, t)) := by
  have h := run_collectVisit o v c s
  simp only [hv, hc, hvisit, if_true] at h
  rw [step, run_bind, h]

theorem run_step_enter {v : Visit} {heading : Heading} (hv : listed? v.node = some heading)
    (hentering : v.entering = true) (hlevel : 1 ≤ heading.level) (c : Collector) (s : Html.State) :
    (step o v).run.run (c, s) = (.ok ⟨⟩, (c.enter v.place heading.level, s)) := by
  have h := run_collectVisit o v c s
  simp only [hv, hentering, Bool.not_true, Bool.false_eq_true, if_false, if_neg (Int.not_lt.2 hlevel)] at h
  rw [step, run_bind_of_ok h]
  rfl

theorem run_step_leave {v : Visit} {heading : Heading} (hv : listed? v.node = some heading)
    (hentering : v.entering = false) (c : Collector) (s : Html.State) :
    (step o v).run.run (c, s) = (.ok ⟨⟩, (c.leave, s)) := by
  have h := run_collectVisit o v c s
  simp only [hv, hentering, Bool.not_false, if_true] at h
  rw [step, run_bind_of_ok h]
  rfl

end

end MarkdownOutline.Outline
