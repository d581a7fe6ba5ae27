import MarkdownOutline.Proofs.Walk.Kept
import MarkdownOutline.Proofs.Walk.Relation
import MarkdownOutline.Render.Trace

namespace MarkdownOutline

@[simp] theorem textOf_nil : textOf [] = "" := String.join_nil

namespace Renderer

variable {σ : Type} (r : Renderer σ)

theorem related_write (header : String) :
    Related (fun parts => header ++ textOf parts) r.writePart r.write := by
  intro v parts
  simp [write, writePart, String.append_assoc, textOf]

theorem render_eq_parts (place : Place) (root : Node) :
    r.render place root = Parts.text <$> r.parts place root := by
  simp only [render, parts, map_bind]
  apply bind_congr
  intro header
  have h := run_walk_related (r.related_write header) place root []
  simp only [textOf_nil, String.append_empty] at h
  simp [h, Parts.text]

def keepPart (text : Visit → RenderM σ String) (v : Visit) :
    StateT (List (Visit × String)) (RenderM σ) PUnit := do
  modify (· ++ [(v, ← text v)])

theorem run_forM_keepPart (text : Visit → RenderM σ String) (visits : List Visit)
    (parts : List (Visit × String)) :
    (forM visits (keepPart text)).run parts =
      (fun more => (⟨⟩, parts ++ more)) <$> visits.mapM fun v => do return (v, ← text v) := by
  induction visits generalizing parts with
  | nil => simp
  | cons v visits ih => simp [keepPart, ih]

theorem parts_unsteered (text : Visit → RenderM σ String)
    (h : ∀ v, r.visit v = (do return (← text v, .next))) (place : Place) (root : Node) :
    r.parts place root = (do
      let header ← r.header root
      let body ← (root.visits place).mapM fun v => do return (v, ← text v)
      let footer ← r.footer root
      return ⟨header, body, footer⟩) := by
  have hwrite : r.writePart = fun v => do keepPart text v; return Signal.next := by
    funext v
    simp [writePart, keepPart, h]
  simp only [parts, hwrite, walk_unsteered, List.forM_eq_forM, StateT.run_bind, run_forM_keepPart]
  simp

/-- Does the same work at each visit, and then passes over the children of the branches `S`. -/
def skipping (S : Place → Bool) : Renderer σ :=
  { r with
    visit := fun v => do
      let (text, signal) ← r.visit v
      return (text, if skips S v then .skipChildren else signal) }

theorem parts_skipping (S : Place → Bool) (text : Visit → RenderM σ String)
    (h : ∀ v, r.visit v = (do return (← text v, .next))) (place : Place) (root : Node) :
    (r.skipping S).parts place root = (do
      let header ← r.header root
      let body ← (root.kept S place).mapM fun v => do return (v, ← text v)
      let footer ← r.footer root
      return ⟨header, body, footer⟩) := by
  have hwrite : (r.skipping S).writePart =
      fun v => do keepPart text v; return if skips S v then Signal.skipChildren else .next := by
    funext v
    simp [writePart, skipping, keepPart, h]
  simp only [parts, hwrite, walk_skipping, List.forM_eq_forM, StateT.run_bind, run_forM_keepPart]
  simp [skipping]

end Renderer

end MarkdownOutline
