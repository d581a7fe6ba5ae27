import MarkdownOutline.Proofs.Html.Refinement
import MarkdownOutline.Proofs.Inline.Nodes

namespace MarkdownOutline.Html

open Markup

/-- A result that does not depend on the state and a success that does not change it. -/
def Steady {α : Type} (x : HtmlM α) : Prop :=
  (∃ a, ∀ s, x.run.run s = (.ok a, s)) ∨ ∃ e, ∀ s, (x.run.run s).1 = .error e

namespace Steady

variable {α β : Type}

theorem pure (a : α) : Steady (Pure.pure a) := .inl ⟨a, fun _ => rfl⟩

theorem lift (x : Except RenderError α) : Steady (ExceptT.mk (Pure.pure x)) := by
  cases x with
  | error e => exact .inr ⟨e, fun _ => rfl⟩
  | ok a => exact .inl ⟨a, fun _ => rfl⟩

theorem bind {x : HtmlM α} {f : α → HtmlM β} (h : Steady x) (hf : ∀ a, Steady (f a)) :
    Steady (x >>= f) := by
  rcases h with ⟨a, ha⟩ | ⟨e, he⟩
  · rcases hf a with ⟨b, hb⟩ | ⟨e, he⟩
    · exact .inl ⟨b, fun s => by rw [run_bind_of_ok (ha s), hb]⟩
    · exact .inr ⟨e, fun s => by rw [run_bind_of_ok (ha s), he]⟩
  · exact .inr ⟨e, fun s => run_bind_of_error (he s) f⟩

theorem run_of_ok {x : HtmlM α} (h : Steady x) {s t : State} {a : α}
    (hs : x.run.run s = (.ok a, t)) (u : State) : x.run.run u = (.ok a, u) := by
  rcases h with ⟨b, hb⟩ | ⟨e, he⟩
  · obtain ⟨hba, -⟩ := Prod.mk.inj ((hb s).symm.trans hs)
    rw [hb u, hba]
  · have hfail := he s
    rw [hs] at hfail
    cases hfail

end Steady

section

variable (o : Options)

theorem steady_leaf {content : Leaf} (h : content.IsInline) : Steady (leaf o content) := by
  cases content with
  | image url alt title => exact (Steady.lift _).bind fun src => Steady.pure _
  | codeBlock | thematicBreak | htmlBlock | other => exact h.elim
  | _ => exact Steady.pure _

theorem run_enter_inline {shape : Branch} (h : shape.IsInline) (place : Place) (loc : Location)
    (children : List Node) :
    (∃ front, ∀ s, (visit o ⟨place, .branch loc shape children, true⟩).run.run s =
      (.ok front, s.push place shape children)) ∨
    ∃ e, ∀ s, ((visit o ⟨place, .branch loc shape children, true⟩).run.run s).1 = .error e := by
  cases shape with
  | emphasis | strong | strikethrough => exact .inl ⟨_, fun _ => rfl⟩
  | link url title =>
      have hopening a s : (opening o a (.link url title) children).run.run s =
          ((encodeUrl url).map fun href => [start "a" (⟨"href", href⟩ :: optional "title" title)], s) := by
        rw [opening, run_bind, run_lift]
        cases encodeUrl url <;> rfl
      cases hurl : encodeUrl url with
      | error e =>
          refine .inr ⟨e, fun s => ?_⟩
          rw [run_entering, hopening, hurl]
          rfl
      | ok href =>
          refine .inl ⟨[start "a" (⟨"href", href⟩ :: optional "title" title)], fun s => ?_⟩
          rw [run_entering, hopening, hurl]
          rfl
  | _ => exact h.elim

theorem run_leave_inline {shape : Branch} (h : shape.IsInline) (place : Place) (loc : Location)
    (children : List Node) :
    ∃ back, ∀ s, (visit o ⟨place, .branch loc shape children, false⟩).run.run
      (s.push place shape children) = (.ok back, s) := by
  cases shape with
  | emphasis | strong | strikethrough | link => exact ⟨_, fun _ => rfl⟩
  | _ => exact h.elim

theorem emit_branch (place : Place) (loc : Location) (shape : Branch) (children : List Node) :
    emit o (Node.visits place (.branch loc shape children)) = (do
      let front ← visit o ⟨place, .branch loc shape children, true⟩
      let inner ← emit o (Node.visitsAll place 0 children)
      let back ← visit o ⟨place, .branch loc shape children, false⟩
      return front ++ (inner ++ back)) := by
  simp only [Node.visits, emit_cons, emit_append, emit_nil, pure_bind, List.append_nil, bind_pure,
    bind_assoc]

mutual

theorem steady_emit {node : Node} (h : node.IsInline) (place : Place) :
    Steady (emit o (node.visits place)) := by
  cases node with
  | leaf loc content =>
      simp only [Node.visits, emit_cons, emit_nil, pure_bind, List.append_nil, bind_pure]
      exact steady_leaf o h
  | branch loc shape children =>
      rw [emit_branch]
      obtain ⟨back, hback⟩ := run_leave_inline o h.1 place loc children
      rcases run_enter_inline o h.1 place loc children with ⟨front, hfront⟩ | ⟨e, he⟩
      · rcases steady_emitAll h.2 place 0 with ⟨inner, hinner⟩ | ⟨e, he⟩
        · refine .inl ⟨front ++ (inner ++ back), fun s => ?_⟩
          rw [run_bind_of_ok (hfront s), run_bind_of_ok (hinner _), run_bind_of_ok (hback s), run_pure]
        · refine .inr ⟨e, fun s => ?_⟩
          rw [run_bind_of_ok (hfront s)]
          exact run_bind_of_error (he _) _
      · exact .inr ⟨e, fun s => run_bind_of_error (he s) _⟩

theorem steady_emitAll {children : List Node} (h : Node.AreInline children) (place : Place)
    (index : Nat) : Steady (emit o (Node.visitsAll place index children)) := by
  cases children with
  | nil =>
      rw [Node.visitsAll, emit_nil]
      exact Steady.pure _
  | cons child rest =>
      rw [Node.visitsAll, emit_append]
      exact (steady_emit h.1 _).bind fun markup =>
        (steady_emitAll h.2 place (index + 1)).bind fun more => Steady.pure _

end

end

end MarkdownOutline.Html
