import MarkdownOutline.Proofs.Highlight
import MarkdownOutline.Proofs.Html.Refinement
import MarkdownOutline.Proofs.Outline.Noted

namespace MarkdownOutline.Html

open Markup

/-- The branches that the stack shows around a node. A branch that is left is taken off first, if there is any. -/
def shown? (v : Visit) (c : List Opened) : Option (List Opened) :=
  match v.node, v.entering with
  | .branch .., false => c.tail?
  | _, _ => some c

def turn (v : Visit) (c : List Opened) : List Opened :=
  match v.node, v.entering with
  | .leaf .., _ => c
  | .branch _ shape children, true => ⟨v.place, shape, children.length⟩ :: c
  | .branch .., false => c.tail

section

variable (o : Options)

def visitIn (c : List Opened) (v : Visit) : HtmlM (List Markup) :=
  match v.node, v.entering with
  | .leaf _ content, _ => leaf o content
  | .branch loc shape children, true => enter o c (.branch loc shape children) shape children
  | .branch _ shape _, false => leave c v.place shape

theorem Follows.containers_eq {α : Type} {c d : List Opened} {x : HtmlM α} (h : Follows c d x x) {s t : State} {a : α}
    (hs : s.containers = c) (hrun : x.run.run s = (.ok a, t)) : t.containers = d := by
  subst hs
  obtain ⟨result, t', k, hy, hx, hk⟩ := h s
  rw [hrun] at hy
  obtain ⟨rfl, rfl⟩ := Prod.mk.inj hy
  have hsame : x.run.run s = (.ok a, { t with containers := k }) := hx
  rw [hrun, Prod.mk.injEq] at hsame
  rw [hsame.2]
  exact hk a rfl

theorem exists_run_leave (c : List Opened) (place : Place) (shape : Branch) :
    ∃ result, ∀ s : State, (leave c place shape).run.run s = (result, s) := by
  cases shape <;> exact ⟨_, fun _ => rfl⟩

theorem run_leaf_ok {content : Leaf} {s t : State} {markup : List Markup}
    (h : (leaf o content).run.run s = (.ok markup, t)) : t = { t with containers := s.containers } := by
  rw [← (follows_leaf o content).containers_eq rfl h]

theorem run_opening_ok {a : Around} {shape : Branch} {children : List Node} {s t : State} {markup : List Markup}
    (h : (opening o a shape children).run.run s = (.ok markup, t)) : t = { t with containers := s.containers } := by
  rw [← (follows_opening o a shape children).containers_eq rfl h]

theorem fst_run_visit {v : Visit} {s : State} {c : List Opened} (hc : shown? v s.containers = some c) :
    ((visit o v).run.run s).1 = ((visitIn o c v).run.run s).1 := by
  rcases v with ⟨place, ⟨loc, content⟩ | ⟨loc, shape, children⟩, _ | _⟩
  · rfl
  · rfl
  · obtain ⟨result, hleave⟩ := exists_run_leave c place shape
    rw [run_leaving]
    cases hs : s.containers with
    | nil =>
        rw [hs] at hc
        cases hc
    | cons top outer =>
        rw [hs] at hc
        cases hc
        exact (congrArg Prod.fst (hleave _)).trans (congrArg Prod.fst (hleave s)).symm
  · obtain rfl : s.containers = c := Option.some.inj hc
    have hopening : visitIn o s.containers ⟨place, .branch loc shape children, true⟩ =
        opening o (around s.containers) shape children := enter_eq_opening o s.containers loc shape children
    rw [run_entering, hopening]
    rcases (opening o (around s.containers) shape children).run.run s with ⟨e | front, t⟩ <;> rfl

/-- A visit succeeds if the stack shows something and what it shows can be written. -/
theorem run_visit_ok_iff {v : Visit} {s u : State} {markup : List Markup} :
    (visit o v).run.run s = (.ok markup, u) ↔
      ∃ c t, shown? v s.containers = some c ∧ (visitIn o c v).run.run s = (.ok markup, t) ∧
        u = { t with containers := turn v s.containers } := by
  rcases v with ⟨place, ⟨loc, content⟩ | ⟨loc, shape, children⟩, entering⟩
  · constructor
    · intro h
      exact ⟨s.containers, u, rfl, h, run_leaf_ok o h⟩
    · rintro ⟨c, t, hc, h, rfl⟩
      refine Eq.trans h ?_
      rw [run_leaf_ok o h]
      rfl
  · cases entering with
    | true =>
        have hrun c : visitIn o c ⟨place, .branch loc shape children, true⟩ = opening o (around c) shape children :=
          enter_eq_opening o c loc shape children
        rw [run_entering]
        constructor
        · intro h
          rcases hopening : (opening o (around s.containers) shape children).run.run s with ⟨e | front, t⟩
          · rw [hopening] at h
            cases h
          · rw [hopening] at h
            cases h
            refine ⟨s.containers, t, rfl, by rw [hrun, hopening], ?_⟩
            rw [run_opening_ok o hopening]
            rfl
        · rintro ⟨c, t, hc, h, rfl⟩
          cases hc
          rw [hrun] at h
          rw [h, run_opening_ok o h]
          rfl
    | false =>
        rw [run_leaving]
        cases hs : s.containers with
        | nil =>
            constructor
            · intro h
              cases h
            · rintro ⟨c, t, hc, _⟩
              cases hc
        | cons top outer =>
            obtain ⟨result, hleave⟩ := exists_run_leave outer place shape
            constructor
            · intro h
              obtain ⟨rfl, rfl⟩ := Prod.mk.inj ((hleave _).symm.trans h)
              exact ⟨outer, s, rfl, hleave s, rfl⟩
            · rintro ⟨c, t, hc, h, rfl⟩
              cases hc
              obtain ⟨rfl, rfl⟩ := Prod.mk.inj ((hleave s).symm.trans h)
              exact hleave _

end

def Detached {α : Type} (x : HtmlM α) : Prop :=
  ∀ s s', s.registry.load = s'.registry.load → (x.run.run s).1 = (x.run.run s').1 ∧
    (x.run.run s).2.registry.load = s.registry.load ∧ (x.run.run s).2.slugs = s.slugs

namespace Detached

variable {α β : Type}

theorem pure (a : α) : Detached (Pure.pure a) := fun _ _ _ => ⟨rfl, rfl, rfl⟩

theorem lift (x : Except RenderError α) : Detached (ExceptT.mk (Pure.pure x)) := fun _ _ _ => ⟨rfl, rfl, rfl⟩

theorem bind {x : HtmlM α} {f : α → HtmlM β} (h : Detached x) (hf : ∀ a, Detached (f a)) : Detached (x >>= f) := by
  intro s s' hload
  obtain ⟨hresult, hregistry, hslugs⟩ := h s s' hload
  have hregistry' := (h s' s hload.symm).2.1
  rw [run_bind, run_bind]
  rcases hx : x.run.run s with ⟨e | a, t⟩
  · rw [hx] at hresult hregistry hslugs
    rcases hx' : x.run.run s' with ⟨e' | a', t'⟩
    · rw [hx'] at hresult
      exact ⟨congrArg Except.error (Except.error.inj hresult), hregistry, hslugs⟩
    · rw [hx'] at hresult
      cases hresult
  · rw [hx] at hresult hregistry hslugs
    rcases hx' : x.run.run s' with ⟨e' | a', t'⟩
    · rw [hx'] at hresult
      cases hresult
    · rw [hx'] at hresult hregistry'
      obtain rfl := Except.ok.inj hresult
      obtain ⟨hmore, hlater, hkept⟩ := hf a t t' (hregistry.trans (hload.trans hregistry'.symm))
      exact ⟨hmore, hlater.trans hregistry, hkept.trans hslugs⟩

end Detached

theorem detached_highlighted? (code language : String) : Detached (highlighted? code language) := by
  intro s s' hload
  have hpainted : s.registry.highlight code language = s'.registry.highlight code language :=
    Highlight.Registry.highlight_congr hload code language
  rw [run_highlighted?, run_highlighted?, painted?, painted?, hpainted]
  exact ⟨rfl, by rw [← hpainted]; exact Highlight.Registry.load_load _, rfl⟩

theorem sequential_detached : Sequential fun α (x : HtmlM α) (_ : HtmlM α) => Detached x where
  pure := Detached.pure
  bind := Detached.bind

section

variable (o : Options)

theorem detached_leaf (content : Leaf) : Detached (leaf o content) :=
  related_leaf o sequential_detached Detached.lift detached_highlighted? content

theorem detached_leave (c : List Opened) (place : Place) (shape : Branch) : Detached (leave c place shape) :=
  related_leave sequential_detached Detached.lift c place shape

theorem detached_opening (a : Around) {shape : Branch} {children : List Node}
    (h : ∀ heading, shape = .heading heading → wantsSlug o heading = false) :
    Detached (opening o a shape children) := by
  refine related_opening o sequential_detached Detached.lift a fun heading hshape hwants => ?_
  rw [h heading hshape] at hwants
  cases hwants

def asked? (v : Visit) : Option Placed := (Outline.opened? v).filter fun p => wantsSlug o p.heading

theorem detached_visitIn {v : Visit} (hv : asked? o v = none) (c : List Opened) : Detached (visitIn o c v) := by
  rcases v with ⟨place, ⟨loc, content⟩ | ⟨loc, shape, children⟩, entering⟩
  · exact detached_leaf o content
  · cases entering with
    | false => exact detached_leave c place shape
    | true =>
        have hopening : visitIn o c ⟨place, .branch loc shape children, true⟩ = opening o (around c) shape children :=
          enter_eq_opening o c loc shape children
        rw [hopening]
        refine detached_opening o _ fun heading hshape => ?_
        subst hshape
        by_contra hwants
        rw [Bool.not_eq_false] at hwants
        have htitle : heading.isTitle = false := by
          simp only [wantsSlug, Bool.and_eq_true, Bool.not_eq_true'] at hwants
          exact hwants.1.2
        simp [asked?, Outline.opened?, htitle, hwants] at hv

theorem eq_of_asked? {v : Visit} {p : Placed} (h : asked? o v = some p) :
    v = ⟨p.place, p.node, true⟩ ∧ wantsSlug o p.heading = true := by
  obtain ⟨hopened, hwants⟩ := Option.filter_eq_some_iff.1 h
  refine ⟨?_, hwants⟩
  rcases v with ⟨place, ⟨loc, content⟩ | ⟨loc, shape, children⟩, _ | _⟩
  any_goals cases hopened
  cases shape with
  | heading heading =>
      cases htitle : heading.isTitle with
      | true => simp [Outline.opened?, htitle] at hopened
      | false =>
          simp only [Outline.opened?, htitle, Bool.false_eq_true, if_false, Option.some.injEq] at hopened
          subst hopened
          rfl
  | _ => cases hopened

theorem headingOpening_of_wantsSlug {h : Heading} (hwants : wantsSlug o h = true) (text : String) :
    headingOpening o h text =
      (do return start (headingTag h) (optional "id" (some (← uniqueSlug o text)))) := by
  simp only [wantsSlug, Bool.and_eq_true, Bool.not_eq_true', Option.isNone_iff_eq_none] at hwants
  obtain ⟨⟨hauto, htitle⟩, hanchor⟩ := hwants
  simp [headingOpening, hauto, htitle, hanchor]

theorem visitIn_asked {v : Visit} {p : Placed} (hv : asked? o v = some p) (c : List Opened) :
    visitIn o c v = (do
      return [start (headingTag p.heading) (optional "id" (some (← uniqueSlug o (plainTexts p.children))))]) := by
  obtain ⟨rfl, hwants⟩ := eq_of_asked? o hv
  have hopening : visitIn o c ⟨p.place, p.node, true⟩ = opening o (around c) (.heading p.heading) p.children :=
    enter_eq_opening o c p.loc (.heading p.heading) p.children
  rw [hopening, opening, headingOpening_of_wantsSlug o hwants, bind_assoc]
  rfl

end

end MarkdownOutline.Html
