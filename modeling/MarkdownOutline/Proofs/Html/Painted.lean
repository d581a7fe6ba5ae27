import MarkdownOutline.Proofs.Failure
import MarkdownOutline.Proofs.Highlight
import MarkdownOutline.Proofs.Html.Visit
import MarkdownOutline.Proofs.Render.Parts

namespace MarkdownOutline

def Leaf.painted? (registry : Highlight.Registry) : Leaf → Option String
  | codeBlock code info _ =>
    match language? info with
    | .ok (some language) => (Html.painted? registry code language).map fun html => Html.dropNewlines html ++ "\n"
    | _ => none
  | _ => none

def Node.painted? (registry : Highlight.Registry) : Node → Option String
  | leaf _ content => content.painted? registry
  | branch .. => none

def repaint (registry : Highlight.Registry) (part : Visit × String) : Visit × String :=
  (part.1, (part.1.node.painted? registry).getD part.2)

def Parts.repaint (registry : Highlight.Registry) (p : Parts) : Parts :=
  { p with body := p.body.map (MarkdownOutline.repaint registry) }

namespace Html

open Markup

def Options.highlighting (o : Options) (on : Bool) : Options := { o with highlight := on }

theorem painted?_congr {r r' : Highlight.Registry} (h : r.load = r'.load) (code language : String) :
    painted? r code language = painted? r' code language := by
  rw [painted?, painted?, Highlight.Registry.highlight_congr h]

theorem painted?_eq_none {registry : Highlight.Registry} (h : ∀ x ∈ registry.load.chosen, x.Declines)
    (code language : String) : painted? registry code language = none := by
  rw [painted?, Highlight.Registry.highlight]
  cases hchosen : registry.load.chosen with
  | none => rfl
  | some x =>
      cases hsupports : x.supports language with
      | error e => simp [hsupports, bind, Except.bind]
      | ok known =>
          cases known with
          | false => simp [hsupports, bind, Except.bind, pure, Except.pure]
          | true =>
              have hpaint := h x hchosen code language hsupports
              simp only [hsupports, bind, Except.bind, if_true]
              cases hx : x.paint code language with
              | error e => rfl
              | ok html =>
                  cases html with
                  | none => rfl
                  | some text => exact absurd hx (hpaint text)

/-- With highlighters that are loaded like those of `registry`, `x` gives `f` of what `y` gives and does to the
state what `y` does, but may load them. -/
def Repaints {α β : Type} (registry : Highlight.Registry) (f : α → β) (x : HtmlM β) (y : HtmlM α) : Prop :=
  ∀ s k, k.load = registry.load → ∃ result t k', y.run.run s = (result, t) ∧
    x.run.run { s with registry := k } = (result.map f, { t with registry := k' }) ∧ (k' = k ∨ k' = k.load)

section

variable {registry : Highlight.Registry}

namespace Repaints

variable {α β γ δ : Type}

theorem pure {f : α → β} {a : α} {b : β} (h : b = f a) :
    Repaints registry f (Pure.pure b) (Pure.pure a) :=
  fun s k _ => ⟨.ok a, s, k, rfl, by rw [h]; rfl, .inl rfl⟩

theorem throw (f : α → β) (e : RenderError) :
    Repaints registry f (MonadExcept.throw e) (MonadExcept.throw e) :=
  fun s k _ => ⟨.error e, s, k, rfl, rfl, .inl rfl⟩

theorem lift (x : Except RenderError α) :
    Repaints registry id (ExceptT.mk (Pure.pure x)) (ExceptT.mk (Pure.pure x)) :=
  fun s k _ => ⟨x, s, k, rfl, by cases x <;> rfl, .inl rfl⟩

theorem bind {f : α → β} {g : γ → δ} {x : HtmlM β} {y : HtmlM α} {p : β → HtmlM δ} {q : α → HtmlM γ}
    (h : Repaints registry f x y) (hrest : ∀ a, Repaints registry g (p (f a)) (q a)) :
    Repaints registry g (x >>= p) (y >>= q) := by
  intro s k hk
  obtain ⟨result, t, k', hy, hx, hload⟩ := h s k hk
  rw [run_bind, run_bind, hx, hy]
  cases result with
  | error e => exact ⟨.error e, t, k', rfl, rfl, hload⟩
  | ok a =>
      have hk' : k'.load = registry.load := by
        rcases hload with rfl | rfl
        · exact hk
        · rw [Highlight.Registry.load_load, hk]
      obtain ⟨result, u, k'', hq, hp, hmore⟩ := hrest a t k' hk'
      refine ⟨result, u, k'', hq, hp, ?_⟩
      rcases hload with rfl | rfl
      · exact hmore
      · rw [Highlight.Registry.load_load, or_self] at hmore
        exact .inr hmore

end Repaints

variable (o : Options)

theorem repaints_uniqueSlug (text : String) : Repaints registry id (uniqueSlug o text) (uniqueSlug o text) := by
  intro s k _
  simp only [run_uniqueSlug]
  cases o.slugify text with
  | error e => exact ⟨_, _, k, rfl, rfl, .inl rfl⟩
  | ok slug => exact ⟨_, _, k, rfl, rfl, .inl rfl⟩

theorem sequential_repaints : Sequential fun α (x y : HtmlM α) => Repaints registry id x y where
  pure _ := .pure rfl
  bind := Repaints.bind

theorem repaints_opening (a : Around) (shape : Branch) (children : List Node) :
    Repaints registry id (opening o a shape children) (opening o a shape children) :=
  related_opening o sequential_repaints Repaints.lift a fun _ _ _ => repaints_uniqueSlug o _

theorem repaints_header (root : Node) : Repaints registry id (header o root) (header o root) := by
  have hclear : Repaints registry id (modify fun s : State => { s with containers := [], slugs := {} })
      (modify fun s : State => { s with containers := [], slugs := {} }) :=
    fun s k _ => ⟨.ok ⟨⟩, _, k, rfl, rfl, .inl rfl⟩
  refine hclear.bind fun _ => ?_
  cases o.completePage with
  | false => exact .pure rfl
  | true =>
      cases o.title with
      | some title => exact .pure rfl
      | none => exact (Repaints.lift (titleText root)).bind fun _ => .pure rfl

theorem run_codeBlock_plain (code : String) (info : Option String) (s : State) :
    (codeBlock (o.highlighting false) code info).run.run s = ((language? info).map (plainCode code), s) := by
  rw [codeBlock, run_bind, run_lift]
  cases language? info <;> rfl

def paintedMarkup? (registry : Highlight.Registry) (code : String) (language : Option String) : Option (List Markup) :=
  (language.bind (painted? registry code)).map fun html => [raw (dropNewlines html), newline]

theorem run_codeBlock_highlighting (code : String) (info : Option String) (s : State) :
    ∃ k, (k = s.registry ∨ k = s.registry.load) ∧
      (codeBlock (o.highlighting true) code info).run.run s =
        ((language? info).map fun l => (paintedMarkup? s.registry code l).getD (plainCode code l),
          { s with registry := k }) := by
  rw [codeBlock, run_bind, run_lift]
  cases language? info with
  | error e => exact ⟨s.registry, .inl rfl, rfl⟩
  | ok language =>
      cases language with
      | none => exact ⟨s.registry, .inl rfl, rfl⟩
      | some l =>
          refine ⟨(s.registry.highlight code l).2, .inr rfl, ?_⟩
          simp only [Options.highlighting, if_true, run_bind, run_highlighted?, Except.map, paintedMarkup?,
            Option.bind_some]
          cases painted? s.registry code l <;> rfl

theorem write_paintedMarkup (html : String) : write [raw (dropNewlines html), newline] = dropNewlines html ++ "\n" := by
  have hnewline : Text.escapeHtml "\n" = "\n" := by decide
  simp [write, Markup.write, newline, hnewline]

theorem repaints_codeBlock (code : String) (info : Option String) (fenced : Bool) :
    Repaints registry (fun text => ((Leaf.codeBlock code info fenced).painted? registry).getD text)
      (do return write (← codeBlock (o.highlighting true) code info))
      (do return write (← codeBlock (o.highlighting false) code info)) := by
  intro s k hk
  obtain ⟨k', hload, hrun⟩ := run_codeBlock_highlighting o code info { s with registry := k }
  refine ⟨((language? info).map (plainCode code)).map write, s, k', ?_, ?_, hload⟩
  · rw [run_bind, run_codeBlock_plain]
    cases language? info <;> rfl
  · rw [run_bind, hrun, Leaf.painted?]
    cases language? info with
    | error e => rfl
    | ok language =>
        cases language with
        | none => rfl
        | some l =>
            simp only [Except.map, paintedMarkup?, Option.bind_some, painted?_congr hk]
            cases painted? registry code l with
            | none => simp only [Option.map_none, Option.getD_none, run_pure]
            | some html => simp only [Option.map_some, Option.getD_some, run_pure, write_paintedMarkup]

theorem repaints_leaf (content : Leaf) :
    Repaints registry (fun text => (content.painted? registry).getD text)
      (do return write (← leaf (o.highlighting true) content))
      (do return write (← leaf (o.highlighting false) content)) := by
  cases content with
  | codeBlock code info fenced => exact repaints_codeBlock o code info fenced
  | image url alt title => exact Repaints.bind (f := id) ((Repaints.lift _).bind fun _ => .pure rfl) fun _ => .pure rfl
  | other kind => exact .throw _ _
  | _ => exact .pure rfl

theorem repaints_leafVisit (place : Place) (loc : Location) (content : Leaf) (entering : Bool) :
    Repaints registry (fun r : String × Signal => ((content.painted? registry).getD r.1, r.2))
      ((renderer (o.highlighting true)).visit ⟨place, .leaf loc content, entering⟩)
      ((renderer (o.highlighting false)).visit ⟨place, .leaf loc content, entering⟩) := by
  have hvisit (on : Bool) : (renderer (o.highlighting on)).visit ⟨place, .leaf loc content, entering⟩ =
      (do
        let text ← (do return write (← leaf (o.highlighting on) content))
        return (text, Signal.next)) := by
    rw [bind_assoc]
    rfl
  rw [hvisit, hvisit]
  exact (repaints_leaf o content).bind fun _ => .pure rfl

theorem repaints_entering (place : Place) (loc : Location) (shape : Branch) (children : List Node) :
    Repaints registry id (visit (o.highlighting true) ⟨place, .branch loc shape children, true⟩)
      (visit (o.highlighting false) ⟨place, .branch loc shape children, true⟩) := by
  have hsame (on : Bool) (a : Around) : opening (o.highlighting on) a shape children = opening o a shape children := by
    cases shape <;> rfl
  intro s k hk
  obtain ⟨result, t, k', hy, hx, hload⟩ := repaints_opening o (around s.containers) shape children s k hk
  rw [run_entering, run_entering, hsame, hsame, hy, hx]
  cases result with
  | error e => exact ⟨.error e, t, k', rfl, rfl, hload⟩
  | ok markup => exact ⟨.ok markup, t.push place shape children, k', rfl, rfl, hload⟩

theorem repaints_leaving (place : Place) (loc : Location) (shape : Branch) (children : List Node) :
    Repaints registry id (visit (o.highlighting true) ⟨place, .branch loc shape children, false⟩)
      (visit (o.highlighting false) ⟨place, .branch loc shape children, false⟩) := by
  intro s k _
  rw [run_leaving, run_leaving]
  cases hs : s.containers with
  | nil => exact ⟨.error .nothingOpen, s, k, rfl, by rw [hs]; rfl, .inl rfl⟩
  | cons top outer =>
      obtain ⟨result, hleave⟩ := exists_run_leave outer place shape
      refine ⟨result, { s with containers := outer }, k, hleave _, ?_, .inl rfl⟩
      rw [Except.map_id]
      exact hleave _

theorem repaints_visit (v : Visit) :
    Repaints registry (fun r : String × Signal => ((v.node.painted? registry).getD r.1, r.2))
      ((renderer (o.highlighting true)).visit v) ((renderer (o.highlighting false)).visit v) := by
  rcases v with ⟨place, ⟨loc, content⟩ | ⟨loc, shape, children⟩, _ | _⟩
  · exact repaints_leafVisit o place loc content false
  · exact repaints_leafVisit o place loc content true
  · exact (repaints_leaving o place loc shape children).bind fun _ => .pure rfl
  · exact (repaints_entering o place loc shape children).bind fun _ => .pure rfl

theorem sequential_repaintsParts : Sequential fun γ (x y : StateT (List (Visit × String)) HtmlM γ) =>
    ∀ parts, Repaints registry (fun r : γ × List (Visit × String) => (r.1, r.2.map (repaint registry)))
      (x.run (parts.map (repaint registry))) (y.run parts) where
  pure _ _ := .pure rfl
  bind h hrest parts := by
    rw [StateT.run_bind, StateT.run_bind]
    exact (h parts).bind fun r => hrest r.1 r.2

theorem repaints_writePart (v : Visit) (parts : List (Visit × String)) :
    Repaints registry (fun r : Signal × List (Visit × String) => (r.1, r.2.map (repaint registry)))
      (((renderer (o.highlighting true)).writePart v).run (parts.map (repaint registry)))
      (((renderer (o.highlighting false)).writePart v).run parts) := by
  have hrun (r : Renderer State) (parts : List (Visit × String)) :
      (r.writePart v).run parts = (fun written => (written.2, parts ++ [(v, written.1)])) <$> r.visit v := by
    simp [Renderer.writePart]
  rw [hrun, hrun, map_eq_pure_bind, map_eq_pure_bind]
  exact (repaints_visit o v).bind fun r => .pure (by simp [repaint])

theorem repaints_parts (place : Place) (root : Node) :
    Repaints registry (Parts.repaint registry) ((renderer (o.highlighting true)).parts place root)
      ((renderer (o.highlighting false)).parts place root) := by
  have hheader : Repaints registry id ((renderer (o.highlighting true)).header root)
      ((renderer (o.highlighting false)).header root) := (repaints_header o root).bind fun _ => .pure rfl
  refine hheader.bind fun front => ?_
  refine (sequential_repaintsParts.walk (fun v => repaints_writePart o v) place root []).bind fun r => ?_
  exact Repaints.bind (f := id) (.pure rfl) fun _ => .pure rfl

theorem rendering_eq_parts (place : Place) (root : Node) (s : State) :
    rendering o place root s = (((renderer o).parts place root).run.run s).1.map Parts.text := by
  rw [rendering, Renderer.render_eq_parts, map_eq_pure_bind, run_bind]
  rcases ((renderer o).parts place root).run.run s with ⟨_ | p, t⟩ <;> rfl

theorem parts_highlighting (place : Place) (root : Node) (s : State) :
    (((renderer (o.highlighting true)).parts place root).run.run s).1 =
      (((renderer (o.highlighting false)).parts place root).run.run s).1.map (Parts.repaint s.registry) := by
  obtain ⟨result, t, k, hplain, hpainted, _⟩ := repaints_parts o place root s s.registry rfl
  rw [hplain]
  exact congrArg Prod.fst hpainted

theorem registry_highlighting (place : Place) (root : Node) (s : State) :
    (((renderer (o.highlighting true)).render place root).run.run s).2.registry = s.registry ∨
      (((renderer (o.highlighting true)).render place root).run.run s).2.registry = s.registry.load := by
  obtain ⟨result, t, k, _, hpainted, hload⟩ := repaints_parts o place root s s.registry rfl
  have hrun : ((renderer (o.highlighting true)).parts place root).run.run s =
      (result.map (Parts.repaint s.registry), { t with registry := k }) := hpainted
  rw [Renderer.render_eq_parts, map_eq_pure_bind, run_bind, hrun]
  cases result <;> exact hload

theorem repaint_of_declines {registry : Highlight.Registry} (h : ∀ x ∈ registry.load.chosen, x.Declines) :
    Parts.repaint registry = id := by
  have hnode (node : Node) : node.painted? registry = none := by
    rcases node with ⟨loc, content⟩ | ⟨loc, shape, children⟩
    · cases content with
      | codeBlock code info fenced =>
          simp only [Node.painted?, Leaf.painted?, painted?_eq_none h, Option.map_none]
          split <;> rfl
      | _ => rfl
    · rfl
  have hpart : repaint registry = id := by
    funext part
    rw [repaint, hnode]
    rfl
  funext p
  rw [Parts.repaint, hpart, List.map_id]
  rfl

end

/-- Rendering with highlighters gives the parts that rendering without gives, with each highlighted code in place
of the plain, and fails like it; highlighters that decline everything do not show. Of a document that was read it
fails for numbers of too many digits only. Over any use of the highlighters the package is wanted at most once,
while none is in force, and what is in force stays until another is set. -/
theorem highlighting_local (o : Options) (place : Place) (s : State) :
    (∀ root : Node,
      (((renderer (o.highlighting true)).parts place root).run.run s).1 =
        (((renderer (o.highlighting false)).parts place root).run.run s).1.map (Parts.repaint s.registry) ∧
      (∀ on, rendering (o.highlighting on) place root s =
        (((renderer (o.highlighting on)).parts place root).run.run s).1.map Parts.text) ∧
      errorOf? (rendering (o.highlighting true) place root s) =
        errorOf? (rendering (o.highlighting false) place root s) ∧
      ((∀ h ∈ s.registry.load.chosen, h.Declines) →
        rendering (o.highlighting true) place root s = rendering (o.highlighting false) place root s) ∧
      ((((renderer (o.highlighting true)).render place root).run.run s).2.registry = s.registry ∨
        (((renderer (o.highlighting true)).render place root).run.run s).2.registry = s.registry.load)) ∧
    (∀ (settings : Settings) (file : Option String) (source : String) (root doc : Node),
      parse settings file source = .ok root → Outline.Marks root doc → o.slugify = (fun text => Text.slug text) →
        ((∃ text, rendering (o.highlighting true) place doc s = .ok text) ↔
          (∀ url ∈ doc.addresses, ¬Text.CharRef.HasLong url.toList) ∧
            ∀ text ∈ slugged (o.highlighting true) doc, ¬Text.CharRef.HasLong text.toList)) ∧
    (∀ (r : Highlight.Registry) (calls : List Highlight.Call),
      (r.steps calls).Pairwise (fun a b => a.2.Wants a.1 → ¬b.2.Wants b.1) ∧
      ∀ step ∈ r.steps calls, step.2.Wants step.1 → step.1.chosen = none) ∧
    ∀ (r : Highlight.Registry) (h : Highlight.Highlighter) (calls : List Highlight.Call), r.chosen = some h →
      (∀ call ∈ calls, call.isChoice = false) → (calls.foldl Highlight.Call.effect r).chosen = some h := by
  refine ⟨fun root => ?_, ?_, fun r calls => ?_, fun r h calls hchosen hcalls => Highlight.chosen_foldl hchosen hcalls⟩
  · refine ⟨parts_highlighting o place root s, fun on => rendering_eq_parts _ place root s, ?_, fun hdeclines => ?_,
      registry_highlighting o place root s⟩
    · rw [rendering_eq_parts, rendering_eq_parts, parts_highlighting]
      cases (((renderer (o.highlighting false)).parts place root).run.run s).1 <;> rfl
    · rw [rendering_eq_parts, rendering_eq_parts, parts_highlighting, repaint_of_declines hdeclines, Except.map_id]
      rfl
  · intro settings file source root doc hroot hmarks ho
    have hread : doc.IsRead := hmarks.isRead (isRead_of_parse hroot)
    have hbranch : doc.isBranch = true := hmarks.isBranch (isBranch_of_parse hroot)
    exact (rendering_of_isRead (o := o.highlighting true) ho hread hbranch place s).1
  · exact ⟨Highlight.pairwise_steps r calls, fun step _ hwants => (Highlight.wants_iff.1 hwants).2.1⟩

def paintedSource : String := "~~~ py\nx\n~~~\n\n~~~ c\ny\n~~~"

def paintedDocument : Node :=
  .branch ⟨1, 1, some 7, none⟩ .document
    [.leaf ⟨1, 1, some 3, none⟩ (.codeBlock "x\n" (some "py") true),
      .leaf ⟨5, 1, some 7, none⟩ (.codeBlock "y\n" (some "c") true)]

def bold : Highlight.Highlighter where
  label := "bold"
  supports language := if language = "py" then .ok true else .error "boom"
  paint code _ := .ok (some ("<b>" ++ code ++ "</b>\n\n"))

example : rendering (Options.highlighting {} true) [] paintedDocument { registry := { package := some bold } } =
    .ok "<b>x\n</b>\n<pre><code class=\"language-c\">y\n</code></pre>\n" := by decide +kernel

theorem paintedSource_local :
    parse {} none paintedSource = .ok paintedDocument ∧
    (∃ text, rendering (Options.highlighting {} true) [] paintedDocument { registry := { package := some bold } } =
      .ok text) ∧
    rendering (Options.highlighting {} true) [] paintedDocument { registry := { chosen := some Highlight.mute } } =
      rendering (Options.highlighting {} false) [] paintedDocument
        { registry := { chosen := some Highlight.mute } } ∧
    ([.get, .highlight "x" "py"].foldl Highlight.Call.effect
      { chosen := some Highlight.mute, package := some bold }).chosen = some Highlight.mute := by
  have hparse : parse {} none paintedSource = .ok paintedDocument := ok_of_toOption (by decide +kernel)
  obtain ⟨_, hread, _, _⟩ := highlighting_local {} [] { registry := { package := some bold } }
  obtain ⟨hlocal, _, _, hchosen⟩ := highlighting_local {} [] { registry := { chosen := some Highlight.mute } }
  refine ⟨hparse, ?_, ?_, ?_⟩
  · refine (hread {} none paintedSource paintedDocument _ hparse .refl rfl).2 ⟨?_, ?_⟩
    · exact fun url hurl => (List.not_mem_nil hurl).elim
    · exact fun text htext => (List.not_mem_nil htext).elim
  · refine (hlocal paintedDocument).2.2.2.1 fun h hh => ?_
    cases hh
    exact fun _ _ hsupports => by cases hsupports
  · refine hchosen _ _ _ rfl fun call hcall => ?_
    simp only [List.mem_cons, List.not_mem_nil, or_false] at hcall
    rcases hcall with rfl | rfl <;> rfl

/-- With a highlighter or without, a number of too many digits in an address cannot be written. -/
theorem long_reference_not_highlighted :
    parse {} none (String.ofList (Inline.linkText longAddress)) = .ok (linkDocument none longAddress) ∧
      ¬∃ text, rendering (Options.highlighting {} true) [] (linkDocument none longAddress) {} = .ok text :=
  ⟨parse_link isAddress_longAddress {} none, not_rendering_longAddress _ [] {}⟩

end Html

end MarkdownOutline
