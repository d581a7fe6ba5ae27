import MarkdownOutline.Proofs.Html.Recursive
import MarkdownOutline.Proofs.Render.Run

namespace MarkdownOutline

def errorOf? {ε α : Type} : Except ε α → Option ε
  | .ok _ => none
  | .error e => some e

theorem errorOf?_eq_none {ε α : Type} {x : Except ε α} : errorOf? x = none ↔ ∃ a, x = .ok a := by
  cases x <;> simp [errorOf?]

theorem errorOf?_eq_some {ε α : Type} {x : Except ε α} {e : ε} :
    errorOf? x = some e ↔ x = .error e := by
  cases x <;> simp [errorOf?]

def Leaf.HasMarkup : Leaf → Prop
  | other _ => False
  | codeBlock _ (some info) _ => info = "" ∨ ∃ c ∈ info.toList, Text.isBlank c = false
  | _ => True

def Branch.HasMarkup : Branch → Prop
  | other _ => False
  | _ => True

mutual

def Node.HasMarkup : Node → Prop
  | .leaf _ content => content.HasMarkup
  | .branch _ shape children => shape.HasMarkup ∧ Node.HaveMarkup children

def Node.HaveMarkup : List Node → Prop
  | [] => True
  | child :: rest => child.HasMarkup ∧ Node.HaveMarkup rest

end

namespace Html

section

variable (o : Options)

def leafFault? : Leaf → Option RenderError
  | .codeBlock _ info _ => errorOf? (language? info)
  | .image url _ _ => errorOf? (encodeUrl url)
  | .other kind => some (.noMarkup kind)
  | _ => none

def wantsSlug (h : Heading) : Bool := o.autoHeadingIds && !h.isTitle && (anchor? h).isNone

def branchFault? (shape : Branch) (children : List Node) : Option RenderError :=
  match shape with
  | .heading h =>
    if wantsSlug o h then (errorOf? (o.slugify (plainTexts children))).map .slug else none
  | .link url _ => errorOf? (encodeUrl url)
  | .other kind => some (.noMarkup kind)
  | _ => none

mutual

def treeFault? : Node → Option RenderError
  | .leaf _ content => leafFault? content
  | .branch _ shape children => (branchFault? o shape children).or (treesFault? children)

def treesFault? : List Node → Option RenderError
  | [] => none
  | child :: rest => (treeFault? child).or (treesFault? rest)

end

def headerFault? (root : Node) : Option RenderError :=
  if o.completePage && o.title.isNone then errorOf? (titleText root) else none

def pageFault? (root : Node) : Option RenderError := (headerFault? o root).or (treeFault? o root)

end

def isOfStack : RenderError → Bool
  | .nothingOpen | .emptyItem => true
  | _ => false

section

variable {o : Options} {e : RenderError}

theorem language?_isOfStack {info : Option String} (h : errorOf? (language? info) = some e) :
    isOfStack e = false := by
  rw [errorOf?_eq_some] at h
  unfold language? at h
  split at h
  · cases h
  · cases h
  · split at h
    · cases h
      rfl
    · cases h

theorem encodeUrl_isOfStack {url : String} (h : errorOf? (encodeUrl url) = some e) :
    isOfStack e = false := by
  rw [errorOf?_eq_some] at h
  rw [encodeUrl] at h
  split at h
  · cases h
  · cases h
    rfl

theorem leafFault?_isOfStack {content : Leaf} (h : leafFault? content = some e) :
    isOfStack e = false := by
  cases content with
  | codeBlock code info fenced => exact language?_isOfStack h
  | image url alt title => exact encodeUrl_isOfStack h
  | other kind =>
      cases h
      rfl
  | _ => cases h

theorem branchFault?_isOfStack {shape : Branch} {children : List Node}
    (h : branchFault? o shape children = some e) : isOfStack e = false := by
  cases shape with
  | heading heading =>
      simp only [branchFault?] at h
      split at h
      · obtain ⟨cause, _, rfl⟩ := Option.map_eq_some_iff.1 h
        rfl
      · cases h
  | link url title => exact encodeUrl_isOfStack h
  | other kind =>
      cases h
      rfl
  | _ => cases h

mutual

theorem treeFault?_isOfStack {node : Node} (h : treeFault? o node = some e) :
    isOfStack e = false := by
  cases node with
  | leaf loc content => exact leafFault?_isOfStack h
  | branch loc shape children =>
      rcases Option.or_eq_some_iff.1 h with h | ⟨_, h⟩
      · exact branchFault?_isOfStack h
      · exact treesFault?_isOfStack h

theorem treesFault?_isOfStack {children : List Node} (h : treesFault? o children = some e) :
    isOfStack e = false := by
  cases children with
  | nil => cases h
  | cons child rest =>
      rcases Option.or_eq_some_iff.1 h with h | ⟨_, h⟩
      · exact treeFault?_isOfStack h
      · exact treesFault?_isOfStack h

end

theorem headerFault?_isOfStack {root : Node} (h : headerFault? o root = some e) :
    isOfStack e = false := by
  rw [headerFault?] at h
  split at h
  · cases root with
    | leaf loc content =>
        cases h
        rfl
    | branch loc shape children => cases h
  · cases h

theorem pageFault?_isOfStack {root : Node} (h : pageFault? o root = some e) :
    isOfStack e = false := by
  rcases Option.or_eq_some_iff.1 h with h | ⟨_, h⟩
  · exact headerFault?_isOfStack h
  · exact treeFault?_isOfStack h

end

def Fails {α : Type} (x : HtmlM α) (fault : Option RenderError) : Prop :=
  ∀ s, errorOf? (x.run.run s).1 = fault

namespace Fails

variable {α β : Type}

theorem pure (a : α) : Fails (Pure.pure a) none := fun _ => rfl

theorem throw (e : RenderError) : Fails (α := α) (MonadExcept.throw e) (some e) := fun _ => rfl

theorem lift (x : Except RenderError α) : Fails (ExceptT.mk (Pure.pure x)) (errorOf? x) :=
  fun _ => rfl

theorem bind {x : HtmlM α} {f : α → HtmlM β} {fault more : Option RenderError} (h : Fails x fault)
    (hf : ∀ a, Fails (f a) more) : Fails (x >>= f) (fault.or more) := by
  intro s
  obtain ⟨result, t, hx⟩ : ∃ result t, x.run.run s = (result, t) := ⟨_, _, rfl⟩
  have hs : errorOf? result = fault := by rw [← h s, hx]
  rw [run_bind, hx, ← hs]
  cases result with
  | error e => rfl
  | ok a => exact hf a t

theorem bind_pure {x : HtmlM α} {f : α → HtmlM β} {fault : Option RenderError} (h : Fails x fault)
    (hf : ∀ a, Fails (f a) none) : Fails (x >>= f) fault := by
  simpa using h.bind hf

end Fails

section

variable (o : Options)

theorem run_uniqueSlug (text : String) (s : State) :
    (uniqueSlug o text).run.run s = match o.slugify text with
      | .error e => (.error (.slug e), s)
      | .ok slug =>
        let fresh := freshSlug s.slugs (if slug.isEmpty then "section" else slug)
        (.ok fresh, { s with slugs := s.slugs.insert fresh }) := by
  rw [uniqueSlug]
  cases o.slugify text <;> rfl

theorem fails_uniqueSlug (text : String) :
    Fails (uniqueSlug o text) ((errorOf? (o.slugify text)).map .slug) := by
  intro s
  rw [run_uniqueSlug]
  cases o.slugify text <;> rfl

def painted? (registry : Highlight.Registry) (code language : String) : Option String :=
  match (registry.highlight code language).1 with
  | .ok html => html
  | .error _ => none

theorem run_highlighted? (code language : String) (s : State) :
    (highlighted? code language).run.run s =
      (.ok (painted? s.registry code language),
        { s with registry := (s.registry.highlight code language).2 }) := by
  rw [highlighted?, painted?, run_bind, run_get]
  simp only [run_bind, run_modify]
  cases (s.registry.highlight code language).1 <;> rfl

theorem fails_highlighted? (code language : String) : Fails (highlighted? code language) none := by
  intro s
  rw [run_highlighted?]
  rfl

theorem fails_leaf (content : Leaf) : Fails (leaf o content) (leafFault? content) := by
  cases content with
  | codeBlock code info fenced =>
      refine (Fails.lift _).bind_pure fun language => ?_
      split
      · exact Fails.pure _
      · refine (fails_highlighted? _ _).bind_pure fun painted => ?_
        split <;> exact Fails.pure _
  | image url alt title => exact (Fails.lift _).bind_pure fun _ => Fails.pure _
  | other kind => exact Fails.throw _
  | _ => exact Fails.pure _

theorem fails_headingOpening (h : Heading) (text : String) :
    Fails (headingOpening o h text)
      (if wantsSlug o h then (errorOf? (o.slugify text)).map .slug else none) := by
  rw [headingOpening, wantsSlug]
  cases h.isTitle with
  | true => simpa using Fails.pure _
  | false =>
      cases anchor? h with
      | some anchor => simpa using Fails.pure _
      | none =>
          cases o.autoHeadingIds with
          | false => simpa using Fails.pure _
          | true => simpa using (fails_uniqueSlug o text).bind_pure fun _ => Fails.pure _

theorem fails_opening (a : Around) (shape : Branch) (children : List Node) :
    Fails (opening o a shape children) (branchFault? o shape children) := by
  cases shape with
  | heading h => exact (fails_headingOpening o h _).bind_pure fun _ => Fails.pure _
  | list ordered number tight => cases ordered <;> exact Fails.pure _
  | listItem => cases children <;> exact Fails.pure _
  | link url title => exact (Fails.lift _).bind_pure fun _ => Fails.pure _
  | other kind => exact Fails.throw _
  | _ => exact Fails.pure _

/-- A branch that cannot be closed cannot be opened either. -/
theorem fails_closing (a : Around) (last : Bool) (shape : Branch) (children : List Node) :
    ∃ fault, Fails (closing a last shape) fault ∧
      ∀ inner, (branchFault? o shape children).or (Option.or inner fault) =
        (branchFault? o shape children).or inner := by
  cases shape with
  | other kind => exact ⟨_, Fails.throw _, fun _ => rfl⟩
  | list ordered number tight =>
      cases ordered <;> exact ⟨none, Fails.pure _, fun inner => by rw [Option.or_none]⟩
  | _ => exact ⟨none, Fails.pure _, fun inner => by rw [Option.or_none]⟩

mutual

theorem fails_tree (a : Around) (last : Bool) (node : Node) :
    Fails (tree o a last node) (treeFault? o node) := by
  cases node with
  | leaf loc content => exact fails_leaf o content
  | branch loc shape children =>
      obtain ⟨fault, hclose, hor⟩ := fails_closing o a last shape children
      rw [treeFault?, ← hor]
      refine (fails_opening o a shape children).bind fun front => ?_
      refine (fails_trees (a.inside shape) children).bind fun inner => ?_
      exact hclose.bind_pure fun back => Fails.pure _

theorem fails_trees (a : Around) (children : List Node) :
    Fails (trees o a children) (treesFault? o children) := by
  cases children with
  | nil => exact Fails.pure _
  | cons child rest =>
      refine (fails_tree a rest.isEmpty child).bind fun markup => ?_
      exact (fails_trees a rest).bind_pure fun more => Fails.pure _

end

theorem fails_header (root : Node) : Fails (header o root) (headerFault? o root) := by
  intro s
  rw [header, headerFault?, run_bind, run_modify]
  cases o.completePage with
  | false => rfl
  | true =>
      cases o.title with
      | some title => rfl
      | none =>
          simp only [if_true, Option.isNone_none, Bool.and_self]
          exact ((Fails.lift (titleText root)).bind_pure fun _ => Fails.pure _) _

theorem fails_page (root : Node) : Fails (page o root) (pageFault? o root) := by
  refine (fails_header o root).bind fun front => ?_
  exact (fails_tree o {} true root).bind_pure fun body => Fails.pure _

end

end Html

end MarkdownOutline
