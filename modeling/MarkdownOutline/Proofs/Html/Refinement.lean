import MarkdownOutline.Proofs.Html.Fault
import MarkdownOutline.Proofs.Render.Parts

namespace MarkdownOutline.Html

open Text Markup

section

variable (o : Options) {R : ∀ α : Type, HtmlM α → HtmlM α → Prop} (hR : Sequential R)
variable (hlift : ∀ {α : Type} (x : Except RenderError α), R α (ExceptT.mk (pure x)) (ExceptT.mk (pure x)))

include hR

/-- Only a heading that wants a slug asks for one. -/
theorem related_headingOpening {h : Heading} {text : String}
    (hslug : wantsSlug o h = true → R _ (uniqueSlug o text) (uniqueSlug o text)) :
    R _ (headingOpening o h text) (headingOpening o h text) := by
  rw [headingOpening]
  rw [wantsSlug] at hslug
  cases htitle : h.isTitle with
  | true => exact hR.pure _
  | false =>
      cases hanchor : anchor? h with
      | some anchor => exact hR.pure _
      | none =>
          cases hauto : o.autoHeadingIds with
          | false => exact hR.pure _
          | true =>
              rw [hauto, htitle, hanchor] at hslug
              exact hR.bind (hslug rfl) fun _ => hR.pure _

include hlift

theorem related_leaf (hpaint : ∀ code language, R _ (highlighted? code language) (highlighted? code language))
    (content : Leaf) : R _ (leaf o content) (leaf o content) := by
  cases content with
  | codeBlock code info fenced =>
      refine hR.bind (hlift _) fun language => ?_
      split
      · exact hR.pure _
      · refine hR.bind (hpaint _ _) fun painted => ?_
        split <;> exact hR.pure _
  | image url alt title => exact hR.bind (hlift _) fun _ => hR.pure _
  | other kind => exact hlift _
  | _ => exact hR.pure _

theorem related_opening (a : Around) {shape : Branch} {children : List Node}
    (hslug : ∀ h, shape = .heading h → wantsSlug o h = true →
      R _ (uniqueSlug o (plainTexts children)) (uniqueSlug o (plainTexts children))) :
    R _ (opening o a shape children) (opening o a shape children) := by
  cases shape with
  | heading h => exact hR.bind (related_headingOpening o hR (hslug h rfl)) fun _ => hR.pure _
  | list ordered number tight => cases ordered <;> exact hR.pure _
  | listItem => cases children <;> exact hR.pure _
  | link url title => exact hR.bind (hlift _) fun _ => hR.pure _
  | other kind => exact hlift _
  | _ => exact hR.pure _

theorem related_closing (a : Around) (last : Bool) (shape : Branch) :
    R _ (closing a last shape) (closing a last shape) := by
  cases shape with
  | list ordered number tight => cases ordered <;> exact hR.pure _
  | other kind => exact hlift _
  | _ => exact hR.pure _

theorem related_leave (c : List Opened) (place : Place) (shape : Branch) :
    R _ (leave c place shape) (leave c place shape) := by
  cases shape with
  | paragraph | other => exact hlift _
  | _ => exact hR.pure _

end

/-- `x`, begun with the open branches `c`, does what `y` does and ends with the open branches `d`;
when it fails it leaves any. -/
def Follows {α : Type} (c d : List Opened) (x y : HtmlM α) : Prop :=
  ∀ s, ∃ result t k, y.run.run s = (result, t) ∧
    x.run.run { s with containers := c } = (result, { t with containers := k }) ∧
    ∀ a, result = .ok a → k = d

namespace Follows

variable {α β : Type} {c d e : List Opened}

theorem pure (a : α) : Follows c c (Pure.pure a) (Pure.pure a) :=
  fun s => ⟨.ok a, s, c, rfl, rfl, fun _ _ => rfl⟩

theorem lift (x : Except RenderError α) :
    Follows c c (ExceptT.mk (Pure.pure x)) (ExceptT.mk (Pure.pure x)) :=
  fun s => ⟨x, s, c, rfl, rfl, fun _ _ => rfl⟩

theorem bind {x y : HtmlM α} {f g : α → HtmlM β} (h : Follows c d x y)
    (hf : ∀ a, Follows d e (f a) (g a)) : Follows c e (x >>= f) (y >>= g) := by
  intro s
  obtain ⟨result, t, k, hy, hx, hk⟩ := h s
  simp only [run_bind, hx, hy]
  cases result with
  | error err => exact ⟨.error err, t, k, rfl, rfl, fun _ h => by cases h⟩
  | ok a =>
      rw [hk a rfl]
      exact hf a t

end Follows

def around (c : List Opened) : Around := ⟨c.head?.map Opened.shape, c.tail.head?.map Opened.shape⟩

theorem tightItem?_isSome (c : List Opened) : (tightItem? c).isSome = (around c).isTightItem := by
  rcases c with _ | ⟨⟨_, item, _⟩, _ | ⟨⟨_, list, _⟩, c⟩⟩
  · rfl
  · cases item <;> rfl
  · simp only [tightItem?, around, Around.isTightItem, List.head?_cons, List.tail_cons,
      Option.map_some]
    split <;> split <;> simp_all

theorem head?_of_tightItem? {c : List Opened} {item : Opened} (h : tightItem? c = some item) :
    c.head? = some item := by
  unfold tightItem? at h
  split at h
  · split at h
    · exact h
    · cases h
  · cases h

theorem inTightList_eq (c : List Opened) : inTightList c = (around c).isTightList := by
  rcases c with _ | ⟨⟨_, shape, _⟩, c⟩
  · rfl
  · cases shape with
    | list ordered number tight => cases tight <;> rfl
    | _ => rfl

theorem enter_eq_opening (o : Options) (c : List Opened) (loc : Location) (shape : Branch)
    (children : List Node) :
    enter o c (.branch loc shape children) shape children = opening o (around c) shape children := by
  cases shape with
  | heading h =>
      simp only [enter, opening, headingOpening]
      cases h.isTitle
      · cases anchor? h <;> cases o.autoHeadingIds <;> simp [Node.plainText]
      · simp
  | paragraph => simp only [enter, opening, tightItem?_isSome]
  | list ordered number tight => cases ordered <;> simp [enter, opening, listTag]
  | listItem =>
      simp only [enter, opening, inTightList_eq]
      cases children with
      | nil => simp
      | cons child rest => cases (around c).isTightList <;> cases h : isParagraph child <;> simp [h]
  | _ => rfl

def Seated : List Opened → Place → Bool → Prop
  | [], _, _ => True
  | parent :: _, place, last =>
    ∃ i, place = i :: parent.place ∧ i < parent.size ∧ last = decide (i + 1 = parent.size)

theorem leaveParagraph_eq {c : List Opened} {place : Place} {last : Bool} (h : Seated c place last) :
    leaveParagraph c place = .ok
      (if (around c).isTightItem then (if last then [] else [newline]) else [finish "p", newline]) := by
  rw [← tightItem?_isSome, leaveParagraph]
  cases hitem : tightItem? c with
  | none => rfl
  | some item =>
      obtain ⟨c, rfl⟩ : ∃ d, c = item :: d := List.head?_eq_some_iff.1 (head?_of_tightItem? hitem)
      obtain ⟨i, rfl, hi, rfl⟩ := h
      cases hsize : item.size with
      | zero => omega
      | succ n => simp [hsize]

theorem leave_eq_closing {c : List Opened} {place : Place} {last : Bool} (h : Seated c place last)
    (shape : Branch) : leave c place shape = closing (around c) last shape := by
  cases shape with
  | paragraph =>
      simp only [leave, closing, leaveParagraph_eq h]
      rfl
  | list ordered number tight => cases ordered <;> rfl
  | _ => rfl

section

variable (o : Options) {c : List Opened}

theorem follows_uniqueSlug (text : String) : Follows c c (uniqueSlug o text) (uniqueSlug o text) := by
  intro s
  simp only [run_uniqueSlug]
  cases o.slugify text with
  | error e => exact ⟨_, _, c, rfl, rfl, fun _ h => by cases h⟩
  | ok slug => exact ⟨_, _, c, rfl, rfl, fun _ _ => rfl⟩

theorem follows_highlighted? (code language : String) :
    Follows c c (highlighted? code language) (highlighted? code language) := by
  intro s
  simp only [run_highlighted?]
  exact ⟨_, _, c, rfl, rfl, fun _ _ => rfl⟩

theorem sequential_follows (c : List Opened) : Sequential fun α (x y : HtmlM α) => Follows c c x y where
  pure := Follows.pure
  bind := Follows.bind

theorem follows_leaf (content : Leaf) : Follows c c (leaf o content) (leaf o content) :=
  related_leaf o (sequential_follows c) Follows.lift follows_highlighted? content

theorem follows_opening (a : Around) (shape : Branch) (children : List Node) :
    Follows c c (opening o a shape children) (opening o a shape children) :=
  related_opening o (sequential_follows c) Follows.lift a fun _ _ _ => follows_uniqueSlug o _

theorem follows_closing (a : Around) (last : Bool) (shape : Branch) :
    Follows c c (closing a last shape) (closing a last shape) :=
  related_closing (sequential_follows c) Follows.lift a last shape

def State.push (s : State) (place : Place) (shape : Branch) (children : List Node) : State :=
  { s with containers := ⟨place, shape, children.length⟩ :: s.containers }

theorem run_entering (place : Place) (loc : Location) (shape : Branch) (children : List Node)
    (s : State) :
    (visit o ⟨place, .branch loc shape children, true⟩).run.run s =
      match (opening o (around s.containers) shape children).run.run s with
      | (.ok markup, t) => (.ok markup, t.push place shape children)
      | (.error e, t) => (.error e, t) := by
  simp only [visit, if_true, run_bind, run_get, enter_eq_opening]
  rcases (opening o (around s.containers) shape children).run.run s with ⟨_ | markup, t⟩ <;> rfl

theorem run_leaving (place : Place) (loc : Location) (shape : Branch) (children : List Node) (s : State) :
    (visit o ⟨place, .branch loc shape children, false⟩).run.run s =
      match s.containers with
      | [] => (.error .nothingOpen, s)
      | _ :: outer => (leave outer place shape).run.run { s with containers := outer } := by
  simp only [visit, Bool.false_eq_true, if_false, run_bind, run_get]
  cases s.containers <;> rfl

theorem follows_entering (place : Place) (loc : Location) (shape : Branch) (children : List Node) :
    Follows c (⟨place, shape, children.length⟩ :: c)
      (visit o ⟨place, .branch loc shape children, true⟩) (opening o (around c) shape children) := by
  intro s
  obtain ⟨result, t, k, hy, hx, hk⟩ := follows_opening o (c := c) (around c) shape children s
  rw [run_entering, hx, hy]
  cases result with
  | error e => exact ⟨.error e, t, k, rfl, rfl, fun _ h => by cases h⟩
  | ok markup => exact ⟨.ok markup, t, _, rfl, rfl, fun _ _ => by rw [hk markup rfl]⟩

theorem follows_leaving {place : Place} {last : Bool} (h : Seated c place last) (loc : Location)
    (shape : Branch) (children : List Node) :
    Follows (⟨place, shape, children.length⟩ :: c) c
      (visit o ⟨place, .branch loc shape children, false⟩) (closing (around c) last shape) := by
  intro s
  simp only [visit, Bool.false_eq_true, if_false, run_bind, run_get, run_modify, leave_eq_closing h]
  exact follows_closing (around c) last shape s

def emit (visits : List Visit) : HtmlM (List Markup) := List.flatten <$> visits.mapM (visit o)

@[simp] theorem emit_nil : emit o [] = pure [] := by simp [emit]

theorem emit_cons (v : Visit) (visits : List Visit) :
    emit o (v :: visits) = (do
      let markup ← visit o v
      return markup ++ (← emit o visits)) := by
  simp [emit]

theorem emit_append (visits more : List Visit) :
    emit o (visits ++ more) = (do
      let markup ← emit o visits
      return markup ++ (← emit o more)) := by
  simp [emit]

mutual

theorem follows_tree {c : List Opened} {place : Place} {last : Bool} (h : Seated c place last)
    (node : Node) : Follows c c (emit o (node.visits place)) (tree o (around c) last node) := by
  cases node with
  | leaf loc content =>
      simp only [Node.visits, emit_cons, emit_nil, pure_bind, List.append_nil, bind_pure]
      exact follows_leaf o content
  | branch loc shape children =>
      simp only [Node.visits, emit_cons, emit_append, emit_nil, pure_bind, List.append_nil, bind_pure,
        bind_assoc]
      refine (follows_entering o place loc shape children).bind fun front => ?_
      have htrees := follows_trees (c := c) ⟨place, shape, children.length⟩ 0 children (Nat.zero_add _)
      refine htrees.bind fun inner => ?_
      refine (follows_leaving o h loc shape children).bind fun back => ?_
      rw [List.append_assoc]
      exact Follows.pure _

theorem follows_trees {c : List Opened} (parent : Opened) (index : Nat) (children : List Node)
    (h : index + children.length = parent.size) :
    Follows (parent :: c) (parent :: c) (emit o (Node.visitsAll parent.place index children))
      (trees o (around (parent :: c)) children) := by
  cases children with
  | nil =>
      simp only [Node.visitsAll, emit_nil]
      exact Follows.pure _
  | cons child rest =>
      simp only [Node.visitsAll, emit_append]
      have hseat : Seated (parent :: c) (index :: parent.place) rest.isEmpty := by
        refine ⟨index, rfl, ?_, ?_⟩
        · simp only [List.length_cons] at h; omega
        · cases rest with
          | nil => simpa using h
          | cons => simp at h ⊢; omega
      refine (follows_tree hseat child).bind fun markup => ?_
      refine (follows_trees parent (index + 1) rest ?_).bind fun more => Follows.pure _
      simp only [List.length_cons] at h; omega

end

theorem write_append (markup more : List Markup) : write (markup ++ more) = write markup ++ write more := by
  simp [write]

theorem textOf_mapM_visit (visits : List Visit) :
    (textOf <$> visits.mapM fun v => do return (v, write (← visit o v)) : HtmlM String) =
      write <$> emit o visits := by
  induction visits with
  | nil => simp [write]
  | cons v visits ih =>
      simp only [List.mapM_cons, emit_cons, map_bind, map_pure, bind_assoc, pure_bind]
      apply bind_congr
      intro markup
      have hcons (x : HtmlM (List (Visit × String))) :
          (do return textOf ((v, write markup) :: (← x))) =
            (do return write markup ++ (← textOf <$> x)) := by
        simp [textOf]
      rw [hcons, ih]
      simp [write_append]

theorem render_eq_emit (place : Place) (root : Node) :
    (renderer o).render place root = (do
      let front ← header o root
      let body ← emit o (root.visits place)
      return write front ++ write body ++ write (if o.completePage then pageEnd else [])) := by
  rw [Renderer.render_eq_parts, Renderer.parts_unsteered _ (fun v => do return write (← visit o v))]
  · simp only [renderer, map_bind, bind_assoc, pure_bind, map_pure, Parts.text]
    apply bind_congr
    intro front
    have h := congrArg (fun x => do
        return write front ++ (← x) ++ write (if o.completePage then pageEnd else []))
      (textOf_mapM_visit o (root.visits place))
    simpa only [bind_map_left, bind_assoc, pure_bind] using h
  · intro v
    simp [renderer]

theorem run_header_containers (root : Node) (s : State) :
    ((header o root).run.run s).2.containers = [] := by
  rw [header, run_bind, run_modify]
  cases o.completePage with
  | false => rfl
  | true =>
      simp only [if_true]
      cases o.title with
      | some title => rfl
      | none =>
          simp only [run_bind, run_lift]
          cases titleText root <;> rfl

theorem run_render (place : Place) (root : Node) (s : State) :
    ∃ result t k, (page o root).run.run s = (result, t) ∧
      ((renderer o).render place root).run.run s = (result, { t with containers := k }) ∧
      ∀ text, result = .ok text → k = [] := by
  rw [render_eq_emit, page, run_bind, run_bind]
  obtain ⟨front, t, hfront⟩ : ∃ front t, (header o root).run.run s = (front, t) := ⟨_, _, rfl⟩
  have hc := run_header_containers o root s
  rw [hfront] at hc ⊢
  cases front with
  | error e => exact ⟨.error e, t, t.containers, rfl, rfl, fun _ h => by cases h⟩
  | ok front =>
      have hseat : Seated [] place true := trivial
      have h := (follows_tree o hseat root).bind fun body => Follows.pure
          (write front ++ write body ++ write (if o.completePage then pageEnd else []))
      obtain ⟨result, u, k, hpage, hrender, hk⟩ := h t
      rw [← show t.containers = [] from hc] at hrender
      exact ⟨result, u, k, hpage, hrender, hk⟩

/-- Rendering with a stack of open branches gives the text of rendering by recursion, or fails for
the same reason, and it fails exactly at the first fault of the tree. The stack is never read or
popped beyond its end, and it is empty after the walk. -/
theorem render_refines_page (place : Place) (root : Node) (s : State) :
    ∃ result t k, (page o root).run.run s = (result, t) ∧
      ((renderer o).render place root).run.run s = (result, { t with containers := k }) ∧
      (∀ text, result = .ok text → k = []) ∧
      errorOf? result = pageFault? o root ∧
      result ≠ .error .nothingOpen ∧ result ≠ .error .emptyItem := by
  obtain ⟨result, t, k, hpage, hrender, hk⟩ := run_render o place root s
  have hfault : errorOf? result = pageFault? o root := by rw [← fails_page o root s, hpage]
  refine ⟨result, t, k, hpage, hrender, hk, hfault, ?_, ?_⟩
  · rintro rfl
    exact absurd (pageFault?_isOfStack hfault.symm) (by decide)
  · rintro rfl
    exact absurd (pageFault?_isOfStack hfault.symm) (by decide)

end

end MarkdownOutline.Html
