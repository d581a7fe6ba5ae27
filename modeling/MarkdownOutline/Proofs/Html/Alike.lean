import MarkdownOutline.Proofs.Html.Slugs

namespace MarkdownOutline.Html

open Markup

/-- Two stacks answer alike what a visit asks them: whether a paragraph is the text of a tight item, and at its end
whether it is the last child there, and whether an item that begins with a paragraph lies in a tight list. -/
def SeesAlike (v : Visit) (c d : List Opened) : Prop :=
  match v.node, v.entering with
  | .branch _ .paragraph _, true => (tightItem? c).isSome = (tightItem? d).isSome
  | .branch _ .paragraph _, false => leaveParagraph c v.place = leaveParagraph d v.place
  | .branch _ .listItem children, true => children.head?.any isParagraph = true → inTightList c = inTightList d
  | _, _ => True

section

variable {o : Options} {v : Visit} {c d : List Opened}

theorem SeesAlike.symm (h : SeesAlike v c d) : SeesAlike v d c := by
  rcases v with ⟨place, ⟨loc, content⟩ | ⟨loc, shape, children⟩, _ | _⟩
  · trivial
  · trivial
  · cases shape with
    | paragraph => exact Eq.symm h
    | _ => trivial
  · cases shape with
    | paragraph => exact Eq.symm h
    | listItem => exact fun hfirst => (h hfirst).symm
    | _ => trivial

theorem visitIn_congr (h : SeesAlike v c d) : visitIn o c v = visitIn o d v := by
  rcases v with ⟨place, ⟨loc, content⟩ | ⟨loc, shape, children⟩, _ | _⟩
  · rfl
  · rfl
  · cases shape with
    | paragraph => exact congrArg (fun x => ExceptT.mk (pure x)) h
    | _ => rfl
  · cases shape with
    | paragraph =>
        have hsome : (tightItem? c).isSome = (tightItem? d).isSome := h
        simp only [visitIn, enter, hsome]
    | listItem =>
        have hinline : (inTightList c && children.head?.any isParagraph) =
            (inTightList d && children.head?.any isParagraph) := by
          cases hfirst : children.head?.any isParagraph with
          | false => rw [Bool.and_false, Bool.and_false]
          | true => rw [show inTightList c = inTightList d from h hfirst]
        simp only [visitIn, enter, hinline]
    | _ => rfl

def Written (o : Options) (registry : Highlight.Registry) (c : List Opened) (v : Visit) (text : String) : Prop :=
  ∃ s t markup, s.registry.load = registry.load ∧ (visitIn o c v).run.run s = (.ok markup, t) ∧ write markup = text

inductive SameText (o : Options) (v : Visit) : String → String → Prop
  | same (text : String) : SameText o v text text
  | slugged {p : Placed} (h : asked? o v = some p) (slug slug' : String) :
      SameText o v (anchoredTag p.heading slug) (anchoredTag p.heading slug')

variable {registry : Highlight.Registry} {text text' : String}

theorem Written.congr (h : Written o registry c v text) (halike : SeesAlike v c d) : Written o registry d v text := by
  rwa [Written, ← visitIn_congr halike]

theorem Written.sameText (h : Written o registry c v text) (h' : Written o registry c v text') :
    SameText o v text text' := by
  obtain ⟨s, t, markup, hs, hrun, rfl⟩ := h
  obtain ⟨s', t', markup', hs', hrun', rfl⟩ := h'
  cases hv : asked? o v with
  | none =>
      have hresult := (detached_visitIn o hv c s s' (hs.trans hs'.symm)).1
      rw [hrun, hrun'] at hresult
      rw [Except.ok.inj hresult]
      exact .same _
  | some p =>
      obtain ⟨base, _, htag, _⟩ := run_visitIn_asked hv hrun
      obtain ⟨base', _, htag', _⟩ := run_visitIn_asked hv hrun'
      rw [htag, htag']
      exact .slugged hv _ _

theorem load_of_run_visitIn {s t : State} {markup : List Markup}
    (h : (visitIn o c v).run.run s = (.ok markup, t)) : t.registry.load = s.registry.load := by
  cases hv : asked? o v with
  | none =>
      have hload := (detached_visitIn o hv c s s rfl).2.1
      rwa [h] at hload
  | some p =>
      obtain ⟨_, _, _, rfl⟩ := run_visitIn_asked hv h
      rfl

/-- What can be written at all can be written from any state with the same highlighters. -/
theorem Written.exists_run (h : Written o registry c v text) {s : State} (hs : s.registry.load = registry.load) :
    ∃ markup t, (visitIn o c v).run.run s = (.ok markup, t) := by
  obtain ⟨s', t', markup', hs', hrun', _⟩ := h
  have hnone : errorOf? ((visitIn o c v).run.run s).1 = none := by
    cases hv : asked? o v with
    | none =>
        rw [(detached_visitIn o hv c s s' (hs.trans hs'.symm)).1, hrun']
        rfl
    | some p =>
        have hfails : Fails (visitIn o c v) ((errorOf? (o.slugify (plainTexts p.children))).map .slug) := by
          rw [visitIn_asked o hv]
          exact (fails_uniqueSlug o _).bind_pure fun _ => Fails.pure _
        rw [hfails s, ← hfails s', hrun']
        rfl
  obtain ⟨markup, hmarkup⟩ := errorOf?_eq_none.1 hnone
  exact ⟨markup, _, Prod.ext hmarkup rfl⟩

theorem leaveParagraph_cases (c : List Opened) (place : Place) {markup : List Markup}
    (h : leaveParagraph c place = .ok markup) : markup ∈ [[finish "p", newline], [], [newline]] := by
  unfold leaveParagraph at h
  split at h
  · cases h
    exact List.mem_cons_self
  · split at h
    · cases h
    · cases h
      split <;> simp

theorem write_injOn_leaveParagraph {markup markup' : List Markup}
    (h : markup ∈ [[finish "p", newline], [], [newline]]) (h' : markup' ∈ [[finish "p", newline], [], [newline]])
    (hwrite : write markup = write markup') : markup = markup' := by
  have hall : ∀ m ∈ [[finish "p", newline], [], [newline]], ∀ m' ∈ [[finish "p", newline], [], [newline]],
      write m = write m' → m = m' := by decide
  exact hall markup h markup' h' hwrite

theorem seesAlike_of_written (h : Written o registry c v text) (h' : Written o registry d v text) :
    SeesAlike v c d := by
  obtain ⟨s, t, markup, _, hrun, rfl⟩ := h
  obtain ⟨s', t', markup', _, hrun', hwrite⟩ := h'
  rcases v with ⟨place, ⟨loc, content⟩ | ⟨loc, shape, children⟩, _ | _⟩
  · trivial
  · trivial
  · cases shape with
    | paragraph =>
        have hc : leaveParagraph c place = .ok markup := congrArg Prod.fst hrun
        have hd : leaveParagraph d place = .ok markup' := congrArg Prod.fst hrun'
        have hsame :=
          write_injOn_leaveParagraph (leaveParagraph_cases d place hd) (leaveParagraph_cases c place hc) hwrite
        exact hc.trans ((congrArg Except.ok hsame.symm).trans hd.symm)
    | _ => trivial
  · cases shape with
    | paragraph =>
        cases hrun
        cases hrun'
        have hne : write [] ≠ write [start "p" []] := by decide
        change (tightItem? c).isSome = (tightItem? d).isSome
        cases hc : (tightItem? c).isSome <;> cases hd : (tightItem? d).isSome <;> simp_all
    | listItem =>
        intro hfirst
        have hchildren : children.isEmpty = false := by
          cases children with
          | nil => cases hfirst
          | cons => rfl
        cases hrun
        cases hrun'
        have hne : write [start "li" []] ≠ write [start "li" [], newline] := by decide
        cases hc : inTightList c <;> cases hd : inTightList d <;> simp_all
    | _ => trivial

theorem sameText_iff (h : Written o registry c v text) (h' : Written o registry d v text') :
    SameText o v text text' ↔ SeesAlike v c d := by
  constructor
  · rintro (_ | ⟨hv, slug, slug'⟩)
    · exact seesAlike_of_written h h'
    · obtain ⟨rfl, _⟩ := eq_of_asked? o hv
      trivial
  · intro halike
    exact (h.congr halike).sameText h'

end

end MarkdownOutline.Html
