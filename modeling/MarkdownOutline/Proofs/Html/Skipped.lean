import MarkdownOutline.Proofs.Html.Surrounded

namespace MarkdownOutline.Html

open Markup

def WrittenPart (o : Options) (registry : Highlight.Registry) (w : Visit × List Opened)
    (part : Visit × String) : Prop :=
  part.1 = w.1 ∧ Written o registry w.2 w.1 part.2

def ShownPart (o : Options) (registry : Highlight.Registry) (w : Visit × Option (List Opened))
    (part : Visit × String) : Prop :=
  part.1 = w.1 ∧ ∃ c, w.2 = some c ∧ Written o registry c w.1 part.2

def SamePart (o : Options) (part part' : Visit × String) : Prop := part.1 = part'.1 ∧ SameText o part'.1 part.2 part'.2

def AsksStack (v : Visit) : Prop :=
  match v.node with
  | .branch _ .paragraph _ | .branch _ .listItem _ => True
  | _ => False

def SameUnlessAsked (o : Options) (part part' : Visit × String) : Prop :=
  part.1 = part'.1 ∧ (¬AsksStack part'.1 → SameText o part'.1 part.2 part'.2)

theorem seesAlike_of_not_asksStack {v : Visit} (h : ¬AsksStack v) (c d : List Opened) : SeesAlike v c d := by
  rcases v with ⟨place, ⟨loc, content⟩ | ⟨loc, shape, children⟩, _ | _⟩
  any_goals trivial
  all_goals
    cases shape with
    | paragraph | listItem => exact absurd trivial h
    | _ => trivial

section

variable {o : Options} {registry : Highlight.Registry}

theorem written_of_run {visits : List Visit} {body : List (Visit × String)} {s u : State}
    (hs : s.registry.load = registry.load) (h : (visits.mapM (Outline.record o)).run.run s = (.ok body, u)) :
    List.Forall₂ (ShownPart o registry) (watched s.containers visits) body := by
  induction visits generalizing s body with
  | nil =>
      cases h
      exact .nil
  | cons v visits ih =>
      obtain ⟨markup, t, more, hmarkup, hmore, rfl⟩ := Outline.exists_of_run_record_cons h
      obtain ⟨c, t', hc, hwritten, rfl⟩ := (run_visit_ok_iff o).1 hmarkup
      have hload : t'.registry.load = registry.load := (load_of_run_visitIn hwritten).trans hs
      exact .cons ⟨rfl, c, hc, s, t', markup, hs, hwritten, rfl⟩
        (ih (s := { t' with containers := turn v s.containers }) hload hmore)

theorem samePart_iff_shownAlike {real : Visit × List Opened} {w : Visit × Option (List Opened)}
    {part part' : Visit × String} (hpart : WrittenPart o registry real part) (hvisit : w.1 = real.1)
    (hpart' : ShownPart o registry w part') :
    (SamePart o part' part ↔ ShownAlike w real) ∧ SameUnlessAsked o part' part := by
  rcases real with ⟨v, d⟩
  rcases w with ⟨_, _⟩
  obtain rfl := hvisit
  obtain ⟨hvisit, htext⟩ := hpart
  obtain ⟨hvisit', c, rfl, htext'⟩ := hpart'
  have hsame : part'.1 = part.1 := hvisit'.trans hvisit.symm
  have hiff : SameText o part.1 part'.2 part.2 ↔ SeesAlike part.1 c d := by
    rw [hvisit]
    exact sameText_iff htext' htext
  refine ⟨⟨fun h => ⟨rfl, c, rfl, hvisit ▸ hiff.1 h.2⟩, ?_⟩, hsame, fun hnot => ?_⟩
  · rintro ⟨_, _, hc, h⟩
    cases hc
    exact ⟨hsame, hiff.2 (hvisit ▸ h)⟩
  · exact hiff.2 (seesAlike_of_not_asksStack hnot c d)

/-- Two walks over some visits write the same at each visit at which the stack answers what the branches around
the node answer, and only there. -/
theorem samePart_iff_of_written {steps : List (Visit × List Opened)} {shown : List (Visit × Option (List Opened))}
    {body body' : List (Visit × String)} (hbody : List.Forall₂ (WrittenPart o registry) steps body)
    (hvisits : shown.map Prod.fst = steps.map Prod.fst) (hbody' : List.Forall₂ (ShownPart o registry) shown body') :
    (List.Forall₂ (SamePart o) body' body ↔ List.Forall₂ ShownAlike shown steps) ∧
      List.Forall₂ (SameUnlessAsked o) body' body := by
  induction hbody generalizing shown body' with
  | nil =>
      obtain rfl := List.map_eq_nil_iff.1 hvisits
      cases hbody'
      simp
  | cons hpart _ ih =>
      cases hbody' with
      | nil => cases hvisits
      | cons hpart' hbody' =>
          obtain ⟨hvisit, hvisits⟩ := List.cons.inj hvisits
          obtain ⟨hsame, hothers⟩ := ih hvisits hbody'
          obtain ⟨hstep, hother⟩ := samePart_iff_shownAlike hpart hvisit hpart'
          exact ⟨by rw [List.forall₂_cons, List.forall₂_cons, hstep, hsame], .cons hother hothers⟩

theorem leaveParagraph_total (c : List Opened) (place : Place) :
    (∃ markup, leaveParagraph c place = .ok markup) ∨ leaveParagraph c place = .error .emptyItem := by
  rw [leaveParagraph]
  cases tightItem? c with
  | none => exact .inl ⟨_, rfl⟩
  | some item =>
      dsimp only
      cases item.size with
      | zero => exact .inr rfl
      | succ last => exact .inl ⟨_, rfl⟩

theorem run_visitIn_of_written {v : Visit} {c d : List Opened} {text : String} (h : Written o registry d v text)
    {s : State} (hs : s.registry.load = registry.load) :
    (∃ markup t, (visitIn o c v).run.run s = (.ok markup, t)) ∨
      ((visitIn o c v).run.run s).1 = .error .emptyItem := by
  by_cases hasks : AsksStack v
  · rcases v with ⟨place, ⟨loc, content⟩ | ⟨loc, shape, children⟩, entering⟩
    · cases hasks
    · cases shape with
      | paragraph =>
          cases entering with
          | true => exact .inl ⟨_, s, rfl⟩
          | false =>
              rcases leaveParagraph_total c place with ⟨markup, hmarkup⟩ | hempty
              · exact .inl ⟨markup, s, congrArg (fun result => (result, s)) hmarkup⟩
              · exact .inr hempty
      | listItem => cases entering <;> exact .inl ⟨_, s, rfl⟩
      | _ => cases hasks
  · exact .inl ((h.congr (seesAlike_of_not_asksStack hasks d c)).exists_run hs)

theorem exists_run_of_shownAlike {steps : List (Visit × List Opened)} {body : List (Visit × String)}
    (hbody : List.Forall₂ (WrittenPart o registry) steps body) {s : State} (hs : s.registry.load = registry.load)
    (halike : List.Forall₂ ShownAlike (watched s.containers (steps.map Prod.fst)) steps) :
    ∃ body' u, ((steps.map Prod.fst).mapM (Outline.record o)).run.run s = (.ok body', u) := by
  induction hbody generalizing s with
  | nil => exact ⟨[], s, rfl⟩
  | @cons real part steps body hpart hbody ih =>
      obtain ⟨⟨_, c, hc, hseen⟩, hrest⟩ := List.forall₂_cons.1 halike
      have hwritten : Written o registry c real.1 part.2 := hpart.2.congr hseen.symm
      obtain ⟨markup, t, hrun⟩ := hwritten.exists_run hs
      have hload : t.registry.load = registry.load := (load_of_run_visitIn hrun).trans hs
      have hvisit := (run_visit_ok_iff o).2 ⟨c, t, hc, hrun, rfl⟩
      obtain ⟨more, u, hmore⟩ := ih (s := { t with containers := turn real.1 s.containers }) hload hrest
      exact ⟨_, _, Outline.run_record_cons hvisit hmore⟩

/-- A walk whose stack never runs empty can only fail at a paragraph that it takes to be in an item without
children. -/
theorem run_record_of_written {steps : List (Visit × List Opened)} {body : List (Visit × String)}
    (hbody : List.Forall₂ (WrittenPart o registry) steps body) {s : State} (hs : s.registry.load = registry.load)
    (hshown : ∀ w ∈ watched s.containers (steps.map Prod.fst), w.2.isSome = true) :
    (∃ body' u, ((steps.map Prod.fst).mapM (Outline.record o)).run.run s = (.ok body', u)) ∨
      (((steps.map Prod.fst).mapM (Outline.record o)).run.run s).1 = .error .emptyItem := by
  induction hbody generalizing s with
  | nil => exact .inl ⟨[], s, rfl⟩
  | @cons real part steps body hpart hbody ih =>
      obtain ⟨hsome, hshown⟩ := List.forall_mem_cons.1 hshown
      obtain ⟨c, hc⟩ := Option.isSome_iff_exists.1 hsome
      rcases run_visitIn_of_written (c := c) hpart.2 hs with ⟨markup, t, hrun⟩ | hempty
      · have hload : t.registry.load = registry.load := (load_of_run_visitIn hrun).trans hs
        have hvisit := (run_visit_ok_iff o).2 ⟨c, t, hc, hrun, rfl⟩
        rcases ih (s := { t with containers := turn real.1 s.containers }) hload hshown with ⟨more, u, hmore⟩ | hmore
        · exact .inl ⟨_, u, Outline.run_record_cons hvisit hmore⟩
        · refine .inr ?_
          have hrecord : (Outline.record o real.1).run.run s = (.ok (real.1, write markup), _) :=
            run_bind_of_ok hvisit _
          rw [List.map_cons, List.mapM_cons, run_bind_of_ok hrecord]
          exact run_bind_of_error hmore _
      · have hvisit := (fst_run_visit o hc).trans hempty
        rw [List.map_cons, List.mapM_cons]
        exact .inr (run_bind_of_error (run_bind_of_error hvisit _) _)

end

section

/-- A rendering that writes at each visit outside the branches `S` what `R` relates to the text of another one, and
nothing at any other visit. -/
structure Spares (R : Visit × String → Visit × String → Prop) (S : Place → Bool) (place : Place)
    (skipped parts : Parts) : Prop where
  header : skipped.header = parts.header
  body : List.Forall₂ R skipped.body (parts.body.filter fun part => Outside S place part.1)
  footer : skipped.footer = parts.footer

variable {o : Options} {place : Place} {root : Node} {s u : State} {parts : Parts}

theorem filter_visits (S : Place → Bool) (place : Place) (root : Node) :
    (root.visits place).filter (fun v => Outside S place v) = root.kept S place := by
  rw [← kept_none, ← map_fst_surrounded (fun _ => false) [], List.filter_map, ← map_fst_surrounded S []]
  exact congrArg (List.map Prod.fst) (filter_surrounded S [] place root)

theorem written_outside {registry : Highlight.Registry} {body : List (Visit × String)}
    (hregistry : s.registry.load = registry.load) (hs : s.containers = [])
    (h : ((root.visits place).mapM (Outline.record o)).run.run s = (.ok body, u)) :
    List.Forall₂ (WrittenPart o registry) (surrounded S [] place root)
      (body.filter fun part => Outside S place part.1) := by
  have hwritten := written_of_run hregistry h
  rw [hs, ← List.append_nil (root.visits place), watched_visits, watched, List.append_nil,
    List.forall₂_map_left_iff] at hwritten
  have hbody : List.Forall₂ (WrittenPart o registry) (surrounded (fun _ => false) [] place root) body :=
    hwritten.imp fun w part ⟨hvisit, c, hc, htext⟩ => ⟨hvisit, Option.some.inj hc ▸ htext⟩
  rw [← filter_surrounded S]
  refine List.rel_filter (fun w part hpart => ?_) hbody
  simp only [hpart.1]

theorem exists_body_of_parts (S : Place → Bool) (h : ((renderer o).parts place root).run.run s = (.ok parts, u)) :
    ∃ t, t.containers = [] ∧ t.slugs = {} ∧
      ((root.visits place).mapM (Outline.record o)).run.run t = (.ok parts.body, u) ∧
      (∀ body u', ((root.kept S place).mapM (Outline.record o)).run.run t = (.ok body, u') →
        (((renderer o).skipping S).parts place root).run.run s = (.ok ⟨parts.header, body, parts.footer⟩, u')) ∧
      ∀ e, (((root.kept S place).mapM (Outline.record o)).run.run t).1 = .error e →
        ((((renderer o).skipping S).parts place root).run.run s).1 = .error e := by
  rw [Outline.parts_eq, Outline.run_partsAt_ok_iff] at h
  obtain ⟨front, t, hfront, hbody, hheader, hfooter⟩ := h
  have hcontainers := run_header_containers o root s
  have hslugs := run_header_slugs o root s
  rw [hfront] at hcontainers hslugs
  refine ⟨t, hcontainers, hslugs, hbody, fun body u' hrun => ?_, fun e hrun => ?_⟩
  · rw [Outline.parts_skipping_eq, Outline.run_partsAt_ok_iff]
    exact ⟨front, t, hfront, hrun, hheader, hfooter⟩
  · rw [Outline.parts_skipping_eq, Outline.partsAt, run_bind_of_ok hfront]
    exact run_bind_of_error hrun _

/-- The slugs at some visits are handed out in their order from the texts of their headings. -/
def Slugged (o : Options) (visits : List Visit) (body : List (Visit × String)) : Prop :=
  ∃ bases : List String,
    List.Forall₂ (fun p base => IsBase o (plainTexts p.children) base) (visits.filterMap (asked? o)) bases ∧
    askedParts o body = List.zipWith (fun p slug => (p, anchoredTag p.heading slug)) (visits.filterMap (asked? o))
      (handOut {} bases)

/-- Passing over the children of `S` leaves the rest of a rendering as it is, but for the slugs, exactly if the stack
goes on to answer what the branches around each node answer. This is so if all items are in lists and no branch of `S`
is in a list. In any case the rendering only fails at a paragraph that it takes to be in an item without children, only
the texts of paragraphs and items outside of `S` are ever different, and the slugs are those of the headings outside
of `S` alone. -/
theorem skipping_written (S : Place → Bool) (h : ((renderer o).parts place root).run.run s = (.ok parts, u)) :
    ((∃ skipped u', (((renderer o).skipping S).parts place root).run.run s = (.ok skipped, u') ∧
        Spares (SamePart o) S place skipped parts) ↔ Undisturbed S place root) ∧
      ((∀ w ∈ surrounded S [] place root, IsItem w.1 → InList w.2) →
        (∀ w ∈ surrounded S [] place root, skips S w.1 = true → ¬InList w.2) → Undisturbed S place root) ∧
      (((((renderer o).skipping S).parts place root).run.run s).1 = .error .emptyItem ∨
        ∃ skipped u', (((renderer o).skipping S).parts place root).run.run s = (.ok skipped, u') ∧
          Spares (SameUnlessAsked o) S place skipped parts ∧
          Slugged o ((root.visits place).filter fun v => Outside S place v) skipped.body) := by
  obtain ⟨t, hcontainers, hslugs, hbody, hok, herror⟩ := exists_body_of_parts S h
  have hsteps := written_outside (S := S) rfl hcontainers hbody
  have hwritten {body : List (Visit × String)} {u' : State}
      (hrun : ((root.kept S place).mapM (Outline.record o)).run.run t = (.ok body, u')) :=
    samePart_iff_of_written hsteps (by rw [map_fst_watched, map_fst_surrounded]) (written_of_run rfl hrun)
  rw [hcontainers] at hwritten
  have htotal := run_record_of_written hsteps rfl <| by
    rw [map_fst_surrounded, hcontainers]
    exact isSome_of_watched S place root
  rw [map_fst_surrounded] at htotal
  refine ⟨⟨?_, fun hundisturbed => ?_⟩, undisturbed_of_not_inList, ?_⟩
  · rintro ⟨skipped, u', hrun, hspares⟩
    rcases htotal with ⟨body, u'', hbody'⟩ | hempty
    · rw [hok body u'' hbody'] at hrun
      cases hrun
      exact (hwritten hbody').1.1 hspares.body
    · have hfails := herror _ hempty
      rw [hrun] at hfails
      cases hfails
  · obtain ⟨body, u', hrun⟩ := exists_run_of_shownAlike hsteps rfl <| by
      rwa [map_fst_surrounded, hcontainers]
    rw [map_fst_surrounded] at hrun
    exact ⟨_, u', hok body u' hrun, rfl, (hwritten hrun).1.2 hundisturbed, rfl⟩
  · rcases htotal with ⟨body, u', hrun⟩ | hempty
    · refine .inr ⟨_, u', hok body u' hrun, ⟨rfl, (hwritten hrun).2, rfl⟩, ?_⟩
      have hrecords := run_records hrun
      rwa [hslugs, ← filter_visits] at hrecords
    · exact .inl (herror _ hempty)

end

def textParagraph (line : Nat) (text : String) : Node :=
  .branch ⟨line, 1, some line, none⟩ .paragraph [.leaf ⟨line, 1, some line, none⟩ (.text text)]

def quoteAboveList : Node :=
  .branch ⟨1, 1, some 3, none⟩ .document
    [.branch ⟨1, 1, some 1, none⟩ .blockQuote [textParagraph 1 "a"],
      .branch ⟨3, 1, some 3, none⟩ (.list false 1 true) [.branch ⟨3, 1, some 3, none⟩ .listItem [textParagraph 3 "b"]]]

theorem skippedQuote_spares : ∃ parts u skipped u',
    ((renderer {}).parts [] quoteAboveList).run.run {} = (.ok parts, u) ∧
    (((renderer {}).skipping (· == [0])).parts [] quoteAboveList).run.run {} = (.ok skipped, u') ∧
    Spares (SamePart {}) (· == [0]) [] skipped parts ∧
    skipped.text = "<blockquote>\n<ul>\n<li>b</li>\n</ul>\n" := by
  obtain ⟨parts, u, h⟩ := @exists_parts {} quoteAboveList rfl [] {}
  obtain ⟨hiff, hundisturbed, _⟩ := skipping_written (· == [0]) h
  obtain ⟨skipped, u', hrun, hspares⟩ := hiff.2 <| hundisturbed
    (by simp [surrounded, surroundedAll, quoteAboveList, textParagraph, IsItem, InList])
    (by simp [surrounded, surroundedAll, quoteAboveList, textParagraph, InList])
  have htext : ((((renderer {}).skipping (· == [0])).render [] quoteAboveList).run.run {}).1 =
      .ok "<blockquote>\n<ul>\n<li>b</li>\n</ul>\n" := ok_of_toOption (by decide +kernel)
  rw [Renderer.render_eq_parts, map_eq_pure_bind, run_bind_of_ok hrun] at htext
  exact ⟨parts, u, skipped, u', h, hrun, hspares, Except.ok.inj htext⟩

def twoItems : Node :=
  .branch ⟨1, 1, some 2, none⟩ .document
    [.branch ⟨1, 1, some 2, none⟩ (.list false 1 true)
      [.branch ⟨1, 1, some 1, none⟩ .listItem [textParagraph 1 "a"],
        .branch ⟨2, 1, some 2, none⟩ .listItem [textParagraph 2 "b"]]]

/-- An item whose children are passed over is taken for the parent of the next one. -/
theorem skippedItem_disturbs :
    parse {} none "- a\n- b" = .ok twoItems ∧
    (fun parts => textOf (parts.body.filter fun part => Outside (· == [0, 0]) [] part.1)) <$>
      (((renderer {}).parts [] twoItems).run.run {}).1 = .ok "<ul>\n<li><li>b</li>\n</ul>\n" ∧
    ((((renderer {}).skipping (· == [0, 0])).render [] twoItems).run.run {}).1 =
      .ok "<ul>\n<li><li>\n<p>b</p>\n</li>\n</ul>\n" :=
  ⟨ok_of_toOption (by decide +kernel), ok_of_toOption (by decide +kernel), ok_of_toOption (by decide +kernel)⟩

end MarkdownOutline.Html
