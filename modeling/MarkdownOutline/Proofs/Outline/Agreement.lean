import MarkdownOutline.Convert
import MarkdownOutline.Proofs.Outline.Written

namespace MarkdownOutline.Outline

def unmarked (p : Placed) : Placed := { p with heading.id := none }

/-- The headings of a document, the document with its anchors, the entries of its outline and the
body that is written with the anchors tell the same. -/
structure Agreement (place : Place) (root marked : Node) (entries : List Entry)
    (body : List (Visit × String)) : Prop where
  headings : (marked.headings place).map unmarked = root.headings place
  count : entries.length = (root.listed place).length
  entry : ∀ i e p, entries[i]? = some e → (root.listed place)[i]? = some p →
    e.level = p.heading.level ∧ e.anchor = anchorOf i ∧
      ∃ q, (marked.listed place)[i]? = some q ∧ q = { p with heading.id := some e.anchor } ∧
        WrittenAt body q (headingHtml e.level e.anchor e.html)
  title : ∀ p ∈ marked.headings place, p.heading.isTitle = true →
    p.heading.id = none ∧ ∃ html, WrittenAt body p (titleHtml html)

section

variable {place : Place} {root : Node} (anchors : List (Place × String))

theorem listed_assign (h : ∀ p ∈ root.headings place, Node.AreInline p.children) :
    (assign anchors place root).listed place = (root.listed place).map (mark anchors) := by
  rw [Node.listed, headings_assign anchors h, List.filter_map]
  rfl

theorem collected_mark (o : Html.Options) (c : Collector) (ps : List Placed) :
    c.addAll (inlay o) (ps.map (mark anchors)) = c.addAll (inlay o) ps := by
  rw [Collector.addAll, List.foldl_map]
  rfl

variable {anchors}

theorem plain_mark {p : Placed} (h : p.Plain) : (mark anchors p).Plain := ⟨h.level, h.inline⟩

theorem title_not_listed {p : Placed} (hp : p ∈ root.headings place) (htitle : p.heading.isTitle = true) :
    p.place ∉ (root.listed place).map Placed.place := by
  intro hmem
  obtain ⟨q, hq, hplace⟩ := List.mem_map.1 hmem
  obtain ⟨hq, hlisted⟩ := List.mem_filter.1 hq
  obtain rfl : q = p := List.inj_on_of_nodup_map (nodup_headings place root) hq hp hplace
  rw [htitle] at hlisted
  cases hlisted

theorem lookup_title {p : Placed} (hp : p ∈ root.headings place) (htitle : p.heading.isTitle = true) :
    (anchorsFrom 0 (root.listed place)).lookup p.place = none :=
  lookup_anchorsFrom_of_not_mem 0 (title_not_listed hp htitle)

theorem nodup_listed (place : Place) (root : Node) : ((root.listed place).map Placed.place).Nodup :=
  (nodup_headings place root).sublist (List.filter_sublist.map _)

end

section

variable {σ : Type} (r : Renderer σ) (place : Place)

theorem run_bodyOf (root : Node) (s : σ) :
    (bodyOf r place root).run s = match (r.render place root).run.run s with
      | (.ok body, t) => (.ok body, t)
      | (.error e, t) => (.error (.render e), t) := by
  rw [bodyOf, StateT.run_bind]
  rcases (r.render place root).run.run s with ⟨_ | body, t⟩ <;> rfl

theorem parse_of_read? (settings : Settings) (file : Option String) {source : Source} {text : String}
    (h : source.read? = some text) :
    source.parse settings file = (parse settings file text).mapError Failure.parse := by
  rw [Source.parse, Source.text?, h]
  simp only [bind, Except.bind]
  cases parse settings file text <;> rfl

theorem parse_of_source {settings : Settings} {file : Option String} {source : Source} {text : String}
    (htext : source.read? = some text) {root : Node} (h : source.parse settings file = .ok root) :
    parse settings file text = .ok root := by
  rw [parse_of_read? settings file htext] at h
  cases hroot : parse settings file text with
  | error e =>
      rw [hroot] at h
      cases h
  | ok other =>
      rw [hroot] at h
      cases h
      rfl

theorem run_toHtml_ok {settings : Settings} {file : Option String} {source : Source} {text : String}
    (htext : source.read? = some text) (hmarker : Source.hasMarker text = true) {s u : σ} {page : Page}
    (h : (toHtml r place settings file source).run s = (.ok page, u)) :
    ∃ root marked t, source.parse settings file = .ok root ∧
      (Outline.render r place root).run s = ((.ok page.outline, marked), t) ∧
      (r.render place marked).run.run t = (.ok page.body, u) := by
  rw [toHtml] at h
  cases hparse : source.parse settings file with
  | error e =>
      rw [hparse] at h
      cases h
  | ok root =>
      obtain ⟨outline, marked, t, houtline⟩ : ∃ outline marked t,
          (Outline.render r place root).run s = ((outline, marked), t) := ⟨_, _, _, rfl⟩
      simp only [hparse, outlineOf, Source.text?, htext, hmarker, if_true, StateT.run_bind, houtline] at h
      cases outline with
      | error e => cases h
      | ok outline =>
          obtain ⟨body, t', hbody⟩ : ∃ body t', (r.render place marked).run.run t = (body, t') :=
            ⟨_, _, rfl⟩
          have hpage : (((bodyOf r place marked).run t).1.map fun body => (⟨outline, body⟩ : Page),
              ((bodyOf r place marked).run t).2) = (.ok page, u) := h
          rw [run_bodyOf, hbody] at hpage
          cases body with
          | error e => cases hpage
          | ok body =>
              cases hpage
              exact ⟨root, marked, t, rfl, houtline, hbody⟩

theorem run_parts_of_render {root : Node} {s u : σ} {body : String}
    (h : (r.render place root).run.run s = (.ok body, u)) :
    ∃ parts, (r.parts place root).run.run s = (.ok parts, u) ∧ parts.text = body := by
  rw [Renderer.render_eq_parts, map_eq_pure_bind] at h
  obtain ⟨parts, t, hparts, h⟩ := exists_of_run_bind_eq_ok h
  cases h
  exact ⟨parts, hparts, rfl⟩

end

section

variable (o : Html.Options) (place : Place) (root : Node)

def collected : Collector := Collector.addAll (inlay o) {} (root.listed place)

def marked : Node := assign (anchorsFrom 0 (root.listed place)) place root

theorem entries_collected : (collected o place root).entries = entriesFrom (inlay o) 0 (root.listed place) := by
  rw [collected, entries_addAll, List.nil_append]

theorem anchors_collected : (collected o place root).anchors = anchorsFrom 0 (root.listed place) := by
  rw [collected, anchors_addAll, List.nil_append]

theorem layout_collected : layout (collected o place root).entries (collected o place root).minimum =
    layout (collected o place root).entries none := by
  have h : (collected o place root).minimum = minLevel? (collected o place root).entries :=
    minimum_addAll (inlay o) {} (root.listed place) rfl
  rw [layout, layout, h, Option.or_self, Option.none_or]

variable {o place root}

theorem run_collect (hplain : ∀ p ∈ root.headings place, p.Plain)
    (hinlaid : ∀ p ∈ root.listed place, Inlaid o p (inlay o p)) (s : Html.State) :
    (collect (Html.renderer o) place root).run s =
      ((.ok (collected o place root), marked place root), s) := by
  change (((collectWalk (Html.renderer o) place root ({}, s)).1.map fun _ =>
      (collectWalk (Html.renderer o) place root ({}, s)).2.1,
    assign (collectWalk (Html.renderer o) place root ({}, s)).2.1.anchors place root),
      (collectWalk (Html.renderer o) place root ({}, s)).2.2) = _
  rw [run_collectWalk hplain hinlaid s]
  change ((Except.ok (collected o place root), assign (collected o place root).anchors place root), s) = _
  rw [anchors_collected, marked]

theorem anchorsFrom_mark (anchors : List (Place × String)) (n : Nat) (ps : List Placed) :
    anchorsFrom n (ps.map (mark anchors)) = anchorsFrom n ps := by
  induction ps generalizing n with
  | nil => rfl
  | cons p ps ih => exact congrArg ((p.place, anchorOf n) :: ·) (ih (n + 1))

theorem listed_marked (hplain : ∀ p ∈ root.headings place, p.Plain) :
    (marked place root).listed place =
      (root.listed place).map (mark (anchorsFrom 0 (root.listed place))) :=
  listed_assign _ fun p hp => (hplain p hp).inline

theorem getElem?_listed_marked (hplain : ∀ p ∈ root.headings place, p.Plain) {i : Nat} {p : Placed}
    (hp : (root.listed place)[i]? = some p) :
    ((marked place root).listed place)[i]? = some { p with heading.id := some (anchorOf i) } := by
  have hanchor := lookup_anchorsFrom (n := 0) (nodup_listed place root) hp
  rw [Nat.zero_add] at hanchor
  rw [listed_marked hplain, List.getElem?_map, hp, Option.map_some, mark, hanchor, Option.some_or]

theorem collected_marked (hplain : ∀ p ∈ root.headings place, p.Plain) :
    collected o place (marked place root) = collected o place root := by
  rw [collected, listed_marked hplain, collected_mark, collected]

theorem marked_marked (hplain : ∀ p ∈ root.headings place, p.Plain) :
    marked place (marked place root) = marked place root := by
  rw [marked, listed_marked hplain, anchorsFrom_mark, marked, assign_assign]

theorem exists_of_mem_marked (hplain : ∀ p ∈ root.headings place, p.Plain) {q : Placed}
    (h : q ∈ (marked place root).headings place) :
    ∃ p ∈ root.headings place, q = mark (anchorsFrom 0 (root.listed place)) p := by
  rw [marked, headings_assign _ fun p hp => (hplain p hp).inline] at h
  obtain ⟨p, hp, rfl⟩ := List.mem_map.1 h
  exact ⟨p, hp, rfl⟩

theorem map_unmarked (hfresh : ∀ p ∈ root.headings place, p.Fresh) :
    ((marked place root).headings place).map unmarked = root.headings place := by
  rw [marked, headings_assign _ fun p hp => (hfresh p hp).1.inline, List.map_map]
  refine (List.map_congr_left fun p hp => ?_).trans (List.map_id _)
  have hid : p.heading.id = none := (hfresh p hp).2
  rw [Function.comp_apply, mark, unmarked, id, ← hid]

theorem run_collect_marked (hplain : ∀ p ∈ root.headings place, p.Plain)
    (hinlaid : ∀ p ∈ root.listed place, Inlaid o p (inlay o p)) (s : Html.State) :
    (collect (Html.renderer o) place (marked place root)).run s =
      ((.ok (collected o place root), marked place root), s) := by
  have hplain' : ∀ q ∈ (marked place root).headings place, q.Plain := by
    intro q hq
    obtain ⟨p, hp, rfl⟩ := exists_of_mem_marked hplain hq
    exact plain_mark (hplain p hp)
  have hinlaid' : ∀ q ∈ (marked place root).listed place, Inlaid o q (inlay o q) := by
    intro q hq
    rw [listed_marked hplain] at hq
    obtain ⟨p, hp, rfl⟩ := List.mem_map.1 hq
    exact hinlaid p hp
  rw [run_collect hplain' hinlaid', collected_marked hplain, marked_marked hplain]

theorem agreement (hfresh : ∀ p ∈ root.headings place, p.Fresh) {parts : Parts} {s u : Html.State}
    (hparts : ((Html.renderer o).parts place (marked place root)).run.run s = (.ok parts, u)) :
    Agreement place root (marked place root) (collected o place root).entries parts.body := by
  have hplain : ∀ p ∈ root.headings place, p.Plain := fun p hp => (hfresh p hp).1
  refine ⟨map_unmarked hfresh, ?_, ?_, ?_⟩
  · rw [entries_collected, length_entriesFrom]
  · intro i e p he hp
    rw [entries_collected, getElem?_entriesFrom, hp, Nat.zero_add] at he
    cases he
    have hq := getElem?_listed_marked hplain hp
    refine ⟨rfl, rfl, _, hq, rfl, ?_⟩
    obtain ⟨hmem, hlisted⟩ := List.mem_filter.1 (List.mem_of_getElem? hq)
    have hinline := (hplain p (List.mem_filter.1 (List.mem_of_getElem? hp)).1).inline
    have htitle : p.heading.isTitle = false := by simpa using hlisted
    exact written_marked hparts hmem hinline htitle rfl
  · intro q hq htitle
    obtain ⟨p, hp, rfl⟩ := exists_of_mem_marked hplain hq
    have hid : (mark (anchorsFrom 0 (root.listed place)) p).heading.id = none := by
      rw [mark, lookup_title hp htitle, Option.none_or, (hfresh p hp).2]
    exact ⟨hid, _, written_title hparts hq (hplain p hp).inline htitle⟩

/-- A rendered body has all headings of the document, so none of them fails in the outline. -/
theorem inlaid_of_parts (hplain : ∀ p ∈ root.headings place, p.Plain) (anchors : List (Place × String))
    {parts : Parts} {s u : Html.State}
    (hparts : ((Html.renderer o).parts place (assign anchors place root)).run.run s = (.ok parts, u)) :
    ∀ p ∈ root.headings place, Inlaid o p (inlay o p) := by
  intro p hp
  have hmarked : mark anchors p ∈ (assign anchors place root).headings place := by
    rw [headings_assign anchors fun p hp => (hplain p hp).inline]
    exact List.mem_map_of_mem hp
  obtain ⟨t, t', markup, hmarkup, _⟩ := exists_written hparts hmarked
  exact exists_inlaid (p := mark anchors p) (hplain p hp).inline hmarkup

end

section

variable {σ : Type} {r : Renderer σ} {place : Place} {root : Node} {s t : σ} {c : Collector} {marked : Node}

theorem run_entries (h : (collect r place root).run s = ((.ok c, marked), t)) :
    (entries r place root).run s = ((.ok c.entries, marked), t) := by
  rw [entries, StateT.run_bind, h]
  rfl

theorem run_outline (h : (collect r place root).run s = ((.ok c, marked), t)) :
    (render r place root).run s = ((layout c.entries c.minimum, marked), t) := by
  rw [render, StateT.run_bind, h]
  rfl

end

/-- If a source asks for an outline and both the outline and the body are written, they agree: the
outline lays out one entry for each heading that is not a title block, and the body has the heading
with the same anchor around the same markup. Another outline of the document changes nothing. -/
theorem page_agrees (o : Html.Options) (place : Place) (settings : Settings) (file : Option String)
    {source : Source} {text : String} (htext : source.read? = some text)
    (hmarker : Source.hasMarker text = true) {s u : Html.State} {page : Page}
    (hpage : (toHtml (Html.renderer o) place settings file source).run s = (.ok page, u)) :
    ∃ root marked es parts,
      source.parse settings file = .ok root ∧
      (entries (Html.renderer o) place root).run s = ((.ok es, marked), s) ∧
      layout es none = .ok page.outline ∧
      ((Html.renderer o).parts place marked).run.run s = (.ok parts, u) ∧
      parts.text = page.body ∧
      Agreement place root marked es parts.body ∧
      ∀ t, (render (Html.renderer o) place marked).run t = ((.ok page.outline, marked), t) := by
  obtain ⟨root, marked', t, hparse, houtline, hbody⟩ := run_toHtml_ok _ place htext hmarker hpage
  have hfresh := fresh_of_parse (parse_of_source htext hparse) place
  have hplain : ∀ p ∈ root.headings place, p.Plain := fun p hp => (hfresh p hp).1
  obtain ⟨parts, hparts, htextOf⟩ := run_parts_of_render _ place hbody
  have hassigned : ∃ anchors, marked' = assign anchors place root :=
    ⟨_, (congrArg (fun x => x.1.2) houtline).symm⟩
  obtain ⟨anchors, rfl⟩ := hassigned
  have hinlaid : ∀ p ∈ root.listed place, Inlaid o p (inlay o p) := fun p hp =>
    inlaid_of_parts hplain anchors hparts p (List.mem_filter.1 hp).1
  have hcollect := run_collect hplain hinlaid s
  rw [run_outline hcollect] at houtline
  obtain ⟨hresult, rfl⟩ := Prod.mk.inj houtline
  obtain ⟨hlayout, hassign⟩ := Prod.mk.inj hresult
  rw [← hassign] at hparts
  refine ⟨root, marked place root, _, parts, hparse, run_entries hcollect, ?_, hparts, htextOf,
    agreement hfresh hparts, fun t => ?_⟩
  · rw [← layout_collected, hlayout]
  · rw [run_outline (run_collect_marked hplain hinlaid t), hlayout]

def quoted : Source := .text "[TOC]\n# A\n> ## *b* & c"

def quotedPage : Page :=
  ⟨"\n<ul>\n<li><a href=\"#toc_0\">A</a>\n<ul>\n<li><a href=\"#toc_1\"><em>b</em> &amp; c</a></li>\n" ++
      "</ul></li>\n</ul>",
    "<h1 id=\"toc_0\">A</h1>\n<blockquote>\n<h2 id=\"toc_1\"><em>b</em> &amp; c</h2>\n</blockquote>\n"⟩

theorem exists_run_of_toOption {σ ε α : Type} {x : StateM σ (Except ε α)} {s : σ} {a : α}
    (h : (x.run s).1.toOption = some a) : ∃ u, x.run s = (.ok a, u) := by
  rcases hx : x.run s with ⟨_ | b, u⟩
  · rw [hx] at h
    cases h
  · rw [hx] at h
    cases h
    exact ⟨u, rfl⟩

theorem quoted_page_agrees : ∃ (root marked : Node) (es : List Entry) (parts : Parts),
    quoted.parse {} none = .ok root ∧ layout es none = .ok quotedPage.outline ∧
      parts.text = quotedPage.body ∧ Agreement [] root marked es parts.body := by
  obtain ⟨u, hpage⟩ := exists_run_of_toOption
    (show ((toHtml (Html.renderer {}) [] {} none quoted).run {}).1.toOption = some quotedPage by
      decide +kernel)
  obtain ⟨root, marked, es, parts, hparse, _, hlayout, _, htext, hagrees, _⟩ :=
    page_agrees {} [] {} none rfl (by decide +kernel) hpage
  exact ⟨root, marked, es, parts, hparse, hlayout, htext, hagrees⟩

end MarkdownOutline.Outline
