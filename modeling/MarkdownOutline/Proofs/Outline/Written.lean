import MarkdownOutline.Proofs.Html.Skeleton
import MarkdownOutline.Proofs.Outline.Collected

namespace MarkdownOutline.Outline

open Html.Markup

/-- A part of a body without gaps: what is written from entering a heading to leaving it. -/
def WrittenAt (body : List (Visit × String)) (p : Placed) (text : String) : Prop :=
  ∃ inside, inside <:+: body ∧ inside.map Prod.fst = p.visits ∧ textOf inside = text

def enclosed (tag name value html : String) : String :=
  "<" ++ tag ++ " " ++ name ++ "=\"" ++ value ++ "\">" ++ html ++ "</" ++ tag ++ ">\n"

def headingHtml (level : Int) (anchor html : String) : String :=
  enclosed ("h" ++ toString level) "id" anchor html

def titleHtml (html : String) : String := enclosed "h1" "class" "title" html

section

variable {σ ε α β : Type} {f : α → ExceptT ε (StateM σ) β} {s u : σ}

theorem exists_append_of_run_mapM {xs ys : List α} {bs : List β}
    (h : ((xs ++ ys).mapM f).run.run s = (.ok bs, u)) :
    ∃ front back t, bs = front ++ back ∧ (xs.mapM f).run.run s = (.ok front, t) ∧
      (ys.mapM f).run.run t = (.ok back, u) := by
  rw [List.mapM_append] at h
  obtain ⟨front, t, hfront, h⟩ := exists_of_run_bind_eq_ok h
  obtain ⟨back, t', hback, h⟩ := exists_of_run_bind_eq_ok h
  cases h
  exact ⟨front, back, t, rfl, hfront, hback⟩

theorem exists_infix_of_run_mapM {xs ys : List α} (hwithin : ys <:+: xs) {bs : List β}
    (h : (xs.mapM f).run.run s = (.ok bs, u)) :
    ∃ inside t t', inside <:+: bs ∧ (ys.mapM f).run.run t = (.ok inside, t') := by
  obtain ⟨before, after, rfl⟩ := hwithin
  obtain ⟨front, back, t, rfl, hfront, _⟩ := exists_append_of_run_mapM h
  obtain ⟨outer, inside, t', rfl, _, hinside⟩ := exists_append_of_run_mapM hfront
  exact ⟨inside, t', t, ⟨outer, back, rfl⟩, hinside⟩

end

section

variable {o : Html.Options} {s u : Html.State}

def record (o : Html.Options) (v : Visit) : Html.HtmlM (Visit × String) := do
  return (v, Html.write (← Html.visit o v))

theorem exists_of_run_record_cons {v : Visit} {visits : List Visit} {parts : List (Visit × String)}
    (h : ((v :: visits).mapM (record o)).run.run s = (.ok parts, u)) :
    ∃ markup t more, (Html.visit o v).run.run s = (.ok markup, t) ∧
      (visits.mapM (record o)).run.run t = (.ok more, u) ∧ parts = (v, Html.write markup) :: more := by
  rw [List.mapM_cons] at h
  obtain ⟨part, t, hpart, h⟩ := exists_of_run_bind_eq_ok h
  obtain ⟨more, t', hmore, h⟩ := exists_of_run_bind_eq_ok h
  obtain ⟨markup, t'', hmarkup, hpart⟩ := exists_of_run_bind_eq_ok hpart
  cases hpart
  cases h
  exact ⟨markup, t, more, hmarkup, hmore, rfl⟩

theorem run_record_cons {v : Visit} {visits : List Visit} {more : List (Visit × String)} {markup : List Html.Markup}
    {t : Html.State} (hvisit : (Html.visit o v).run.run s = (.ok markup, t))
    (hmore : (visits.mapM (record o)).run.run t = (.ok more, u)) :
    ((v :: visits).mapM (record o)).run.run s = (.ok ((v, Html.write markup) :: more), u) := by
  have hrecord : (record o v).run.run s = (.ok (v, Html.write markup), t) := run_bind_of_ok hvisit _
  rw [List.mapM_cons, run_bind_of_ok hrecord, run_bind_of_ok hmore]
  rfl

theorem map_fst_of_run_record {visits : List Visit} {parts : List (Visit × String)}
    (h : (visits.mapM (record o)).run.run s = (.ok parts, u)) : parts.map Prod.fst = visits := by
  induction visits generalizing s parts with
  | nil =>
      cases h
      rfl
  | cons v visits ih =>
      obtain ⟨markup, t, more, _, hmore, rfl⟩ := exists_of_run_record_cons h
      rw [List.map_cons, ih hmore]

theorem run_emit_of_run_record {visits : List Visit} {parts : List (Visit × String)}
    (h : (visits.mapM (record o)).run.run s = (.ok parts, u)) :
    ∃ markup, (Html.emit o visits).run.run s = (.ok markup, u) ∧ textOf parts = Html.write markup := by
  have hmap : (textOf <$> visits.mapM (record o)).run.run s =
      (Html.write <$> Html.emit o visits).run.run s := by
    rw [← Html.textOf_mapM_visit]
    rfl
  rw [map_eq_pure_bind, map_eq_pure_bind, run_bind_of_ok h] at hmap
  obtain ⟨markup, t, hemit, hmarkup⟩ := exists_of_run_bind_eq_ok hmap.symm
  have hsame : (Except.ok (Html.write markup), t) = (Except.ok (textOf parts), u) := hmarkup
  obtain ⟨htext, rfl⟩ := Prod.mk.inj hsame
  exact ⟨markup, hemit, (Except.ok.inj htext).symm⟩

theorem escapeChar_of_isNameChar {c : Char} (h : Html.isNameChar c = true) :
    Text.escapeChar c = [c] := by
  unfold Text.escapeChar
  split
  · cases h
  · cases h
  · cases h
  · cases h
  · rfl

theorem escapeHtml_anchorOf (n : Nat) : Text.escapeHtml (anchorOf n) = anchorOf n := by
  apply Html.escapeHtml_of_unchanged
  intro c hc
  rcases List.mem_append.1 (String.toList_append ▸ hc) with hc | hc
  · have hall : "toc_".toList.all (fun c => Text.escapeChar c == [c]) = true := by decide
    exact eq_of_beq (List.all_eq_true.1 hall c hc)
  · exact escapeChar_of_isNameChar (Html.isNameChar_of_mem_repr hc)

theorem escapeHtml_title : Text.escapeHtml "title" = "title" := by
  decide

theorem anchorOf_ne_empty (n : Nat) : anchorOf n ≠ "" := by
  simp [anchorOf]

variable (o)

theorem opening_title (a : Html.Around) {h : Heading} (htitle : h.isTitle = true)
    (children : List Node) :
    Html.opening o a (.heading h) children = return [start "h1" [⟨"class", "title"⟩]] := by
  simp [Html.opening, Html.headingOpening, htitle]

theorem opening_marked (a : Html.Around) {h : Heading} (htitle : h.isTitle = false) {n : Nat}
    (hid : h.id = some (anchorOf n)) (children : List Node) :
    Html.opening o a (.heading h) children =
      return [start (Html.headingTag h) [⟨"id", anchorOf n⟩]] := by
  have hanchor : Html.anchor? h = some (anchorOf n) := by
    rw [Html.anchor?_eq, hid, Html.isSet_some, if_pos (bne_iff_ne.2 (anchorOf_ne_empty n))]
  have hoptional : Html.optional "id" (some (anchorOf n)) = [⟨"id", anchorOf n⟩] := by
    simp [Html.optional, anchorOf_ne_empty]
  simp [Html.opening, Html.headingOpening, htitle, hanchor, hoptional]

variable {o}

theorem write_enclosed (tag : String) (a : Html.Attribute) (h : Text.escapeHtml a.value = a.value)
    (html : String) :
    (start tag [a]).write ++ html ++ Html.write [finish tag, newline] =
      enclosed tag a.name a.value html := by
  have hnewline : Text.escapeHtml "\n" = "\n" := by decide
  delta enclosed
  simp [Html.write, Html.Markup.write, writeAttributes, writeAttribute, newline, hnewline, h,
    String.append_assoc]

theorem run_emit_heading {p : Placed} (hinline : Node.AreInline p.children) {front : Html.Markup}
    (hopening : ∀ a, Html.opening o a (.heading p.heading) p.children = pure [front])
    {markup : List Html.Markup} (h : (Html.emit o p.visits).run.run s = (.ok markup, u)) :
    ∃ html, Inlaid o p html ∧
      Html.write markup = front.write ++ html ++
        Html.write [finish (if p.heading.isTitle then "h1" else Html.headingTag p.heading), newline] := by
  have henter : (Html.visit o ⟨p.place, .branch p.loc (.heading p.heading) p.children, true⟩).run.run s =
      (.ok [front], s.push p.place (.heading p.heading) p.children) := by
    rw [Html.run_entering, hopening]
    rfl
  rw [Placed.visits, Placed.node, Html.emit_branch, run_bind_of_ok henter] at h
  obtain ⟨inner, t, hinner, h⟩ := exists_of_run_bind_eq_ok h
  have hsteady := (Html.steady_emitAll o hinline p.place 0).run_of_ok hinner
  obtain ⟨-, rfl⟩ := Prod.mk.inj ((hsteady _).symm.trans hinner)
  have hleave : (Html.visit o ⟨p.place, .branch p.loc (.heading p.heading) p.children, false⟩).run.run
      (s.push p.place (.heading p.heading) p.children) =
        (.ok [finish (if p.heading.isTitle then "h1" else Html.headingTag p.heading), newline], s) := rfl
  rw [run_bind_of_ok hleave] at h
  cases h
  refine ⟨Html.write inner, ⟨inner, rfl, hsteady⟩, ?_⟩
  rw [Html.write_append, Html.write_append, ← String.append_assoc]
  simp [Html.write]

/-- A heading that is written at all is written the same inside whenever it is written. -/
theorem exists_inlaid {p : Placed} (hinline : Node.AreInline p.children) {markup : List Html.Markup}
    (h : (Html.emit o p.visits).run.run s = (.ok markup, u)) : Inlaid o p (inlay o p) := by
  rw [Placed.visits, Placed.node, Html.emit_branch] at h
  obtain ⟨_, t, _, h⟩ := exists_of_run_bind_eq_ok h
  obtain ⟨inner, t', hinner, _⟩ := exists_of_run_bind_eq_ok h
  have hinlaid : Inlaid o p (Html.write inner) :=
    ⟨inner, rfl, (Html.steady_emitAll o hinline p.place 0).run_of_ok hinner⟩
  rwa [← hinlaid.eq_inlay]

variable {place : Place} {root : Node} {parts : Parts}

theorem record_eq (o : Html.Options) :
    record o = fun v => (fun markup => (v, Html.write markup)) <$> Html.visit o v := by
  funext v
  simp [record]

def partsAt (o : Html.Options) (root : Node) (visits : List Visit) : Html.HtmlM Parts := do
  let front ← Html.header o root
  let body ← visits.mapM (record o)
  return ⟨Html.write front, body, Html.write (if o.completePage then Html.pageEnd else [])⟩

theorem parts_eq (o : Html.Options) (place : Place) (root : Node) :
    (Html.renderer o).parts place root = partsAt o root (root.visits place) := by
  rw [Renderer.parts_unsteered _ (fun v => do return Html.write (← Html.visit o v)) fun v => by simp [Html.renderer]]
  simp [partsAt, Html.renderer, record_eq]

theorem parts_skipping_eq (o : Html.Options) (S : Place → Bool) (place : Place) (root : Node) :
    ((Html.renderer o).skipping S).parts place root = partsAt o root (root.kept S place) := by
  rw [Renderer.parts_skipping _ S (fun v => do return Html.write (← Html.visit o v)) fun v => by simp [Html.renderer]]
  simp [partsAt, Html.renderer, record_eq]

theorem run_partsAt_ok_iff {visits : List Visit} :
    (partsAt o root visits).run.run s = (.ok parts, u) ↔
      ∃ front t, (Html.header o root).run.run s = (.ok front, t) ∧
        (visits.mapM (record o)).run.run t = (.ok parts.body, u) ∧ parts.header = Html.write front ∧
        parts.footer = Html.write (if o.completePage then Html.pageEnd else []) := by
  constructor
  · intro h
    obtain ⟨front, t, hfront, h⟩ := exists_of_run_bind_eq_ok h
    obtain ⟨body, t', hbody, h⟩ := exists_of_run_bind_eq_ok h
    cases h
    exact ⟨front, t, hfront, hbody, rfl, rfl⟩
  · rintro ⟨front, t, hfront, hbody, hheader, hfooter⟩
    rw [partsAt, run_bind_of_ok hfront, run_bind_of_ok hbody, ← hheader, ← hfooter]
    rfl

theorem run_header_of_parts (h : ((Html.renderer o).parts place root).run.run s = (.ok parts, u)) :
    ∃ front t t', (Html.header o root).run.run s = (.ok front, t) ∧
      ((root.visits place).mapM (record o)).run.run t = (.ok parts.body, t') := by
  rw [parts_eq, run_partsAt_ok_iff] at h
  obtain ⟨front, t, hfront, hbody, _⟩ := h
  exact ⟨front, t, u, hfront, hbody⟩

theorem run_record_of_parts (h : ((Html.renderer o).parts place root).run.run s = (.ok parts, u)) :
    ∃ t t', ((root.visits place).mapM (record o)).run.run t = (.ok parts.body, t') := by
  obtain ⟨_, t, t', _, hbody⟩ := run_header_of_parts h
  exact ⟨t, t', hbody⟩

theorem exists_written (h : ((Html.renderer o).parts place root).run.run s = (.ok parts, u))
    {p : Placed} (hp : p ∈ root.headings place) :
    ∃ t t' markup, (Html.emit o p.visits).run.run t = (.ok markup, t') ∧
      WrittenAt parts.body p (Html.write markup) := by
  obtain ⟨t, t', hbody⟩ := run_record_of_parts h
  obtain ⟨inside, t, t', hwithin, hinside⟩ := exists_infix_of_run_mapM (visits_of_mem_headings hp) hbody
  obtain ⟨markup, hmarkup, htext⟩ := run_emit_of_run_record hinside
  exact ⟨t, t', markup, hmarkup, inside, hwithin, map_fst_of_run_record hinside, htext⟩

theorem written_heading (h : ((Html.renderer o).parts place root).run.run s = (.ok parts, u))
    {p : Placed} (hp : p ∈ root.headings place) (hinline : Node.AreInline p.children)
    {front : Html.Markup}
    (hopening : ∀ a, Html.opening o a (.heading p.heading) p.children = pure [front]) :
    WrittenAt parts.body p (front.write ++ inlay o p ++
      Html.write [finish (if p.heading.isTitle then "h1" else Html.headingTag p.heading), newline]) := by
  obtain ⟨t, t', markup, hmarkup, hwritten⟩ := exists_written h hp
  obtain ⟨html, hhtml, htext⟩ := run_emit_heading hinline hopening hmarkup
  rwa [htext, hhtml.eq_inlay] at hwritten

theorem written_title (h : ((Html.renderer o).parts place root).run.run s = (.ok parts, u))
    {p : Placed} (hp : p ∈ root.headings place) (hinline : Node.AreInline p.children)
    (htitle : p.heading.isTitle = true) : WrittenAt parts.body p (titleHtml (inlay o p)) := by
  have hwritten := written_heading h hp hinline fun a => opening_title o a htitle p.children
  rw [htitle, if_pos rfl, write_enclosed "h1" ⟨"class", "title"⟩ escapeHtml_title] at hwritten
  exact hwritten

theorem written_marked (h : ((Html.renderer o).parts place root).run.run s = (.ok parts, u))
    {p : Placed} (hp : p ∈ root.headings place) (hinline : Node.AreInline p.children)
    (htitle : p.heading.isTitle = false) {n : Nat} (hid : p.heading.id = some (anchorOf n)) :
    WrittenAt parts.body p (headingHtml p.heading.level (anchorOf n) (inlay o p)) := by
  have hwritten := written_heading h hp hinline fun a => opening_marked o a htitle hid p.children
  rw [htitle, if_neg Bool.false_ne_true,
    write_enclosed (Html.headingTag p.heading) ⟨"id", anchorOf n⟩ (escapeHtml_anchorOf n)] at hwritten
  exact hwritten

end

end MarkdownOutline.Outline
