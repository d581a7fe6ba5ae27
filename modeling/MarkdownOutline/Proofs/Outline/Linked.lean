import Mathlib.Algebra.GroupWithZero.Nat
import MarkdownOutline.Proofs.Html.Links
import MarkdownOutline.Proofs.Outline.Fault

namespace MarkdownOutline.Outline

open Html

structure Idle (text : List Char) : Prop where
  closed : Closed text
  events : events text = []

namespace Idle

variable {a b : List Char}

theorem append (ha : Idle a) (hb : Idle b) : Idle (a ++ b) where
  closed := ha.closed.append hb.closed
  events := by rw [events_append ha.closed, ha.events, hb.events]; rfl

theorem listOpen : Idle listOpen.toList := ⟨by decide, by decide⟩

theorem listClose : Idle listClose.toList := ⟨by decide, by decide⟩

theorem itemBreak : Idle itemBreak.toList := ⟨by decide, by decide⟩

theorem repeated {s : String} (h : Idle s.toList) (n : Nat) : Idle (repeated n s).toList := by
  induction n with
  | zero => exact ⟨closed_of_not_mem List.not_mem_nil, rfl⟩
  | succ n ih =>
      have hsucc : (Outline.repeated (n + 1) s).toList = s.toList ++ (Outline.repeated n s).toList := by
        simp [Outline.repeated, List.replicate_succ, String.toList_join]
      rw [hsucc]
      exact h.append ih

theorem between (current depth : Nat) : Idle (between current depth).toList := by
  rw [Outline.between]
  split
  · exact repeated listOpen _
  · rw [String.toList_append]
    exact (repeated listClose _).append itemBreak

end Idle

def Entry.anchors (e : Entry) : List Bool := true :: (events e.html.toList ++ [false])

structure Entry.Whole (e : Entry) : Prop where
  anchor : IsClean e.anchor
  html : Closed e.html.toList

theorem Entry.Whole.link {e : Entry} (h : e.Whole) :
    Closed e.link.toList ∧ events e.link.toList = e.anchors := by
  have hhref : "href" ∈ attributeNames := by decide
  have hstart : (Token.tag (.start "a" [⟨"href", "#" ++ e.anchor⟩])).Loose := by
    refine ⟨.inl (.inl (by decide)), List.forall_mem_singleton.2 ⟨hhref, fun c hc => ?_⟩⟩
    rw [String.toList_append, List.mem_append] at hc
    rcases hc with hc | hc
    · obtain rfl : c = '#' := by simpa using hc
      rfl
    · exact h.anchor c hc
  have hfinish : (Token.tag (.finish "a")).Loose := .inl (by decide)
  have hlink : e.link.toList = (Token.tag (.start "a" [⟨"href", "#" ++ e.anchor⟩])).chars ++
      (e.html.toList ++ (Token.tag (.finish "a")).chars) := by
    simp [Entry.link, Token.chars, Tag.inside, attributeChars]
  rw [hlink]
  refine ⟨(closed_token hstart).append (h.html.append (closed_token hfinish)), ?_⟩
  rw [events_append (closed_token hstart), events_append h.html, events_token hstart, events_token hfinish]
  rfl

/-- Between its entries a layout has no anchors. -/
theorem events_writeFrom {minimum : Int} {es : List Entry} (hes : ∀ e ∈ es, e.Whole) {current : Nat}
    {text : String} (h : writeFrom minimum current es = .ok text) :
    events text.toList = es.flatMap Entry.anchors := by
  induction es generalizing current text with
  | nil =>
      cases h
      exact (Idle.listClose.repeated current).events
  | cons e es ih =>
      obtain ⟨he, hes⟩ := List.forall_mem_cons.1 hes
      rw [writeFrom] at h
      split at h
      · cases h
      · obtain ⟨more, hmore, h⟩ := exists_of_bind_eq_ok h
        cases h
        obtain ⟨hclosed, hevents⟩ := he.link
        have hbetween := Idle.between current (e.level - minimum + 1).toNat
        rw [String.toList_append, String.toList_append, List.append_assoc, events_append hbetween.closed,
          hbetween.events, events_append hclosed, hevents, ih hes hmore]
        rfl

theorem events_layout {es : List Entry} (hes : ∀ e ∈ es, e.Whole) {text : String}
    (h : layout es none = .ok text) : events text.toList = es.flatMap Entry.anchors := by
  rw [layout] at h
  split at h
  · next hnone =>
      cases h
      rw [Option.none_or, minLevel?, List.min?_eq_none_iff, List.map_eq_nil_iff] at hnone
      rw [hnone]
      rfl
  · split at h
    · next hempty =>
        cases h
        rw [List.isEmpty_iff.1 hempty]
        rfl
    · exact events_writeFrom hes h

def entryAnchors (p : Placed) : List Bool := true :: (Node.anchorsAll p.children ++ [false])

def linksIn (ps : List Placed) : Nat := (ps.map fun p => Node.linksAll p.children).sum

theorem linksIn_cons (p : Placed) (ps : List Placed) :
    linksIn (p :: ps) = Node.linksAll p.children + linksIn ps := by
  rw [linksIn, List.map_cons, List.sum_cons, linksIn]

theorem count_entryAnchors (b : Bool) (ps : List Placed) :
    (ps.flatMap entryAnchors).count b = ps.length + linksIn ps := by
  induction ps with
  | nil => rfl
  | cons p ps ih =>
      have hown : (entryAnchors p).count b = Node.linksAll p.children + 1 := by
        rw [entryAnchors, List.count_cons, List.count_append, count_anchorsAll]
        cases b <;> rfl
      rw [List.flatMap_cons, List.count_append, ih, hown, linksIn_cons, List.length_cons]
      omega

mutual

theorem anchors_cases (node : Node) : node.anchors = [] ∨ ∃ more, node.anchors = true :: more := by
  cases node with
  | leaf loc content => exact .inl rfl
  | branch loc shape children =>
      rw [Node.anchors]
      by_cases hlink : shape.isLink = true
      · rw [if_pos hlink]
        exact .inr ⟨_, rfl⟩
      · rw [if_neg hlink]
        exact anchorsAll_cases children

theorem anchorsAll_cases (children : List Node) :
    Node.anchorsAll children = [] ∨ ∃ more, Node.anchorsAll children = true :: more := by
  cases children with
  | nil => exact .inl rfl
  | cons child rest =>
      rw [Node.anchorsAll]
      rcases anchors_cases child with h | ⟨more, h⟩
      · rw [h]
        exact anchorsAll_cases rest
      · rw [h]
        exact .inr ⟨_, rfl⟩

end

theorem anchorsAll_eq_nil_iff (children : List Node) :
    Node.anchorsAll children = [] ↔ Node.linksAll children = 0 := by
  rw [← count_anchorsAll true]
  rcases anchorsAll_cases children with h | ⟨more, h⟩
  · simp [h]
  · simp [h]

/-- Where no heading holds a link each anchor ends before the next begins. -/
theorem count_of_no_links {ps : List Placed} (h : ∀ p ∈ ps, Node.linksAll p.children = 0)
    {front back : List Bool} (hsplit : ps.flatMap entryAnchors = front ++ true :: back) :
    front.count false = front.count true := by
  induction ps generalizing front with
  | nil => simp at hsplit
  | cons p ps ih =>
      obtain ⟨hp, hps⟩ := List.forall_mem_cons.1 h
      rw [List.flatMap_cons, entryAnchors, (anchorsAll_eq_nil_iff _).2 hp] at hsplit
      match front with
      | [] => rfl
      | [b] => cases (List.cons.inj (List.cons.inj hsplit).2).1
      | b :: b' :: front =>
          obtain ⟨rfl, hsplit'⟩ := List.cons.inj hsplit
          obtain ⟨rfl, hrest⟩ := List.cons.inj hsplit'
          rw [List.count_cons, List.count_cons, List.count_cons, List.count_cons, ih hps hrest]
          rfl

theorem exists_inside {ps : List Placed} {p : Placed} (hp : p ∈ ps) (hlinks : Node.linksAll p.children ≠ 0) :
    ∃ front back, ps.flatMap entryAnchors = front ++ true :: back ∧ front.count false < front.count true := by
  obtain ⟨before, after, rfl⟩ := List.append_of_mem hp
  rcases anchorsAll_cases p.children with h | ⟨more, h⟩
  · exact absurd ((anchorsAll_eq_nil_iff _).1 h) hlinks
  · refine ⟨before.flatMap entryAnchors ++ [true], more ++ [false] ++ after.flatMap entryAnchors, ?_, ?_⟩
    · rw [List.flatMap_append, List.flatMap_cons, entryAnchors, h]
      simp
    · rw [List.count_append, List.count_append, count_entryAnchors, count_entryAnchors]
      simp

section

variable {o : Options}

theorem events_inlay {p : Placed} (hinline : Node.AreInline p.children) (hplain : Node.ArePlain p.children)
    (h : Inlaid o p (inlay o p)) :
    Closed (inlay o p).toList ∧ events (inlay o p).toList = Node.anchorsAll p.children := by
  obtain ⟨markup, hmarkup, hrun⟩ := h
  obtain ⟨result, t, k, htrees, hemit, _⟩ := follows_trees o (c := [])
    ⟨p.place, .heading p.heading, p.children.length⟩ 0 p.children (Nat.zero_add _) {}
  rw [hrun] at hemit
  obtain rfl : .ok markup = result := (Prod.mk.inj hemit).1
  have hshows := ensures_trees o _ (.inr hinline) hplain _ _ (congrArg Prod.fst htrees)
  obtain ⟨hclosed, hevents⟩ := events_of_shows hshows
  rw [hmarkup]
  exact ⟨hclosed, hevents.trans (filterMap_treesTags o _ p.children)⟩

theorem isClean_anchorOf (n : Nat) : IsClean (anchorOf n) := escapeHtml_anchorOf n ▸ isClean_escapeHtml _

theorem anchors_entriesFrom {ps : List Placed} (hps : ∀ p ∈ ps, p.Plain ∧ Node.ArePlain p.children ∧
      Inlaid o p (inlay o p)) (n : Nat) :
    (∀ e ∈ entriesFrom (inlay o) n ps, e.Whole) ∧
      (entriesFrom (inlay o) n ps).flatMap Entry.anchors = ps.flatMap entryAnchors := by
  induction ps generalizing n with
  | nil => exact ⟨fun e he => (List.not_mem_nil he).elim, rfl⟩
  | cons p ps ih =>
      obtain ⟨⟨hp, hplain, hinlaid⟩, hps⟩ := List.forall_mem_cons.1 hps
      obtain ⟨hwhole, hevents⟩ := ih hps (n + 1)
      obtain ⟨hclosed, hinner⟩ := events_inlay hp.inline hplain hinlaid
      refine ⟨List.forall_mem_cons.2 ⟨⟨isClean_anchorOf n, hclosed⟩, hwhole⟩, ?_⟩
      rw [entriesFrom, List.flatMap_cons, List.flatMap_cons, hevents, Entry.anchors, hinner, entryAnchors]

theorem plain_draws {settings : Settings} (h : settings.inlineHtml = false) (loc : Location) :
    Inline.Draws settings (fun _ => True) loc Node.IsPlain where
  leaf content hinline hdrawn := by
    cases content with
    | htmlInline html =>
        rw [show settings.inlineHtml = true from hdrawn] at h
        cases h
    | codeBlock | thematicBreak | htmlBlock | other => exact hinline.elim
    | _ => trivial
  branch shape children hshape hchildren := by
    refine ⟨?_, Node.arePlain_iff.2 hchildren⟩
    cases shape with
    | other => exact hshape.elim
    | _ => trivial

theorem plain_of_parse {settings : Settings} (hhtml : settings.inlineHtml = false) {file : Option String}
    {source : String} {root : Node} (h : parse settings file source = .ok root) (place : Place) :
    ∀ p ∈ root.headings place, Node.ArePlain p.children := by
  refine headings_of_parse (fun _ loc _ text _ _ => Node.arePlain_iff.2 ?_) h place
  exact Inline.read_draws (plain_draws hhtml loc) trivial fun _ _ => trivial

theorem exists_entries_of_page {place : Place} {settings : Settings} {file : Option String} {source : Source}
    {text : String} (htext : source.read? = some text) (hmarker : Source.hasMarker text = true)
    {s u : State} {page : Page}
    (hpage : (toHtml (renderer o) place settings file source).run s = (.ok page, u)) :
    ∃ root, parse settings file text = .ok root ∧
      (∀ p ∈ root.listed place, p.Plain ∧ Inlaid o p (inlay o p)) ∧
      layout (entriesFrom (inlay o) 0 (root.listed place)) none = .ok page.outline := by
  obtain ⟨root, marked', t, hparse, houtline, hbody⟩ := run_toHtml_ok _ place htext hmarker hpage
  have hroot := parse_of_source htext hparse
  have hplain : ∀ p ∈ root.headings place, p.Plain := fun p hp => (fresh_of_parse hroot place p hp).1
  obtain ⟨parts, hparts, _⟩ := run_parts_of_render _ place hbody
  obtain ⟨anchors, rfl⟩ : ∃ anchors, marked' = assign anchors place root :=
    ⟨_, (congrArg (fun x => x.1.2) houtline).symm⟩
  have hinlaid : ∀ p ∈ root.listed place, Inlaid o p (inlay o p) := fun p hp =>
    inlaid_of_parts hplain anchors hparts p (List.mem_filter.1 hp).1
  rw [run_outline (run_collect hplain hinlaid s), layout_collected, entries_collected] at houtline
  exact ⟨root, hroot, fun p hp => ⟨hplain p (List.mem_filter.1 hp).1, hinlaid p hp⟩,
    (Prod.mk.inj (Prod.mk.inj houtline).1).1⟩

end

/-- Without raw markup in the text an outline has one anchor for each heading that is not a title block and
one for each link in these, and an anchor begins inside another if and only if there is such a link. -/
theorem outline_anchors (o : Options) (place : Place) {settings : Settings}
    (hhtml : settings.inlineHtml = false) (file : Option String) {source : Source} {text : String}
    (htext : source.read? = some text) (hmarker : Source.hasMarker text = true) {s u : State} {page : Page}
    (hpage : (toHtml (renderer o) place settings file source).run s = (.ok page, u)) :
    ∃ root, parse settings file text = .ok root ∧
      occurrences anchorStart page.outline.toList =
        (root.listed place).length + linksIn (root.listed place) ∧
      occurrences anchorEnd page.outline.toList =
        (root.listed place).length + linksIn (root.listed place) ∧
      (Nests page.outline.toList ↔ ∃ p ∈ root.listed place, Node.linksAll p.children ≠ 0) := by
  obtain ⟨root, hroot, hinlaid, hlayout⟩ := exists_entries_of_page htext hmarker hpage
  have hplain := plain_of_parse hhtml hroot place
  have hheadings : ∀ p ∈ root.listed place, p.Plain ∧ Node.ArePlain p.children ∧ Inlaid o p (inlay o p) :=
    fun p hp => ⟨(hinlaid p hp).1, hplain p (List.mem_filter.1 hp).1, (hinlaid p hp).2⟩
  obtain ⟨hwhole, hanchors⟩ := anchors_entriesFrom hheadings 0
  have hevents := (events_layout hwhole hlayout).trans hanchors
  refine ⟨root, hroot, ?_, ?_, ?_⟩
  · rw [occurrences_start, hevents, count_entryAnchors]
  · rw [occurrences_end, hevents, count_entryAnchors]
  · rw [nests_iff, hevents]
    constructor
    · rintro ⟨front, back, hsplit, hcount⟩
      by_contra hnone
      push Not at hnone
      exact Nat.ne_of_lt hcount (count_of_no_links hnone hsplit)
    · rintro ⟨p, hp, hlinks⟩
      exact exists_inside hp hlinks

def linkedHeading : Source := .text "[TOC]\n# [x](u)"

def linkedPage : Page :=
  ⟨"\n<ul>\n<li><a href=\"#toc_0\"><a href=\"u\">x</a></a></li>\n</ul>",
    "<h1 id=\"toc_0\"><a href=\"u\">x</a></h1>\n"⟩

theorem linkedHeading_anchors : ∃ root, parse { inlineHtml := false } none "[TOC]\n# [x](u)" = .ok root ∧
    occurrences anchorStart linkedPage.outline.toList =
      (root.listed []).length + linksIn (root.listed []) ∧
    (Nests linkedPage.outline.toList ↔ ∃ p ∈ root.listed [], Node.linksAll p.children ≠ 0) := by
  obtain ⟨u, hpage⟩ := exists_run_of_toOption
    (show ((toHtml (renderer {}) [] { inlineHtml := false } none linkedHeading).run {}).1.toOption =
        some linkedPage by
      decide +kernel)
  obtain ⟨root, hroot, hstart, _, hnests⟩ := outline_anchors {} [] rfl none rfl (by decide +kernel) hpage
  exact ⟨root, hroot, hstart, hnests⟩

/-- One heading with two anchors, one inside the other. -/
theorem linkedHeading_nests :
    ((toHtml (renderer {}) [] { inlineHtml := false } none linkedHeading).run {}).1.toOption = some linkedPage ∧
      (parse { inlineHtml := false } none "[TOC]\n# [x](u)").toOption.map
        (fun root => (root.listed []).length) = some 1 ∧
      occurrences anchorStart linkedPage.outline.toList = 2 ∧ Nests linkedPage.outline.toList := by
  refine ⟨by decide +kernel, by decide +kernel, by decide +kernel, ?_⟩
  exact ⟨"\n<ul>\n<li><a href=\"#toc_0\">".toList, "href=\"u\">x</a></a></li>\n</ul>".toList,
    by decide +kernel, by decide +kernel⟩

end MarkdownOutline.Outline
