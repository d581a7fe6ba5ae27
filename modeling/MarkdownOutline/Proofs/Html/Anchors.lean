import MarkdownOutline.Proofs.Html.Slugs
import MarkdownOutline.Proofs.Text.Escape

namespace MarkdownOutline.Html

open Text Markup

theorem anchoredTag_injective (h : Heading) : Function.Injective (anchoredTag h) := by
  intro a b heq
  simp only [anchoredTag, Markup.write, writeAttributes, writeAttribute, List.map_cons, List.map_nil,
    String.join_cons, String.join_nil, String.append_empty, String.append_assoc, String.append_right_inj] at heq
  have hchars := String.ofList_injective ((String.append_left_inj _).1 heq)
  exact String.toList_injective (escapeChars_injective hchars)

mutual

/-- A walk begins the entries of an outline in document order. -/
theorem filterMap_opened?_visits (place : Place) (node : Node) :
    (node.visits place).filterMap Outline.opened? = node.listed place := by
  cases node with
  | leaf loc content => rfl
  | branch loc shape children =>
      have hleaving : [(⟨place, .branch loc shape children, false⟩ : Visit)].filterMap Outline.opened? = [] := rfl
      have hentering : [(⟨place, .branch loc shape children, true⟩ : Visit)].filterMap Outline.opened? =
          (ownHeading place loc shape children).filter fun p => !p.heading.isTitle := by
        cases shape with
        | heading h => cases htitle : h.isTitle <;> simp [Outline.opened?, ownHeading, htitle]
        | _ => rfl
      rw [Node.visits, ← List.singleton_append, List.filterMap_append, List.filterMap_append, hleaving, hentering,
        filterMap_opened?_visitsAll, List.append_nil, Node.listed, Node.headings, List.filter_append]

theorem filterMap_opened?_visitsAll (place : Place) (index : Nat) (children : List Node) :
    (Node.visitsAll place index children).filterMap Outline.opened? =
      (Node.headingsAll place index children).filter fun p => !p.heading.isTitle := by
  cases children with
  | nil => rfl
  | cons child rest =>
      rw [Node.visitsAll, Node.headingsAll, List.filterMap_append, List.filter_append,
        filterMap_opened?_visits (index :: place) child, filterMap_opened?_visitsAll place (index + 1) rest, Node.listed]

end

section

variable (o : Options)

theorem filterMap_asked?_visits (place : Place) (root : Node) :
    (root.visits place).filterMap (asked? o) = (root.headings place).filter fun p => wantsSlug o p.heading := by
  have hasked : asked? o = fun v => (Outline.opened? v).bind (Option.guard fun p => wantsSlug o p.heading) := by
    funext v
    rw [asked?]
    cases Outline.opened? v <;> simp [Option.filter, Option.guard]
  have hlisted : (fun p : Placed => (!p.heading.isTitle) && wantsSlug o p.heading) =
      fun p => wantsSlug o p.heading := by
    funext p
    simp only [wantsSlug]
    cases p.heading.isTitle <;> simp
  rw [hasked, ← List.filterMap_filterMap, filterMap_opened?_visits, Node.listed, List.filterMap_eq_filter,
    List.filter_filter, ← hlisted]
  simp only [Bool.and_comm]

variable {o}

theorem exists_part_of_mem {visits : List Visit} {body : List (Visit × String)} {s u : State} {v : Visit}
    (h : (visits.mapM (Outline.record o)).run.run s = (.ok body, u)) (hv : v ∈ visits) :
    ∃ t t' markup, (visit o v).run.run t = (.ok markup, t') ∧ (v, write markup) ∈ body := by
  obtain ⟨before, after, hvisits⟩ := List.append_of_mem hv
  have hinfix : [v] <:+: visits := ⟨before, after, by simp [hvisits]⟩
  obtain ⟨inside, t, t', hwithin, hinside⟩ := Outline.exists_infix_of_run_mapM hinfix h
  obtain ⟨markup, t₁, more, hmarkup, hmore, rfl⟩ := Outline.exists_of_run_record_cons hinside
  exact ⟨t, t₁, markup, hmarkup, hwithin.subset List.mem_cons_self⟩

theorem run_visit_explicit {p : Placed} (hid : p.heading.id = none) (htitle : p.heading.isTitle = false)
    {id : String} (hexplicit : p.heading.explicitId = some id) {s t : State} {markup : List Markup}
    (h : (visit o ⟨p.place, p.node, true⟩).run.run s = (.ok markup, t)) :
    markup = [start (headingTag p.heading) (optional "id" (some id))] := by
  have hanchor : anchor? p.heading = some id := by
    rw [anchor?, hid]
    exact hexplicit
  have hopening a : opening o a (.heading p.heading) p.children =
      pure [start (headingTag p.heading) (optional "id" (some id))] := by
    simp [opening, headingOpening, htitle, hanchor]
  rw [Placed.node, run_entering, hopening] at h
  cases h
  rfl

theorem mem_or_mem_handOut {used : Std.HashSet String} {bases : List String} :
    ∀ base ∈ bases, base ∈ used ∨ base ∈ handOut used bases := by
  induction bases generalizing used with
  | nil => exact List.forall_mem_nil _
  | cons first bases ih =>
      obtain ⟨n, hfresh, hn⟩ := exists_firstFrom used first
      refine List.forall_mem_cons.2 ⟨?_, fun base hbase => ?_⟩
      · rcases Nat.eq_zero_or_pos n with rfl | hpos
        · rw [numbered_zero] at hfresh
          exact .inr (List.mem_cons.2 (.inl hfresh.symm))
        · exact .inl (hn.below 0 (Nat.le_refl 0) hpos)
      · rcases ih base hbase with hused | hlater
        · rcases Std.HashSet.mem_insert.1 hused with hfirst | hused
          · exact .inr (List.mem_cons.2 (.inl (eq_of_beq hfirst).symm))
          · exact .inl hused
        · exact .inr (List.mem_cons_of_mem _ hlater)

theorem exists_mem_zipWith_iff {asked : List Placed} {slugs : List String} (hlength : slugs.length = asked.length)
    (id : String) :
    (∃ p, (p, anchoredTag p.heading id) ∈
      List.zipWith (fun p slug => (p, anchoredTag p.heading slug)) asked slugs) ↔ id ∈ slugs := by
  constructor
  · rintro ⟨p, hp⟩
    obtain ⟨i, hi, hp⟩ := List.mem_iff_getElem.1 hp
    rw [List.getElem_zipWith, Prod.mk.injEq] at hp
    obtain ⟨hplace, htag⟩ := hp
    rw [hplace] at htag
    rw [← anchoredTag_injective p.heading htag]
    exact List.getElem_mem _
  · intro hid
    obtain ⟨i, hi, rfl⟩ := List.mem_iff_getElem.1 hid
    have hi' : i < asked.length := hlength ▸ hi
    refine ⟨asked[i], List.mem_iff_getElem.2 ⟨i, by rw [List.length_zipWith]; exact lt_min hi' hi, ?_⟩⟩
    rw [List.getElem_zipWith]

/-- Where no outline has given identifiers, the slugs are made for the headings without one in the source, from
their texts alone. An identifier of the source is in its tag, and another heading has it as a slug exactly if it is
among the slugs that are handed out. That is so whenever the text of such a heading is slugged to it. -/
theorem anchors_written {place : Place} {root : Node} {s u : State} {parts : Parts}
    (h : ((renderer o).parts place root).run.run s = (.ok parts, u))
    (hunmarked : ∀ p ∈ root.headings place, p.heading.id = none) :
    ∃ bases : List String,
      List.Forall₂ (fun p base => IsBase o (plainTexts p.children) base)
        ((root.headings place).filter fun p => wantsSlug o p.heading) bases ∧
      askedParts o parts.body = List.zipWith (fun p slug => (p, anchoredTag p.heading slug))
        ((root.headings place).filter fun p => wantsSlug o p.heading) (handOut {} bases) ∧
      ∀ q ∈ root.headings place, q.heading.isTitle = false → ∀ id, q.heading.explicitId = some id →
        (⟨q.place, q.node, true⟩, (start (headingTag q.heading) (optional "id" (some id))).write) ∈ parts.body ∧
        ((∃ p, (p, anchoredTag p.heading id) ∈ askedParts o parts.body) ↔ id ∈ handOut {} bases) ∧
        (id ∈ bases → id ∈ handOut {} bases) ∧
        (id ∈ handOut {} bases → ∃ base ∈ bases, ∃ n, id = numbered base n) := by
  obtain ⟨front, t, t', hheader, hbody⟩ := Outline.run_header_of_parts h
  have hslugs : t.slugs = {} := by
    have hrun := run_header_slugs o root s
    rwa [hheader] at hrun
  obtain ⟨bases, hbases, hparts⟩ := run_records hbody
  rw [filterMap_asked?_visits] at hbases hparts
  rw [hslugs] at hparts
  have hlength : (handOut {} bases).length = ((root.headings place).filter fun p => wantsSlug o p.heading).length := by
    rw [length_handOut, hbases.length_eq]
  refine ⟨bases, hbases, hparts, fun q hq htitle id hid => ⟨?_, ?_, ?_, exists_base_of_mem_handOut⟩⟩
  · have hvisit : (⟨q.place, q.node, true⟩ : Visit) ∈ root.visits place :=
      (visits_of_mem_headings hq).subset List.mem_cons_self
    obtain ⟨_, _, markup, hmarkup, hpart⟩ := exists_part_of_mem hbody hvisit
    rw [run_visit_explicit (hunmarked q hq) htitle hid hmarkup] at hpart
    simpa [write] using hpart
  · rw [hparts]
    exact exists_mem_zipWith_iff hlength id
  · intro hbase
    exact (mem_or_mem_handOut id hbase).resolve_left Std.HashSet.not_mem_empty

end

def identifiedHeadings (id : String) : Node :=
  .branch ⟨1, 1, some 3, none⟩ .document [textHeading 1 { explicitId := some id } "a", textHeading 3 {} "b"]

theorem identifiedHeadings_written : ∃ parts u,
    ((renderer plainSlugs).parts [] (identifiedHeadings "c")).run.run {} = (.ok parts, u) ∧
    (∀ p ∈ (identifiedHeadings "c").headings [], p.heading.id = none) ∧
    (⟨[0], textHeading 1 { explicitId := some "c" } "a", true⟩, "<h1 id=\"c\">") ∈ parts.body ∧
    ¬∃ p, (p, anchoredTag p.heading "c") ∈ askedParts plainSlugs parts.body := by
  obtain ⟨parts, u, h⟩ := @exists_parts plainSlugs (identifiedHeadings "c") rfl [] {}
  have hunmarked : ∀ p ∈ (identifiedHeadings "c").headings [], p.heading.id = none := by
    simp [identifiedHeadings, textHeading, Node.headings, Node.headingsAll, ownHeading]
  obtain ⟨bases, hbases, _, hall⟩ := anchors_written h hunmarked
  have hasked : (((identifiedHeadings "c").headings []).filter fun p => wantsSlug plainSlugs p.heading) =
      [⟨[1], ⟨3, 1, none, none⟩, {}, [.leaf ⟨3, 1, none, none⟩ (.text "b")]⟩] := rfl
  rw [hasked] at hbases
  obtain ⟨base, more, hbase, hmore, rfl⟩ := List.forall₂_cons_left_iff.1 hbases
  obtain rfl := List.forall₂_nil_left_iff.1 hmore
  obtain ⟨htag, hmet, _⟩ :=
    hall ⟨[0], ⟨1, 1, none, none⟩, { explicitId := some "c" }, [.leaf ⟨1, 1, none, none⟩ (.text "a")]⟩
      List.mem_cons_self rfl "c" rfl
  refine ⟨parts, u, h, hunmarked, htag, fun hslug => ?_⟩
  obtain rfl : base = "b" := IsBase.eq_of_plainSlugs (by decide) hbase
  have hmem := hmet.1 hslug
  rw [handOut, freshSlug_of_not_mem Std.HashSet.not_mem_empty, handOut] at hmem
  exact absurd hmem (by decide)

/-- An identifier of the source and a slug may be the same. -/
theorem identifiedHeadings_collide :
    parse {} none "# a \x7b#b\x7d\n\n# b" = .ok (identifiedHeadings "b") ∧
    rendering { autoHeadingIds := true } [] (identifiedHeadings "b") {} =
      .ok "<h1 id=\"b\">a</h1>\n<h1 id=\"b\">b</h1>\n" := by
  refine ⟨ok_of_toOption (by decide +kernel), ?_⟩
  have hslug : slug "b" = .ok "b" := ok_of_toOption (by decide +kernel)
  have hfresh : freshSlug {} "b" = "b" := freshSlug_of_not_mem Std.HashSet.not_mem_empty
  have hgiven (text : String) : headingOpening { autoHeadingIds := true } { explicitId := some "b" } text =
      pure (start "h1" [⟨"id", "b"⟩]) := rfl
  have hslugged : (headingOpening { autoHeadingIds := true } {} "b").run.run {} =
      (.ok (start "h1" [⟨"id", "b"⟩]), { slugs := ({} : Std.HashSet String).insert "b" }) := by
    have hunique : (uniqueSlug { autoHeadingIds := true } "b").run.run {} =
        (.ok "b", { slugs := ({} : Std.HashSet String).insert "b" }) := by
      rw [run_uniqueSlug]
      simp [hslug, hfresh]
    rw [headingOpening_of_wantsSlug _ rfl, run_bind_of_ok hunique]
    rfl
  have htext loc : plainTexts [.leaf loc (.text "b")] = "b" := rfl
  rw [rendering_eq_page]
  simp only [page, header, identifiedHeadings, textHeading, tree, trees, opening, closing, leaf, run_bind, run_pure,
    run_modify, hgiven, htext, hslugged, Bool.false_eq_true, if_false]
  decide

end MarkdownOutline.Html
