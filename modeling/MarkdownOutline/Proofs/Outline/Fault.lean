import MarkdownOutline.Proofs.Outline.Agreement

namespace MarkdownOutline.Outline

theorem exists_writeFrom {minimum : Int} {entries : List Entry} (h : ∀ e ∈ entries, minimum ≤ e.level)
    (current : Nat) : ∃ text, writeFrom minimum current entries = .ok text := by
  induction entries generalizing current with
  | nil => exact ⟨_, rfl⟩
  | cons e rest ih =>
      obtain ⟨he, hrest⟩ := List.forall_mem_cons.1 h
      obtain ⟨text, htext⟩ := ih hrest (e.level - minimum + 1).toNat
      rw [writeFrom, if_neg (Int.not_lt.2 he)]
      simp only [htext]
      exact ⟨_, rfl⟩

theorem exists_layout_of_le {entries : List Entry} {minimum : Option Int}
    (h : ∀ level ∈ minimum, ∀ e ∈ entries, level ≤ e.level) : ∃ text, layout entries minimum = .ok text := by
  rw [layout]
  cases hminimum : minimum.or (minLevel? entries) with
  | none => exact ⟨_, rfl⟩
  | some level =>
      simp only
      split
      · exact ⟨_, rfl⟩
      · refine exists_writeFrom (fun e he => ?_) 0
        rcases Option.or_eq_some_iff.1 hminimum with hlevel | ⟨_, hlevel⟩
        · exact h level hlevel e he
        · exact (List.min?_eq_some_iff.1 hlevel).2 e.level (List.mem_map_of_mem he)

/-- No entry is above the shallowest. -/
theorem exists_layout (entries : List Entry) : ∃ text, layout entries none = .ok text :=
  exists_layout_of_le fun _ h => by cases h

section

variable {o : Html.Options}

variable (o) in
def inlayFault? (p : Placed) : Option RenderError := Html.treesFault? o p.children

theorem inlay_cases {p : Placed} (hp : p.Plain) :
    (inlayFault? o p = none ∧ Inlaid o p (inlay o p)) ∨
      ∃ e, inlayFault? o p = some e ∧
        ∀ s, ((Html.emit o (Node.visitsAll p.place 0 p.children)).run.run s).1 = .error e := by
  obtain ⟨result, t, k, htrees, hemit, _⟩ := Html.follows_trees o (c := [])
    ⟨p.place, .heading p.heading, p.children.length⟩ 0 p.children (Nat.zero_add _) {}
  have hfault : errorOf? result = inlayFault? o p := by
    have hfails := Html.fails_trees o (Html.around [⟨p.place, .heading p.heading, p.children.length⟩])
      p.children {}
    rw [htrees] at hfails
    exact hfails
  rcases Html.steady_emitAll o hp.inline p.place 0 with ⟨markup, hok⟩ | ⟨e, he⟩
  · have hinlaid : Inlaid o p (Html.write markup) := ⟨markup, rfl, hok⟩
    rw [hok] at hemit
    rw [← (Prod.mk.inj hemit).1] at hfault
    exact .inl ⟨hfault.symm, hinlaid.eq_inlay ▸ hinlaid⟩
  · have hresult := he { containers := [⟨p.place, .heading p.heading, p.children.length⟩] }
    rw [hemit] at hresult
    rw [show result = .error e from hresult] at hfault
    exact .inr ⟨e, hfault.symm, he⟩

theorem run_step_fault {v : Visit} (hv : listed? v.node = none) {c : Collector}
    (hc : c.current.isSome = true) {s : Html.State} {e : RenderError}
    (hvisit : ((Html.visit o v).run.run s).1 = .error e) :
    ((step o v).run.run (c, s)).1 = .error (.render e) := by
  obtain ⟨t, hrun⟩ : ∃ t, (Html.visit o v).run.run s = (.error e, t) := ⟨_, Prod.ext hvisit rfl⟩
  rw [run_step_error hv hc hrun]

theorem run_forM_fault {v : Visit} {x : Collector × Html.State} {e : OutlineError}
    (h : ((step o v).run.run x).1 = .error e) (visits : List Visit) :
    (((v :: visits).forM (step o)).run.run x).1 = .error e := run_bind_of_error h _

theorem run_forM_append_fault {visits : List Visit} {x : Collector × Html.State} {e : OutlineError}
    (h : ((visits.forM (step o)).run.run x).1 = .error e) (more : List Visit) :
    (((visits ++ more).forM (step o)).run.run x).1 = .error e := by
  have happend : (visits ++ more).forM (step o) =
      (do visits.forM (step o); more.forM (step o)) := List.forM_append
  rw [happend]
  exact run_bind_of_error h _

theorem run_inlay_fault {visits : List Visit} (hvisits : ∀ v ∈ visits, listed? v.node = none)
    {c : Collector} (hc : c.current.isSome = true) {s : Html.State} {e : RenderError}
    (h : ((Html.emit o visits).run.run s).1 = .error e) :
    ((visits.forM (step o)).run.run (c, s)).1 = .error (.render e) := by
  induction visits generalizing c s with
  | nil =>
      rw [Html.emit_nil, run_pure] at h
      cases h
  | cons v visits ih =>
      obtain ⟨hv, hvisits⟩ := List.forall_mem_cons.1 hvisits
      obtain ⟨result, t, hvisit⟩ : ∃ result t, (Html.visit o v).run.run s = (result, t) := ⟨_, _, rfl⟩
      cases result with
      | error cause =>
          rw [Html.emit_cons, run_bind_of_error (congrArg Prod.fst hvisit)] at h
          cases h
          exact run_forM_fault (run_step_fault hv hc (congrArg Prod.fst hvisit)) visits
      | ok markup =>
          have hopen : (c.write (Html.write markup)).current.isSome = true := by
            rw [Collector.write, Option.isSome_map, hc]
          rw [run_forM_cons (run_step_inlay hv hc hvisit)]
          refine ih hvisits hopen ?_
          obtain ⟨more, u, hmore⟩ : ∃ more u, (Html.emit o visits).run.run t = (more, u) := ⟨_, _, rfl⟩
          rw [Html.emit_cons, run_bind_of_ok hvisit, run_bind, hmore] at h
          cases more with
          | ok more => cases h
          | error cause => rw [hmore]; exact h

theorem run_heading_fault {p : Placed} (hp : p.Plain) (hlisted : p.heading.isTitle = false)
    {e : RenderError} (he : inlayFault? o p = some e) (c : Collector) (s : Html.State) :
    ((p.visits.forM (step o)).run.run (c, s)).1 = .error (.render e) := by
  have hnode := listed?_node hlisted
  rcases inlay_cases (o := o) hp with ⟨hnone, _⟩ | ⟨e', hsome, hrun⟩
  · rw [hnone] at he
    cases he
  · obtain rfl : e' = e := Option.some.inj (hsome.symm.trans he)
    rw [Placed.visits, Placed.node, Node.visits, run_forM_cons (run_step_enter hnode rfl hp.level c s)]
    exact run_forM_append_fault
      (run_inlay_fault (listed?_of_areInline hp.inline p.place 0) rfl (hrun s)) _

theorem inlaid_of_findSome? {ps : List Placed} (hplain : ∀ p ∈ ps, p.Plain)
    (h : ps.findSome? (inlayFault? o) = none) : ∀ p ∈ ps, Inlaid o p (inlay o p) := by
  intro p hp
  rcases inlay_cases (o := o) (hplain p hp) with ⟨_, hinlaid⟩ | ⟨e, he, _⟩
  · exact hinlaid
  · rw [List.findSome?_eq_none_iff.1 h p hp] at he
    cases he

mutual

theorem run_tree_fault {place : Place} {node : Node} (hplain : ∀ p ∈ node.headings place, p.Plain)
    {e : RenderError} (he : (node.listed place).findSome? (inlayFault? o) = some e) {c : Collector}
    (hc : c.current = none) (s : Html.State) :
    (((node.visits place).forM (step o)).run.run (c, s)).1 = .error (.render e) := by
  cases node with
  | leaf loc content => cases he
  | branch loc shape children =>
      rw [Node.listed, Node.headings, List.filter_append] at he
      rcases listed?_cases loc shape children place with ⟨h, rfl, htitle⟩ | ⟨hnode, hown⟩
      · have hp : (⟨place, loc, h, children⟩ : Placed).Plain := hplain _ (List.mem_cons_self ..)
        rw [headingsAll_of_areInline hp.inline, List.filter_nil, List.append_nil] at he
        rw [filter_ownHeading htitle, List.findSome?_singleton] at he
        exact run_heading_fault hp htitle he c s
      · rw [hown, List.nil_append] at he
        rw [Node.visits, run_forM_cons (run_step_idle hnode hc s)]
        exact run_forM_append_fault (run_trees_fault (List.forall_mem_append.1 hplain).2 he hc s) _

theorem run_trees_fault {place : Place} {index : Nat} {children : List Node}
    (hplain : ∀ p ∈ Node.headingsAll place index children, p.Plain) {e : RenderError}
    (he : ((Node.headingsAll place index children).filter fun p => !p.heading.isTitle).findSome?
      (inlayFault? o) = some e) {c : Collector} (hc : c.current = none) (s : Html.State) :
    (((Node.visitsAll place index children).forM (step o)).run.run (c, s)).1 = .error (.render e) := by
  cases children with
  | nil => cases he
  | cons child rest =>
      rw [Node.headingsAll, List.filter_append, List.findSome?_append] at he
      obtain ⟨hchild, hrest⟩ := List.forall_mem_append.1 hplain
      rw [Node.visitsAll]
      rcases Option.or_eq_some_iff.1 he with he | ⟨hnone, he⟩
      · exact run_forM_append_fault (run_tree_fault hchild he hc s) _
      · have hinlaid := inlaid_of_findSome? (fun p hp => hchild p (List.mem_filter.1 hp).1) hnone
        rw [run_forM_append (run_tree hchild hinlaid hc s)]
        exact run_trees_fault hrest he (Collector.current_addAll hc _ _) s

end

/-- An outline fails at the first heading in it whose inside cannot be written. -/
theorem errorOf?_outline {place : Place} {root : Node} (hplain : ∀ p ∈ root.headings place, p.Plain)
    (s : Html.State) : errorOf? ((render (Html.renderer o) place root).run s).1.1 =
      ((root.listed place).findSome? (inlayFault? o)).map .render := by
  cases hfault : (root.listed place).findSome? (inlayFault? o) with
  | none =>
      have hinlaid := inlaid_of_findSome? (fun p hp => hplain p (List.mem_filter.1 hp).1) hfault
      rw [run_outline (run_collect hplain hinlaid s), layout_collected]
      obtain ⟨text, htext⟩ := exists_layout (collected o place root).entries
      rw [htext]
      rfl
  | some e =>
      have hrun : ((walk (collectVisit (Html.renderer o)) place root).run.run ({}, s)).1 =
          .error (.render e) := by
        rw [walk_collectVisit]
        exact run_bind_of_error (run_tree_fault hplain hfault rfl s) _
      have hcollect : (collectWalk (Html.renderer o) place root ({}, s)).1 = .error (.render e) :=
        run_bind_of_error hrun _
      have hresult : ((render (Html.renderer o) place root).run s).1.1 =
          ((collectWalk (Html.renderer o) place root ({}, s)).1.map fun _ =>
            (collectWalk (Html.renderer o) place root ({}, s)).2.1).bind fun c =>
              layout c.entries c.minimum := rfl
      rw [hresult, hcollect]
      rfl

end

end MarkdownOutline.Outline
