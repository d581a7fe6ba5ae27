import MarkdownOutline.Proofs.Outline.Collector

namespace MarkdownOutline.Outline

section

variable {o : Html.Options}

theorem run_forM_cons {s t : Collector × Html.State} {v : Visit}
    (h : (step o v).run.run s = (.ok ⟨⟩, t)) (visits : List Visit) :
    ((v :: visits).forM (step o)).run.run s = (visits.forM (step o)).run.run t :=
  run_bind_of_ok h _

theorem run_forM_append {s t : Collector × Html.State} {visits : List Visit}
    (h : (visits.forM (step o)).run.run s = (.ok ⟨⟩, t)) (more : List Visit) :
    ((visits ++ more).forM (step o)).run.run s = (more.forM (step o)).run.run t := by
  have happend : (visits ++ more).forM (step o) =
      (do visits.forM (step o); more.forM (step o)) := List.forM_append
  rw [happend, run_bind_of_ok h]

theorem run_cons_of_error {x y : Collector × Html.State} {v : Visit} {e : OutlineError}
    (h : (step o v).run.run x = (.error e, y)) (visits : List Visit) :
    ((v :: visits).forM (step o)).run.run x = (.error e, y) := by
  have hcons : (v :: visits).forM (step o) = (do step o v; visits.forM (step o)) := List.forM_cons
  rw [hcons, run_bind, h]

theorem run_append_of_error {x y : Collector × Html.State} {visits : List Visit} {e : OutlineError}
    (h : (visits.forM (step o)).run.run x = (.error e, y)) (more : List Visit) :
    ((visits ++ more).forM (step o)).run.run x = (.error e, y) := by
  have happend : (visits ++ more).forM (step o) =
      (do visits.forM (step o); more.forM (step o)) := List.forM_append
  rw [happend, run_bind, h]

mutual

theorem listed?_of_titles {node : Node} {place : Place}
    (h : ∀ p ∈ node.headings place, p.heading.isTitle = true) :
    ∀ v ∈ node.visits place, listed? v.node = none := by
  cases node with
  | leaf loc content => exact List.forall_mem_singleton.2 rfl
  | branch loc shape children =>
      obtain ⟨hown, hinner⟩ := List.forall_mem_append.1 h
      have hnode : listed? (.branch loc shape children) = none := by
        cases shape with
        | heading heading =>
            have htitle : heading.isTitle = true := hown _ (List.mem_singleton_self _)
            simp [listed?, Node.heading?, htitle]
        | _ => rfl
      refine List.forall_mem_cons.2 ⟨hnode, List.forall_mem_append.2 ⟨listed?_of_allTitles hinner, ?_⟩⟩
      exact List.forall_mem_singleton.2 hnode

theorem listed?_of_allTitles {children : List Node} {place : Place} {index : Nat}
    (h : ∀ p ∈ Node.headingsAll place index children, p.heading.isTitle = true) :
    ∀ v ∈ Node.visitsAll place index children, listed? v.node = none := by
  cases children with
  | nil => exact fun _ hv => (List.not_mem_nil hv).elim
  | cons child rest =>
      obtain ⟨hchild, hrest⟩ := List.forall_mem_append.1 h
      exact List.forall_mem_append.2 ⟨listed?_of_titles hchild, listed?_of_allTitles hrest⟩

end

theorem listed?_of_isInline {node : Node} (h : node.IsInline) (place : Place) :
    ∀ v ∈ node.visits place, listed? v.node = none :=
  listed?_of_titles (by simp [headings_of_isInline h])

theorem listed?_of_areInline {children : List Node} (h : Node.AreInline children) (place : Place)
    (index : Nat) : ∀ v ∈ Node.visitsAll place index children, listed? v.node = none :=
  listed?_of_allTitles (by simp [headingsAll_of_areInline h])

/-- Inside a heading everything that is written is collected. -/
theorem run_inlay {visits : List Visit} (hvisits : ∀ v ∈ visits, listed? v.node = none)
    {c : Collector} (hc : c.current.isSome = true) {s t : Html.State} {markup : List Html.Markup}
    (h : (Html.emit o visits).run.run s = (.ok markup, t)) :
    (visits.forM (step o)).run.run (c, s) = (.ok ⟨⟩, (c.write (Html.write markup), t)) := by
  induction visits generalizing c s markup with
  | nil =>
      rw [Html.emit_nil, run_pure] at h
      cases h
      rw [show Html.write [] = "" from rfl, Collector.write_empty]
      rfl
  | cons v visits ih =>
      obtain ⟨hv, hvisits⟩ := List.forall_mem_cons.1 hvisits
      rw [Html.emit_cons] at h
      obtain ⟨front, u, hfront, h⟩ := exists_of_run_bind_eq_ok h
      obtain ⟨rest, u', hrest, h⟩ := exists_of_run_bind_eq_ok h
      cases h
      have hopen : (c.write (Html.write front)).current.isSome = true := by
        rw [Collector.write, Option.isSome_map, hc]
      rw [run_forM_cons (run_step_inlay hv hc hfront), ih hvisits hopen hrest,
        Collector.write_write, Html.write_append]

def Inlaid (o : Html.Options) (p : Placed) (html : String) : Prop :=
  ∃ markup, html = Html.write markup ∧
    ∀ s, (Html.emit o (Node.visitsAll p.place 0 p.children)).run.run s = (.ok markup, s)

def inlay (o : Html.Options) (p : Placed) : String :=
  match ((Html.emit o (Node.visitsAll p.place 0 p.children)).run.run {}).1 with
  | .ok markup => Html.write markup
  | .error _ => ""

theorem Inlaid.eq_inlay {p : Placed} {html : String} (h : Inlaid o p html) : html = inlay o p := by
  obtain ⟨markup, rfl, hrun⟩ := h
  rw [inlay, hrun]

theorem run_heading {p : Placed} (hp : p.Plain) (hlisted : p.heading.isTitle = false) {html : String}
    (hhtml : Inlaid o p html) (c : Collector) (s : Html.State) :
    (p.visits.forM (step o)).run.run (c, s) = (.ok ⟨⟩, (c.add p html, s)) := by
  obtain ⟨markup, rfl, hrun⟩ := hhtml
  have hnode := listed?_node hlisted
  have hinner := listed?_of_areInline hp.inline p.place 0
  rw [Placed.visits, Placed.node, Node.visits, run_forM_cons (run_step_enter hnode rfl hp.level c s),
    run_forM_append (run_inlay hinner rfl (hrun s)), run_forM_cons (run_step_leave hnode rfl _ s)]
  rfl

theorem listed?_cases (loc : Location) (shape : Branch) (children : List Node) (place : Place) :
    (∃ h, shape = .heading h ∧ h.isTitle = false) ∨
    (listed? (.branch loc shape children) = none ∧
      (ownHeading place loc shape children).filter (fun p => !p.heading.isTitle) = []) := by
  cases shape with
  | heading h =>
      cases htitle : h.isTitle with
      | false => exact .inl ⟨h, rfl, htitle⟩
      | true => exact .inr ⟨by simp [listed?, Node.heading?, htitle], by simp [ownHeading, htitle]⟩
  | _ => exact .inr ⟨rfl, rfl⟩

variable {html : Placed → String}

mutual

theorem run_tree {place : Place} {node : Node} (hplain : ∀ p ∈ node.headings place, p.Plain)
    (hhtml : ∀ p ∈ node.listed place, Inlaid o p (html p)) {c : Collector} (hc : c.current = none)
    (s : Html.State) :
    ((node.visits place).forM (step o)).run.run (c, s) = (.ok ⟨⟩, (c.addAll html (node.listed place), s)) := by
  cases node with
  | leaf loc content =>
      rw [Node.visits, run_forM_cons (run_step_idle rfl hc s)]
      rfl
  | branch loc shape children =>
      rw [Node.listed, Node.headings, List.filter_append] at hhtml ⊢
      rcases listed?_cases loc shape children place with ⟨h, rfl, htitle⟩ | ⟨hnode, hown⟩
      · have hp : (⟨place, loc, h, children⟩ : Placed).Plain := hplain _ (List.mem_cons_self ..)
        rw [headingsAll_of_areInline hp.inline, List.filter_nil, List.append_nil] at hhtml ⊢
        rw [filter_ownHeading htitle] at hhtml ⊢
        exact run_heading hp htitle (hhtml _ (List.mem_cons_self ..)) c s
      · rw [hown, List.nil_append] at hhtml ⊢
        have hinner := (List.forall_mem_append.1 hplain).2
        rw [Node.visits, run_forM_cons (run_step_idle hnode hc s),
          run_forM_append (run_trees hinner hhtml hc s),
          run_forM_cons (run_step_idle hnode (Collector.current_addAll hc _ _) s)]
        rfl

theorem run_trees {place : Place} {index : Nat} {children : List Node}
    (hplain : ∀ p ∈ Node.headingsAll place index children, p.Plain)
    (hhtml : ∀ p ∈ (Node.headingsAll place index children).filter (fun p => !p.heading.isTitle),
      Inlaid o p (html p)) {c : Collector} (hc : c.current = none) (s : Html.State) :
    ((Node.visitsAll place index children).forM (step o)).run.run (c, s) =
      (.ok ⟨⟩, (c.addAll html ((Node.headingsAll place index children).filter
        (fun p => !p.heading.isTitle)), s)) := by
  cases children with
  | nil => rfl
  | cons child rest =>
      rw [Node.headingsAll, List.filter_append] at hhtml ⊢
      obtain ⟨hchild, hrest⟩ := List.forall_mem_append.1 hplain
      obtain ⟨hfirst, hmore⟩ := List.forall_mem_append.1 hhtml
      rw [Node.visitsAll, run_forM_append (run_tree hchild hfirst hc s),
        run_trees hrest hmore (Collector.current_addAll hc _ _) s]
      simp only [Collector.addAll, List.foldl_append, Node.listed]

end

theorem walk_collectVisit (place : Place) (root : Node) :
    walk (collectVisit (Html.renderer o)) place root =
      (do (root.visits place).forM (step o); return .completed) := by
  rw [← walk_unsteered]
  exact congrArg (walk · place root) (funext (collectVisit_eq_step o))

theorem run_collectWalk {place : Place} {root : Node} (hplain : ∀ p ∈ root.headings place, p.Plain)
    (hhtml : ∀ p ∈ root.listed place, Inlaid o p (html p)) (s : Html.State) :
    collectWalk (Html.renderer o) place root ({}, s) =
      (.ok ⟨⟩, (Collector.addAll html {} (root.listed place), s)) := by
  have hidle : (Collector.addAll html {} (root.listed place)).current = none :=
    Collector.current_addAll rfl html _
  have hrun : (walk (collectVisit (Html.renderer o)) place root).run.run ({}, s) =
      (.ok .completed, (Collector.addAll html {} (root.listed place), s)) := by
    rw [walk_collectVisit, run_bind_of_ok (run_tree hplain hhtml rfl s), run_pure]
  change (collectWalk (Html.renderer o) place root).run.run ({}, s) = _
  rw [collectWalk, run_bind_of_ok hrun]
  change (Except.ok PUnit.unit, ((Collector.addAll html {} (root.listed place)).leave, s)) = _
  rw [Collector.leave_of_idle hidle]

end

def entriesFrom (html : Placed → String) : Nat → List Placed → List Entry
  | _, [] => []
  | n, p :: ps => ⟨p.heading.level, anchorOf n, html p⟩ :: entriesFrom html (n + 1) ps

def anchorsFrom : Nat → List Placed → List (Place × String)
  | _, [] => []
  | n, p :: ps => (p.place, anchorOf n) :: anchorsFrom (n + 1) ps

theorem entries_addAll (html : Placed → String) (c : Collector) (ps : List Placed) :
    (c.addAll html ps).entries = c.entries ++ entriesFrom html c.count ps := by
  induction ps generalizing c with
  | nil => exact (List.append_nil _).symm
  | cons p ps ih =>
      refine (ih (c.add p (html p))).trans ?_
      rw [Collector.entries_add, Collector.count_add, List.append_assoc]
      rfl

theorem anchors_addEach (c : Collector) (work : List (Placed × String)) :
    (c.addEach work).anchors = c.anchors ++ anchorsFrom c.count (work.map Prod.fst) := by
  induction work generalizing c with
  | nil => exact (List.append_nil _).symm
  | cons w work ih =>
      refine (ih (c.add w.1 w.2)).trans ?_
      rw [Collector.anchors_add, Collector.count_add, List.append_assoc]
      rfl

theorem minimum_addEach (c : Collector) (work : List (Placed × String))
    (h : c.minimum = minLevel? c.entries) :
    (c.addEach work).minimum = minLevel? (c.addEach work).entries := by
  induction work generalizing c with
  | nil => exact h
  | cons w work ih => exact ih (c.add w.1 w.2) (Collector.minimum_add h w.1 w.2)

theorem anchors_addAll (html : Placed → String) (c : Collector) (ps : List Placed) :
    (c.addAll html ps).anchors = c.anchors ++ anchorsFrom c.count ps := by
  rw [Collector.addAll_eq_addEach, anchors_addEach, List.map_map]
  exact congrArg (c.anchors ++ anchorsFrom c.count ·) (List.map_id ps)

theorem minimum_addAll (html : Placed → String) (c : Collector) (ps : List Placed)
    (h : c.minimum = minLevel? c.entries) :
    (c.addAll html ps).minimum = minLevel? (c.addAll html ps).entries := by
  rw [Collector.addAll_eq_addEach]
  exact minimum_addEach c _ h

theorem length_entriesFrom (html : Placed → String) (n : Nat) (ps : List Placed) :
    (entriesFrom html n ps).length = ps.length := by
  induction ps generalizing n with
  | nil => rfl
  | cons p ps ih => rw [entriesFrom, List.length_cons, ih, List.length_cons]

theorem getElem?_entriesFrom (html : Placed → String) (n : Nat) (ps : List Placed) (i : Nat) :
    (entriesFrom html n ps)[i]? =
      ps[i]?.map fun p => ⟨p.heading.level, anchorOf (n + i), html p⟩ := by
  induction ps generalizing n i with
  | nil => rfl
  | cons p ps ih =>
      cases i with
      | zero => rfl
      | succ i =>
          rw [entriesFrom, List.getElem?_cons_succ, List.getElem?_cons_succ, ih]
          rw [Nat.add_right_comm, Nat.add_assoc]

theorem lookup_anchorsFrom_of_not_mem {place : Place} (n : Nat) {ps : List Placed}
    (h : place ∉ ps.map Placed.place) : (anchorsFrom n ps).lookup place = none := by
  induction ps generalizing n with
  | nil => rfl
  | cons p ps ih =>
      rw [List.map_cons, List.mem_cons, not_or] at h
      rw [anchorsFrom, List.lookup_cons, beq_false_of_ne h.1]
      exact ih (n + 1) h.2

theorem lookup_anchorsFrom {n i : Nat} {ps : List Placed} {p : Placed}
    (hnodup : (ps.map Placed.place).Nodup) (hp : ps[i]? = some p) :
    (anchorsFrom n ps).lookup p.place = some (anchorOf (n + i)) := by
  induction ps generalizing n i with
  | nil => cases hp
  | cons q ps ih =>
      obtain ⟨hq, hnodup⟩ := List.nodup_cons.1 hnodup
      cases i with
      | zero =>
          cases hp
          rw [anchorsFrom, List.lookup_cons_self]
          rfl
      | succ i =>
          have hmem : p ∈ ps := List.mem_of_getElem? hp
          have hne : p.place ≠ q.place := fun h => hq (h ▸ List.mem_map_of_mem hmem)
          rw [anchorsFrom, List.lookup_cons, beq_false_of_ne hne, ← Nat.add_assoc, Nat.add_right_comm]
          exact ih hnodup hp

end MarkdownOutline.Outline
