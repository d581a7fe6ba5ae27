import MarkdownOutline.Proofs.Failure

namespace MarkdownOutline

namespace Outline

section

variable {o : Html.Options} {v w : Visit} {visits more : List Visit} {c d : Collector}
variable {P Q : Collector → Prop}

variable (o visits c P) in
/-- After `visits` from `c` on, the result and what is collected are the same in all states of the
renderer, and the state is left as it is unless one of the visits fails. -/
def Heedless : Prop :=
  (∃ d, P d ∧ ∀ s, (visits.forM (step o)).run.run (c, s) = (.ok ⟨⟩, (d, s))) ∨
    ∃ e d, ∀ s, ∃ t, (visits.forM (step o)).run.run (c, s) = (.error e, (d, t))

namespace Heedless

theorem nil (hc : P c) : Heedless o [] c P := .inl ⟨c, hc, fun _ => rfl⟩

theorem of_step (hd : P d) (h : ∀ s, (step o v).run.run (c, s) = (.ok ⟨⟩, (d, s))) :
    Heedless o [v] c P := .inl ⟨d, hd, fun s => run_forM_cons (h s) []⟩

theorem of_step_error {e : OutlineError} (h : ∀ s, ∃ t, (step o v).run.run (c, s) = (.error e, (d, t))) :
    Heedless o (v :: more) c P := by
  refine .inr ⟨e, d, fun s => ?_⟩
  obtain ⟨t, ht⟩ := h s
  exact ⟨t, run_cons_of_error ht more⟩

theorem append (h : Heedless o visits c P) (hmore : ∀ d, P d → Heedless o more d Q) :
    Heedless o (visits ++ more) c Q := by
  rcases h with ⟨d, hd, hok⟩ | ⟨e, d, herror⟩
  · rcases hmore d hd with ⟨d', hd', hok'⟩ | ⟨e, d', herror⟩
    · exact .inl ⟨d', hd', fun s => by rw [run_forM_append (hok s), hok' s]⟩
    · refine .inr ⟨e, d', fun s => ?_⟩
      rw [run_forM_append (hok s)]
      exact herror s
  · refine .inr ⟨e, d, fun s => ?_⟩
    obtain ⟨t, ht⟩ := herror s
    exact ⟨t, run_append_of_error ht more⟩

theorem around {push : Html.State → Html.State}
    (hfirst : ∀ s, (step o v).run.run (c, s) = (.ok ⟨⟩, (d, push s))) (h : Heedless o visits d P)
    (hlast : ∀ d, P d → ∃ d', Q d' ∧ ∀ s, (step o w).run.run (d, push s) = (.ok ⟨⟩, (d', s))) :
    Heedless o (v :: (visits ++ [w])) c Q := by
  rcases h with ⟨d, hd, hok⟩ | ⟨e, d, herror⟩
  · obtain ⟨d', hd', hlast⟩ := hlast d hd
    refine .inl ⟨d', hd', fun s => ?_⟩
    rw [run_forM_cons (hfirst s), run_forM_append (hok (push s)), run_forM_cons (hlast s)]
    rfl
  · refine .inr ⟨e, d, fun s => ?_⟩
    obtain ⟨t, ht⟩ := herror (push s)
    exact ⟨t, by rw [run_forM_cons (hfirst s), run_append_of_error ht]⟩

end Heedless

theorem isSome_write (hc : c.current.isSome = true) (text : String) :
    (c.write text).current.isSome = true := by
  rw [Collector.write, Option.isSome_map, hc]

theorem exists_run_step_error (hv : listed? v.node = none) (hc : c.current.isSome = true) {e : RenderError}
    (h : ∀ s, ((Html.visit o v).run.run s).1 = .error e) (s : Html.State) :
    ∃ t, (step o v).run.run (c, s) = (.error (.render e), (c, t)) :=
  ⟨_, run_step_error hv hc (Prod.ext (h s) rfl)⟩

mutual

theorem heedless_inline {node : Node} (h : node.IsInline) (place : Place) {c : Collector}
    (hc : c.current.isSome = true) :
    Heedless o (node.visits place) c fun d => d.current.isSome = true := by
  cases node with
  | leaf loc content =>
      rcases Html.steady_leaf o h with ⟨markup, hok⟩ | ⟨e, herror⟩
      · exact .of_step (isSome_write hc (Html.write markup)) fun s => run_step_inlay rfl hc (hok s)
      · exact .of_step_error (exists_run_step_error rfl hc herror)
  | branch loc shape children =>
      have hnode : listed? (.branch loc shape children) = none :=
        listed?_of_isInline h place _ (List.mem_cons_self ..)
      -- The second visit finds on the stack what the first has put there, whatever lies below.
      obtain ⟨back, hback⟩ := Html.run_leave_inline o h.1 place loc children
      rcases Html.run_enter_inline o h.1 place loc children with ⟨front, hfront⟩ | ⟨e, herror⟩
      · refine .around (fun s => run_step_inlay hnode hc (hfront s))
          (heedless_inlines h.2 place 0 (isSome_write hc _)) fun d hd => ?_
        exact ⟨_, isSome_write hd (Html.write back), fun s => run_step_inlay hnode hd (hback s)⟩
      · exact .of_step_error (exists_run_step_error hnode hc herror)

theorem heedless_inlines {children : List Node} (h : Node.AreInline children) (place : Place) (index : Nat)
    {c : Collector} (hc : c.current.isSome = true) :
    Heedless o (Node.visitsAll place index children) c fun d => d.current.isSome = true := by
  cases children with
  | nil => exact .nil hc
  | cons child rest =>
      exact (heedless_inline h.1 _ hc).append fun d hd => heedless_inlines h.2 place (index + 1) hd

end

theorem heedless_heading {p : Placed} (hp : p.Plain) (hlisted : p.heading.isTitle = false) :
    Heedless o p.visits c fun d => d.current = none := by
  have hnode := listed?_node hlisted
  refine .around (run_step_enter hnode rfl hp.level c) (heedless_inlines hp.inline p.place 0 rfl) fun d hd => ?_
  refine ⟨d.leave, ?_, run_step_leave hnode rfl d⟩
  obtain ⟨entry, hentry⟩ := Option.isSome_iff_exists.1 hd
  rw [Collector.leave, hentry]

mutual

theorem heedless_tree {place : Place} {node : Node} (hplain : ∀ p ∈ node.headings place, p.Plain)
    {c : Collector} (hc : c.current = none) :
    Heedless o (node.visits place) c fun d => d.current = none := by
  cases node with
  | leaf loc content => exact .of_step hc (run_step_idle rfl hc)
  | branch loc shape children =>
      rcases listed?_cases loc shape children place with ⟨h, rfl, htitle⟩ | ⟨hnode, _⟩
      · exact heedless_heading (hplain _ (List.mem_cons_self ..)) htitle
      · have hinner := heedless_trees (List.forall_mem_append.1 hplain).2 hc
        exact .around (run_step_idle hnode hc) hinner fun d hd => ⟨d, hd, run_step_idle hnode hd⟩

theorem heedless_trees {place : Place} {index : Nat} {children : List Node}
    (hplain : ∀ p ∈ Node.headingsAll place index children, p.Plain) {c : Collector}
    (hc : c.current = none) :
    Heedless o (Node.visitsAll place index children) c fun d => d.current = none := by
  cases children with
  | nil => exact .nil hc
  | cons child rest =>
      obtain ⟨hchild, hrest⟩ := List.forall_mem_append.1 hplain
      exact (heedless_tree hchild hc).append fun d hd => heedless_trees hrest hd

end

theorem run_collectWalk_heedless {place : Place} {root : Node} (hplain : ∀ p ∈ root.headings place, p.Plain) :
    ∃ result d, ∀ s, ∃ t, collectWalk (Html.renderer o) place root ({}, s) = (result, (d, t)) := by
  have hwalk : collectWalk (Html.renderer o) place root =
      (do (root.visits place).forM (step o); update Collector.leave) := by
    rw [collectWalk, walk_collectVisit, bind_assoc]
    rfl
  have htree : Heedless o (root.visits place) {} fun d => d.current = none := heedless_tree hplain rfl
  rw [hwalk]
  rcases htree with ⟨d, _, hok⟩ | ⟨e, d, herror⟩
  · exact ⟨_, _, fun s => ⟨s, (run_bind_of_ok (hok s) _).trans rfl⟩⟩
  · refine ⟨.error e, d, fun s => ?_⟩
    obtain ⟨t, ht⟩ := herror s
    refine ⟨t, (run_bind _ _ _).trans ?_⟩
    rw [ht]

theorem run_render_heedless {place : Place} {root : Node} (hplain : ∀ p ∈ root.headings place, p.Plain)
    (s t : Html.State) :
    ((render (Html.renderer o) place root).run s).1 = ((render (Html.renderer o) place root).run t).1 := by
  obtain ⟨result, d, hrun⟩ := run_collectWalk_heedless (o := o) hplain
  have hrender s : ((render (Html.renderer o) place root).run s).1 =
      (((collectWalk (Html.renderer o) place root ({}, s)).1.map fun _ =>
          (collectWalk (Html.renderer o) place root ({}, s)).2.1).bind fun c => layout c.entries c.minimum,
        assign (collectWalk (Html.renderer o) place root ({}, s)).2.1.anchors place root) := rfl
  obtain ⟨s', hs⟩ := hrun s
  obtain ⟨t', ht⟩ := hrun t
  rw [hrender, hrender, hs, ht]

end

end Outline

/-- A renderer like the one at hand without a past. The highlighters belong to no renderer. -/
def Html.State.renewed (s : Html.State) : Html.State := { registry := s.registry }

theorem Html.run_render_renewed (o : Html.Options) (place : Place) (root : Node) (s : Html.State) :
    ((Html.renderer o).render place root).run.run s =
      ((Html.renderer o).render place root).run.run s.renewed := by
  have hheader : ((Html.renderer o).header root).run.run s =
      ((Html.renderer o).header root).run.run s.renewed := rfl
  rw [Renderer.render, run_bind, run_bind, hheader]

inductive Call where
  | header (root : Node)
  | visit (v : Visit)
  | footer (root : Node)
  | render (place : Place) (root : Node)
  | outline (place : Place) (root : Node)
  | highlighters (registry : Highlight.Registry)

def Call.effect (r : Renderer Html.State) (s : Html.State) : Call → Html.State
  | .header root => ((r.header root).run.run s).2
  | .visit v => ((r.visit v).run.run s).2
  | .footer root => ((r.footer root).run.run s).2
  | .render place root => ((r.render place root).run.run s).2
  | .outline place root => ((Outline.render r place root).run s).2
  | .highlighters registry => { s with registry }

def past (r : Renderer Html.State) (registry : Highlight.Registry) (calls : List Call) : Html.State :=
  calls.foldl (Call.effect r) { registry }

/-- Whatever has been done with a renderer, it renders every tree and outlines every document that was
read like a new one. -/
theorem past_not_shown (o : Html.Options) (registry : Highlight.Registry) (calls : List Call) :
    (∀ place root,
      ((Html.renderer o).render place root).run.run (past (Html.renderer o) registry calls) =
        ((Html.renderer o).render place root).run.run (past (Html.renderer o) registry calls).renewed) ∧
    ∀ settings file source root, parse settings file source = .ok root →
      ∀ doc, Outline.Marks root doc → ∀ place,
        ((Outline.render (Html.renderer o) place doc).run (past (Html.renderer o) registry calls)).1 =
          ((Outline.render (Html.renderer o) place doc).run
            (past (Html.renderer o) registry calls).renewed).1 := by
  refine ⟨fun place root => Html.run_render_renewed o place root _, ?_⟩
  intro settings file source root hroot doc hmarks place
  exact Outline.run_render_heedless ((hmarks.isRead (isRead_of_parse hroot)).plain place) _ _

/-- A rendering that fails inside an item of a tight list, and a heading that is entered but not left. -/
def unfinished : List Call :=
  [.render [0] (.branch ⟨1, 1, none, none⟩ .document
    [.branch ⟨1, 1, none, none⟩ (.list false 1 true)
      [.branch ⟨1, 1, none, none⟩ .listItem [.leaf ⟨1, 1, none, none⟩ (.other "Table")]]]),
    .visit ⟨[1], .branch ⟨1, 1, none, none⟩ (.heading {}) [.leaf ⟨1, 1, none, none⟩ (.text "a")], true⟩]

theorem unfinished_not_shown :
    (past (Html.renderer sluggedOptions) {} unfinished).containers.map Html.Opened.shape =
        [.heading {}, .listItem, .list false 1 true, .document] ∧
      parse {} none knottedSource = .ok knotted ∧
      ((Outline.render (Html.renderer sluggedOptions) [] (Outline.assign [([0], "a")] [] knotted)).run
        (past (Html.renderer sluggedOptions) {} unfinished)).1 =
          (.ok "\n<ul>\n<li><a href=\"#toc_0\"><a href=\"b\">a</a></a></li>\n</ul>",
            Outline.assign [([0], "toc_0")] [] knotted) := by
  have hparse : parse {} none knottedSource = .ok knotted := ok_of_toOption (by decide +kernel)
  have houtline := (past_not_shown sluggedOptions {} unfinished).2 _ _ _ _ hparse _
    (.assign [([0], "a")] [] .refl) []
  refine ⟨by decide +kernel, hparse, houtline.trans (Prod.ext (ok_of_toOption (by decide +kernel)) ?_)⟩
  decide +kernel

end MarkdownOutline
