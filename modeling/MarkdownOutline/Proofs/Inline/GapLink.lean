import MarkdownOutline.Proofs.Inline.GapTarget

namespace MarkdownOutline.Inline

structure TargetCells (t : Cells) where
  url : Cells
  title : Option Cells
  /-- All in front of the closing parenthesis. -/
  front : Cells
  behind : Cells
  eq : t = front ++ some ')' :: behind
  url_subset : url ⊆ front
  title_subset : title.getD [] ⊆ front

def TargetCells.fill {t : Cells} (cells : TargetCells t) (r : List Char) : Target where
  url := unescape (Inline.fill r cells.url)
  title := cells.title.map fun u => unescape (Inline.fill r u)

theorem TargetCells.fill_congr {t : Cells} (cells : TargetCells t) (h : none ∉ cells.front) (r s : List Char) :
    cells.fill r = cells.fill s := by
  have hurl : none ∉ cells.url := fun hmem => h (cells.url_subset hmem)
  have htitle : ∀ u ∈ cells.title, none ∉ u := by
    intro u hu hmem
    have hsubset := cells.title_subset
    rw [Option.mem_def.1 hu] at hsubset
    exact h (hsubset hmem)
  rw [fill, fill, Inline.fill_congr hurl r s]
  refine congrArg (Target.mk _) (Option.map_congr fun u hu => ?_)
  rw [Inline.fill_congr (htitle u hu) r s]

theorem target?_fill (t : Cells) : ∃ o : Option (TargetCells t), ∀ r, IsFiller r →
    target? (fill r t) = o.map fun cells => (cells.fill r, (fill r cells.front).length + 1) := by
  by_cases hparen : ∃ inner, t = some '(' :: inner
  · obtain ⟨inner, rfl⟩ := hparen
    have hspace := List.take_append_drop (runOf isLinkSpace false inner) inner
    obtain ⟨url?, hurl, hdestination⟩ := destination?_fill (inner.drop (runOf isLinkSpace false inner))
    cases url? with
    | none =>
        refine ⟨none, fun r hr => ?_⟩
        simp only [fill_some, target?, skipLinkSpace_fill hr, hdestination r hr]
        rfl
    | some url =>
        obtain ⟨url, u⟩ := url
        obtain ⟨w₁, hw₁, hurl⟩ := hurl _ rfl
        obtain ⟨title?, htitle, htitled⟩ := title?_fill u
        cases title? with
        | none =>
            refine ⟨none, fun r hr => ?_⟩
            simp only [fill_some, target?, skipLinkSpace_fill hr, hdestination r hr, Option.map_some,
              Option.bind_eq_bind, Option.bind_some, htitled r hr]
            rfl
        | some title =>
            obtain ⟨title, v⟩ := title
            obtain ⟨w₂, hw₂, htitle⟩ := htitle _ rfl
            have hsplit := List.take_append_drop (runOf isLinkSpace false v) v
            by_cases hclosing : ∃ behind, v.drop (runOf isLinkSpace false v) = some ')' :: behind
            · obtain ⟨behind, hbehind⟩ := hclosing
              have heq : some '(' :: inner = (some '(' :: (inner.take (runOf isLinkSpace false inner) ++ (w₁ ++
                  (w₂ ++ v.take (runOf isLinkSpace false v))))) ++ some ')' :: behind := by
                rw [← hbehind, List.cons_append, List.append_assoc, List.append_assoc, List.append_assoc, hsplit,
                  ← hw₂, ← hw₁, hspace]
              refine ⟨some ⟨url, title, _, behind, heq, ?_, ?_⟩, fun r hr => ?_⟩
              · intro x hx
                simp [hurl hx]
              · intro x hx
                simp [htitle hx]
              · have hlength := congrArg List.length (congrArg (fill r) heq)
                rw [fill_append, List.length_append, fill_some, fill_some] at hlength
                simp only [List.length_cons] at hlength
                simp only [fill_some, target?, skipLinkSpace_fill hr, hdestination r hr, Option.map_some,
                  Option.bind_eq_bind, Option.bind_some, htitled r hr, hbehind, TargetCells.fill, List.length_cons,
                  hlength]
                rw [← Nat.add_assoc, Nat.add_right_comm, Nat.add_sub_cancel]
            · refine ⟨none, fun r hr => ?_⟩
              have hne : ∀ after, fill r (v.drop (runOf isLinkSpace false v)) = ')' :: after → False :=
                fun _ h => hclosing (exists_of_fill_eq_cons hr (by decide) h)
              simp only [fill_some, target?, skipLinkSpace_fill hr, hdestination r hr, Option.map_some,
                Option.bind_eq_bind, Option.bind_some, htitled r hr]
              rfl
  · refine ⟨none, fun r hr => ?_⟩
    have hne : ∀ inner, fill r t = '(' :: inner → False :=
      fun _ h => hparen (exists_of_fill_eq_cons hr (by decide) h)
    rw [target?.eq_2 _ hne]
    rfl

structure LinkCells (t : Cells) where
  label : Cells
  rest : Cells
  eq : t = label ++ some ']' :: rest
  target : TargetCells rest

def LinkCells.cells {t : Cells} (link : LinkCells t) : Cells :=
  link.label ++ some ']' :: (link.target.front ++ [some ')'])

theorem LinkCells.split {t : Cells} (link : LinkCells t) : t = link.cells ++ link.target.behind := by
  have hrest := congrArg (fun rest => link.label ++ some ']' :: rest) link.target.eq
  refine link.eq.trans (hrest.trans ?_)
  simp [cells]

theorem LinkCells.take_fill {t : Cells} (link : LinkCells t) (r : List Char) :
    (fill r t).take (fill r link.cells).length = fill r link.cells := by
  have hsplit := (congrArg (fill r) link.split).trans (fill_append r _ _)
  rw [hsplit, List.take_left]

theorem LinkCells.drop_fill {t : Cells} (link : LinkCells t) (r : List Char) :
    (fill r t).drop (fill r link.cells).length = fill r link.target.behind := by
  have hsplit := (congrArg (fill r) link.split).trans (fill_append r _ _)
  rw [hsplit, List.drop_left]

theorem LinkCells.getLastD_fill {t : Cells} (link : LinkCells t) (r : List Char) (c : Char) :
    (fill r link.cells).getLastD c = ')' := by
  have hcells : link.cells = (link.label ++ some ']' :: link.target.front) ++ [some ')'] := by simp [cells]
  rw [hcells, fill_append]
  exact List.getLastD_concat ..

theorem LinkCells.length_fill_cells {t : Cells} (link : LinkCells t) (r : List Char) :
    (fill r link.cells).length = (fill r link.label).length + 1 + ((fill r link.target.front).length + 1) := by
  simp only [cells, fill_append, fill_some, fill_nil, List.length_append, List.length_cons, List.length_nil]
  omega

theorem link?_fill (t : Cells) : ∃ o : Option (LinkCells t), ∀ r, IsFiller r →
    link? (fill r t) = o.map fun link =>
      (⟨fill r link.label, link.target.fill r⟩, (fill r link.cells).length) := by
  obtain ⟨j, hclosing, hj⟩ := toClosingBracket?_fill 0 t
  cases j with
  | none =>
      refine ⟨none, fun r hr => ?_⟩
      rw [link?, hj r hr]
      rfl
  | some j =>
      have hstop := hclosing j rfl
      obtain ⟨rest, hrest⟩ := List.head?_eq_some_iff.1 hstop
      have heq : t = t.take j ++ some ']' :: rest := by rw [← hrest, List.take_append_drop]
      obtain ⟨target, htarget⟩ := target?_fill rest
      refine ⟨target.map fun target => ⟨t.take j, rest, heq, target⟩, fun r hr => ?_⟩
      have hdrop : (fill r t).drop (extentOf r t j + 1) = fill r rest := by
        rw [drop_extentOf_succ hstop, ← List.drop_drop, hrest, List.drop_one, List.tail_cons]
      simp only [link?, hj r hr, Option.map_some, Option.bind_eq_bind, Option.bind_some, hdrop, htarget r hr,
        take_extentOf]
      cases target with
      | none => rfl
      | some target =>
          rw [Option.map_some, Option.map_some, Option.map_some, LinkCells.length_fill_cells]
          rfl

end MarkdownOutline.Inline
