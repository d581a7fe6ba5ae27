import Std.Data.String.ToNat
import MarkdownOutline.Proofs.Outline.Gathers

namespace MarkdownOutline

namespace Outline

variable {σ : Type} (r : Renderer σ)

def shallowest? (ps : List Placed) : Option Int := (ps.map fun p => p.heading.level).min?

def ids (place : Place) (root : Node) : List (Option String) :=
  (root.listed place).map fun p => p.heading.id

/-- What the entries `es` have of the headings `ps`, whose ids are `marks` now. -/
structure Thinned (ps : List Placed) (marks : List (Option String)) (es : List Entry) : Prop where
  /-- Each heading has the anchor of its number. -/
  marks_eq : marks = (List.range ps.length).map fun i => some (anchorOf i)
  /-- Those that hold no other have an entry, in their order. -/
  entries : List.Forall₂ (Presents r) (keptFrom 0 ps) es
  length_eq_iff : es.length = ps.length ↔ ∀ p ∈ ps, p.IsFlat
  anchors_eq_iff : (∀ anchor, anchor ∈ es.map Entry.anchor ↔ some anchor ∈ marks) ↔ ∀ p ∈ ps, p.IsFlat
  /-- A heading without an entry may be above all entries. -/
  minimum_eq_iff : minLevel? es = shallowest? ps ↔
    ∀ p ∈ ps, ∃ q ∈ ps, q.IsFlat ∧ q.heading.level ≤ p.heading.level

variable {r}

theorem anchorOf_injective : Function.Injective anchorOf := by
  intro m n h
  rw [anchorOf, anchorOf, String.append_right_inj] at h
  exact Nat.repr_injective h

section

variable {ps : List Placed} {es : List Entry}

theorem mem_keptFrom {w : Placed × Nat} : w ∈ keptFrom 0 ps ↔ ps[w.2]? = some w.1 ∧ w.1.IsFlat := by
  rw [keptFrom, List.mem_filter, List.mem_zipIdx_iff_getElem?, decide_eq_true_eq]

theorem map_fst_keptFrom (ps : List Placed) :
    (keptFrom 0 ps).map Prod.fst = ps.filter fun p => p.IsFlat := by
  have hfst : (ps.zipIdx 0).map Prod.fst = ps := List.zipIdx_map_fst 0 ps
  conv_rhs => rw [← hfst, List.filter_map]
  rfl

theorem map_eq_map_of_presents {α : Type} {f : Entry → α} {g : Placed × Nat → α}
    (hfg : ∀ w e, Presents r w e → f e = g w) {ws : List (Placed × Nat)}
    (h : List.Forall₂ (Presents r) ws es) : es.map f = ws.map g := by
  induction h with
  | nil => rfl
  | cons he _ ih => rw [List.map_cons, List.map_cons, hfg _ _ he, ih]

theorem shallowest?_filter_iff : shallowest? (ps.filter fun p => p.IsFlat) = shallowest? ps ↔
    ∀ p ∈ ps, ∃ q ∈ ps, q.IsFlat ∧ q.heading.level ≤ p.heading.level := by
  constructor
  · intro h p hp
    obtain ⟨level, hlevel⟩ : ∃ level, shallowest? ps = some level := by
      cases hnone : shallowest? ps with
      | some level => exact ⟨level, rfl⟩
      | none =>
          rw [shallowest?, List.min?_eq_none_iff, List.map_eq_nil_iff] at hnone
          exact absurd hp (hnone ▸ List.not_mem_nil)
    obtain ⟨hmem, _⟩ := List.min?_eq_some_iff.1 (h.trans hlevel)
    obtain ⟨q, hq, hqlevel⟩ := List.mem_map.1 hmem
    obtain ⟨hq, hflat⟩ := List.mem_filter.1 hq
    refine ⟨q, hq, by simpa using hflat, hqlevel ▸ ?_⟩
    exact (List.min?_eq_some_iff.1 hlevel).2 _ (List.mem_map_of_mem hp)
  · intro h
    cases hlevel : shallowest? ps with
    | none =>
        rw [shallowest?, List.min?_eq_none_iff, List.map_eq_nil_iff] at hlevel
        rw [hlevel]
        rfl
    | some level =>
        obtain ⟨hmem, hle⟩ := List.min?_eq_some_iff.1 hlevel
        obtain ⟨p, hp, hplevel⟩ := List.mem_map.1 hmem
        obtain ⟨q, hq, hflat, hqlevel⟩ := h p hp
        have hleast : q.heading.level = level :=
          Int.le_antisymm (hplevel ▸ hqlevel) (hle _ (List.mem_map_of_mem hq))
        refine List.min?_eq_some_iff.2 ⟨?_, fun l hl => ?_⟩
        · exact hleast ▸ List.mem_map_of_mem (List.mem_filter.2 ⟨hq, by simpa using hflat⟩)
        · exact hle l (List.map_subset _ (List.filter_subset_self _) hl)

end

section

variable (anchors : List (Place × String))

mutual

theorem map_headings_assign (place : Place) (node : Node) :
    ((assign anchors place node).headings place).map (fun q => (q.place, q.heading)) =
      (node.headings place).map fun p => (p.place, (mark anchors p).heading) := by
  cases node with
  | leaf loc content => rfl
  | branch loc shape children =>
      have hchildren := map_headingsAll_assignAll place 0 children
      cases shape with
      | heading heading => exact congrArg (_ :: ·) hchildren
      | _ => exact hchildren

theorem map_headingsAll_assignAll (place : Place) (index : Nat) (children : List Node) :
    (Node.headingsAll place index (assignAll anchors place index children)).map
        (fun q => (q.place, q.heading)) =
      (Node.headingsAll place index children).map fun p => (p.place, (mark anchors p).heading) := by
  cases children with
  | nil => rfl
  | cons child rest =>
      rw [assignAll, Node.headingsAll, List.map_append, map_headings_assign, map_headingsAll_assignAll,
        Node.headingsAll, List.map_append]

end

theorem map_listed_assign (place : Place) (root : Node) :
    ((assign anchors place root).listed place).map (fun q => (q.place, q.heading)) =
      (root.listed place).map fun p => (p.place, (mark anchors p).heading) := by
  have h := congrArg (List.filter fun w : Place × Heading => !w.2.isTitle)
    (map_headings_assign anchors place root)
  rw [List.filter_map, List.filter_map] at h
  exact h

end

theorem ids_anchored (place : Place) (root : Node) :
    ids place (root.anchored (root.listed place).length) =
      (List.range (root.listed place).length).map fun i => some (anchorOf i) := by
  have hids := congrArg (List.map fun w : Place × Heading => w.2.id)
    (map_listed_assign (anchorsFrom 0 (root.listed place)) place root)
  rw [List.map_map, List.map_map] at hids
  rw [← assign_reached List.prefix_rfl]
  refine hids.trans (List.ext_getElem? fun i => ?_)
  rw [List.getElem?_map, List.getElem?_map]
  cases hp : (root.listed place)[i]? with
  | none =>
      rw [List.getElem?_eq_none_iff] at hp
      rw [List.getElem?_eq_none (by rw [List.length_range]; exact hp)]
      rfl
  | some p =>
      have hi : i < (root.listed place).length := (List.getElem?_eq_some_iff.1 hp).1
      have hanchor := lookup_anchorsFrom (n := 0) (nodup_listed place root) hp
      rw [Nat.zero_add] at hanchor
      rw [List.getElem?_range hi, Option.map_some, Option.map_some, Function.comp_apply, mark, hanchor,
        Option.some_or]

section

variable {ps : List Placed} {es : List Entry}

theorem thinned_of_entries (hes : List.Forall₂ (Presents r) (keptFrom 0 ps) es) :
    Thinned r ps ((List.range ps.length).map fun i => some (anchorOf i)) es where
  marks_eq := rfl
  entries := hes
  length_eq_iff := by
    rw [← hes.length_eq, ← List.length_map Prod.fst, map_fst_keptFrom, List.length_filter_eq_length_iff]
    simp
  anchors_eq_iff := by
    rw [map_eq_map_of_presents (g := fun w => anchorOf w.2) (fun w e h => h.anchor) hes]
    constructor
    · intro h p hp
      obtain ⟨i, hi⟩ := List.mem_iff_getElem?.1 hp
      have hlt : i < ps.length := (List.getElem?_eq_some_iff.1 hi).1
      obtain ⟨w, hw, hanchor⟩ := List.mem_map.1
        ((h (anchorOf i)).2 (List.mem_map.2 ⟨i, List.mem_range.2 hlt, rfl⟩))
      obtain ⟨hw, hflat⟩ := mem_keptFrom.1 hw
      rw [anchorOf_injective hanchor, hi] at hw
      exact Option.some.inj hw ▸ hflat
    · intro h anchor
      constructor
      · intro hmem
        obtain ⟨w, hw, rfl⟩ := List.mem_map.1 hmem
        have hlt : w.2 < ps.length := (List.getElem?_eq_some_iff.1 (mem_keptFrom.1 hw).1).1
        exact List.mem_map.2 ⟨w.2, List.mem_range.2 hlt, rfl⟩
      · intro hmem
        obtain ⟨i, hi, hanchor⟩ := List.mem_map.1 hmem
        obtain ⟨p, hp⟩ : ∃ p, ps[i]? = some p := ⟨_, List.getElem?_eq_getElem (List.mem_range.1 hi)⟩
        refine List.mem_map.2 ⟨(p, i), mem_keptFrom.2 ⟨hp, h p (List.mem_of_getElem? hp)⟩, ?_⟩
        exact Option.some.inj hanchor
  minimum_eq_iff := by
    have hlevels : es.map Entry.level = (ps.filter fun p => p.IsFlat).map fun p => p.heading.level := by
      rw [← map_fst_keptFrom, List.map_map]
      exact map_eq_map_of_presents (fun w e h => h.level) hes
    rw [minLevel?, hlevels]
    exact shallowest?_filter_iff

theorem exists_layout_kept (hes : List.Forall₂ (Presents r) (keptFrom 0 ps) es) :
    ∃ text, layout es (shallowest? ps) = .ok text := by
  refine exists_layout_of_le fun level hlevel e he => ?_
  obtain ⟨w, hw, hlevel'⟩ := List.mem_map.1
    (map_eq_map_of_presents (g := fun w => w.1.heading.level) (fun w e h => h.level) hes ▸
      List.mem_map_of_mem he)
  rw [← hlevel']
  exact (List.min?_eq_some_iff.1 hlevel).2 _
    (List.mem_map_of_mem (List.mem_of_getElem? (mem_keptFrom.1 hw).1))

end

/-- An outline by a renderer that goes on never fails, and all headings of the document get anchors. It has
an entry for each heading that holds no other; the levels are counted from the least of all headings. -/
theorem collection_inner (hnext : r.GoesOn) (place : Place) {root : Node}
    (hlevel : ∀ p ∈ root.listed place, 1 ≤ p.heading.level) (s : σ) :
    ∃ es text t,
      (entries r place root).run s = ((.ok es, root.anchored (root.listed place).length), t) ∧
      (render r place root).run s = ((.ok text, root.anchored (root.listed place).length), t) ∧
      layout es (shallowest? (root.listed place)) = .ok text ∧
      Thinned r (root.listed place) (ids place (root.anchored (root.listed place).length)) es := by
  obtain ⟨text, d, t, seen, hrun, hgathers⟩ := gathering_descend hnext hlevel {} s []
  rw [← walk_eq_descend] at hrun
  have hcollect := run_collect_of_ok (run_walk_of_noting hrun)
  have hidle : d.current = none := hgathers.current_of_idle rfl
  have hanchors : d.anchors = anchorsFrom 0 (root.listed place) := hgathers.anchors
  have hnone : ({} : Collector).minimum = ([] : List Int).min? := rfl
  have hminimum : d.minimum = shallowest? (root.listed place) := hgathers.minimum hnone
  obtain ⟨es, hes, hpresents⟩ := hgathers.entries
  rw [Collector.leave_of_idle hidle, hanchors, assign_reached List.prefix_rfl] at hcollect
  obtain ⟨out, hout⟩ := exists_layout_kept hpresents
  have hentries : d.entries = es := hes
  refine ⟨es, out, t, ?_, ?_, hout, ?_⟩
  · rw [run_entries hcollect, hentries]
  · rw [run_outline hcollect, hminimum, hentries, hout]
  · rw [ids_anchored]
    exact thinned_of_entries hpresents

def counting : Renderer Nat where
  header _ := return ""
  visit v := do
    modify (· + 1)
    match v.node with
    | .leaf _ (.text content) => return (content, .next)
    | _ => return ("", .next)
  footer _ := return ""

def nestedHeadings : Node :=
  let loc : Location := ⟨1, 1, none, none⟩
  .branch loc .document [.branch loc (.heading {}) [.branch loc (.heading { level := 2 }) []]]

theorem nestedHeadings_thinned : counting.GoesOn ∧
    (∀ p ∈ nestedHeadings.listed [], 1 ≤ p.heading.level) ∧
    ∃ es text t,
      (entries counting [] nestedHeadings).run 0 = ((.ok es, nestedHeadings.anchored 2), t) ∧
      (render counting [] nestedHeadings).run 0 = ((.ok text, nestedHeadings.anchored 2), t) ∧
      layout es (some 1) = .ok text ∧
      Thinned counting (nestedHeadings.listed []) (ids [] (nestedHeadings.anchored 2)) es := by
  have hnext : counting.GoesOn := by
    intro v s
    rcases v with ⟨place, ⟨loc, content⟩ | ⟨loc, shape, children⟩, entering⟩
    · cases content <;> exact ⟨_, _, rfl⟩
    · exact ⟨_, _, rfl⟩
  have hlevel : ∀ p ∈ nestedHeadings.listed [], 1 ≤ p.heading.level := by decide
  exact ⟨hnext, hlevel, collection_inner hnext [] hlevel 0⟩

/-- The outer heading has an anchor but no entry. -/
theorem nestedHeadings_lost : ∃ t,
    (entries counting [] nestedHeadings).run 0 =
      ((.ok [⟨2, "toc_1", ""⟩], nestedHeadings.anchored 2), t) ∧
    ids [] (nestedHeadings.anchored 2) = [some "toc_0", some "toc_1"] := by
  refine ⟨0, ?_, rfl⟩
  rw [entries, collect, collectWalk, walk_eq_descend]
  rfl

end Outline

end MarkdownOutline
