import MarkdownOutline.Proofs.Outline.Steered

namespace MarkdownOutline

def Renderer.GoesOn {σ : Type} (r : Renderer σ) : Prop :=
  ∀ v s, ∃ text t, (r.visit v).run.run s = (.ok (text, .next), t)

namespace Outline

variable {σ : Type} (r : Renderer σ)

def Collector.skip (c : Collector) (p : Placed) : Collector :=
  { c.enter p.place p.heading.level with current := none }

/-- What is done over some headings to get from one collector to another. -/
inductive Gathers : List Placed → Collector → Collector → Prop
  | nil (c : Collector) : Gathers [] c c
  | kept {p : Placed} {ps : List Placed} {c d : Collector} {s t : σ} {html : String} (hflat : p.IsFlat)
      (hcapture : (capture r p).run.run s = (.ok (.completed, html), t))
      (h : Gathers ps (c.add p html) d) : Gathers (p :: ps) c d
  | lost {p : Placed} {ps : List Placed} {c d : Collector} (hinner : ¬ p.IsFlat)
      (h : Gathers ps (c.skip p) d) : Gathers (p :: ps) c d

structure Presents (w : Placed × Nat) (e : Entry) : Prop where
  level : e.level = w.1.heading.level
  anchor : e.anchor = anchorOf w.2
  html : ∃ s t, (capture r w.1).run.run s = (.ok (.completed, e.html), t)

/-- Some headings with their numbers, without those that hold another. -/
def keptFrom (n : Nat) (ps : List Placed) : List (Placed × Nat) :=
  (ps.zipIdx n).filter fun w => w.1.IsFlat

variable {r}

namespace Gathers

variable {p : Placed} {ps qs : List Placed} {c d e : Collector} {text : String}

theorem append (h : Gathers r ps c d) (h' : Gathers r qs d e) : Gathers r (ps ++ qs) c e := by
  induction h with
  | nil => exact h'
  | kept hflat hcapture h ih => exact .kept hflat hcapture (ih h')
  | lost hinner h ih => exact .lost hinner (ih h')

theorem replaced (h : Gathers r (p :: ps) c d) (current : Option Entry) :
    Gathers r (p :: ps) { c with current } d := by
  cases h with
  | kept hflat hcapture h => exact .kept hflat hcapture h
  | lost hinner h => exact .lost hinner h

theorem current_of_idle (h : Gathers r ps c d) (hc : c.current = none) : d.current = none := by
  induction h with
  | nil => exact hc
  | kept hflat hcapture h ih => exact ih rfl
  | lost hinner h ih => exact ih rfl

theorem current (h : Gathers r (p :: ps) c d) : d.current = none :=
  (h.replaced none).current_of_idle rfl

theorem write (h : Gathers r ps (c.write text) d) (more : String) :
    ∃ all, Gathers r ps (c.write all) (d.write more) := by
  cases ps with
  | nil =>
      cases h
      exact ⟨text ++ more, Collector.write_write c text more ▸ .nil _⟩
  | cons p ps =>
      have hd : d.write more = d := by rw [Collector.write, h.current, Option.map_none, ← h.current]
      exact ⟨text, hd.symm ▸ h⟩

theorem anchors (h : Gathers r ps c d) : d.anchors = c.anchors ++ anchorsFrom c.count ps := by
  induction h with
  | nil => exact (List.append_nil _).symm
  | kept hflat hcapture h ih => rw [ih, Collector.anchors_add, List.append_assoc]; rfl
  | lost hinner h ih => rw [ih, Collector.skip, Collector.enter, List.append_assoc]; rfl

theorem minimum (h : Gathers r ps c d) {levels : List Int} (hc : c.minimum = levels.min?) :
    d.minimum = (levels ++ ps.map fun p => p.heading.level).min? := by
  induction h generalizing levels with
  | nil => rw [List.map_nil, List.append_nil, hc]
  | @kept p ps c d _ _ html hflat hcapture h ih =>
      have hadd : (c.add p html).minimum = (levels ++ [p.heading.level]).min? :=
        Collector.minimum_enter hc p.place p.heading.level
      rw [ih hadd, List.append_assoc]
      rfl
  | @lost p ps c d hinner h ih =>
      have hskip : (c.skip p).minimum = (levels ++ [p.heading.level]).min? :=
        Collector.minimum_enter hc p.place p.heading.level
      rw [ih hskip, List.append_assoc]
      rfl

theorem entries (h : Gathers r ps c d) :
    ∃ es, d.entries = c.entries ++ es ∧ List.Forall₂ (Presents r) (keptFrom c.count ps) es := by
  induction h with
  | nil => exact ⟨[], (List.append_nil _).symm, .nil⟩
  | @kept p ps c d s t html hflat hcapture h ih =>
      obtain ⟨es, hd, hes⟩ := ih
      refine ⟨⟨p.heading.level, anchorOf c.count, html⟩ :: es, ?_, ?_⟩
      · rw [hd, Collector.entries_add, List.append_assoc]
        rfl
      · rw [keptFrom, List.zipIdx_cons, List.filter_cons_of_pos (by simpa using hflat)]
        exact .cons ⟨rfl, rfl, s, t, hcapture⟩ hes
  | @lost p ps c d hinner h ih =>
      obtain ⟨es, hd, hes⟩ := ih
      refine ⟨es, hd, ?_⟩
      rw [keptFrom, List.zipIdx_cons, List.filter_cons_of_neg (by simpa using hinner)]
      exact hes

end Gathers

def Gathering {α : Type} (r : Renderer σ) (ps : List Placed) (a : α)
    (x : ExceptT OutlineError (StateM (Noted σ)) α) : Prop :=
  ∀ c s seen, ∃ text d t seen', x.run.run ((c, s), seen) = (.ok a, ((d, t), seen')) ∧
    Gathers r ps (c.write text) d

section

variable {α β : Type} {a : α} {b : β}

theorem Gathering.pure (a : α) : Gathering r [] a (pure a) := by
  intro c s seen
  exact ⟨"", c, s, seen, rfl, (Collector.write_empty c).symm ▸ .nil _⟩

theorem Gathering.bind {ps qs : List Placed} {x : ExceptT OutlineError (StateM (Noted σ)) α}
    {f : α → ExceptT OutlineError (StateM (Noted σ)) β} (h : Gathering r ps a x)
    (hrest : Gathering r qs b (f a)) : Gathering r (ps ++ qs) b (x >>= f) := by
  intro c s seen
  obtain ⟨text, d, t, seen', hx, hps⟩ := h c s seen
  obtain ⟨more, e, u, seen'', hf, hqs⟩ := hrest d t seen'
  obtain ⟨all, hps⟩ := hps.write more
  exact ⟨all, e, u, seen'', by rw [run_bind_of_ok hx, hf], hps.append hqs⟩

end

theorem gathering_visit (hnext : r.GoesOn) {v : Visit} (hv : listed? v.node = none) :
    Gathering r [] .next (noting (collectVisit r) v) := by
  intro c s seen
  by_cases hc : c.current = none
  · exact ⟨"", c, s, seen, run_unlisted r hv hc s seen, (Collector.write_empty c).symm ▸ .nil _⟩
  · obtain ⟨text, t, hvisit⟩ := hnext v s
    have hopen : c.current.isSome = true := Option.isSome_iff_ne_none.2 hc
    refine ⟨text, c.write text, t, seen ++ (opened? v).toList, ?_, .nil _⟩
    rw [run_noting_collectVisit, run_collectVisit_of, hv]
    simp only [hopen, if_true, renderInto]
    rw [show r.visit v s = _ from hvisit]

theorem sequential_ends : Sequential fun α (x : StateT String (RenderM σ) α) (y : Id α) =>
    ∀ text s, ∃ all t, (x.run text).run.run s = (.ok (y.run, all), t) where
  pure a text s := ⟨text, s, rfl⟩
  bind h hrest text s := by
    obtain ⟨all, t, hx⟩ := h text s
    obtain ⟨more, u, hf⟩ := hrest _ all t
    exact ⟨more, u, by rw [StateT.run_bind, run_bind_of_ok hx]; exact hf⟩

/-- The walk inside a heading is that of a visitor that does nothing. -/
theorem exists_run_capture_completed (hnext : r.GoesOn) (p : Placed) (s : σ) :
    ∃ html t, (capture r p).run.run s = (.ok (.completed, html), t) := by
  have hidle : descendAll (fun _ => (pure .next : Id Signal)) p.place 0 p.children = pure .completed :=
    descendAll_unsteered (m := Id) (fun _ => pure ⟨⟩) p.place 0 p.children
  have hvisit : ∀ v ∈ Node.visitsAll p.place 0 p.children, ∀ text s, ∃ all t,
      ((r.write v).run text).run.run s = (.ok ((pure Signal.next : Id Signal).run, all), t) := by
    intro v _ text s
    obtain ⟨more, t, hvisit⟩ := hnext v s
    exact ⟨text ++ more, t, by rw [run_write, run_bind_of_ok hvisit]; rfl⟩
  obtain ⟨html, t, hrun⟩ := sequential_ends.descendAll (y := fun _ => pure .next) hvisit "" s
  rw [hidle] at hrun
  exact ⟨html, t, hrun⟩

/-- A heading that holds another is lost when that one is entered. -/
theorem gathering_heading (hnext : r.GoesOn) {p : Placed} (hlisted : p.heading.isTitle = false)
    (hlevel : 1 ≤ p.heading.level) {qs : List Placed} (hqs : qs = [] ↔ p.IsFlat)
    (hinside : Gathering r qs .completed (descendAll (noting (collectVisit r)) p.place 0 p.children)) :
    Gathering r (p :: qs) .completed (descend (noting (collectVisit r)) p.place p.node) := by
  intro c s seen
  by_cases hflat : p.IsFlat
  · obtain ⟨html, t, hcapture⟩ := exists_run_capture_completed hnext p s
    obtain rfl := hqs.2 hflat
    exact ⟨"", _, _, _, run_heading_completed hlisted hlevel hflat hcapture, .kept hflat hcapture (.nil _)⟩
  · obtain ⟨text, d, t, seen', hrun, hgathers⟩ :=
      hinside (c.enter p.place p.heading.level) s (seen ++ [p])
    cases qs with
    | nil => exact absurd (hqs.1 rfl) hflat
    | cons q qs =>
        refine ⟨"", d, t, seen', ?_, .lost hflat (hgathers.replaced none)⟩
        rw [run_heading_entered hlisted hlevel, run_bind_of_ok hrun]
        have hleft : (noting (collectVisit r) ⟨p.place, p.node, false⟩).run.run ((d, t), seen') =
            (.ok .next, ((d, t), seen')) := by
          rw [run_heading_left hlisted, Collector.leave_of_idle hgathers.current]
        exact run_bind_of_ok hleft _

mutual

theorem gathering_descend (hnext : r.GoesOn) {place : Place} {node : Node}
    (hlevel : ∀ p ∈ node.listed place, 1 ≤ p.heading.level) :
    Gathering r (node.listed place) .completed (descend (noting (collectVisit r)) place node) := by
  cases node with
  | leaf loc content => exact (gathering_visit hnext rfl).bind (.pure _)
  | branch loc shape children =>
      rw [Node.listed, Node.headings, List.filter_append] at hlevel ⊢
      obtain ⟨hown, hinner⟩ := List.forall_mem_append.1 hlevel
      have hchildren := gathering_descendAll hnext hinner
      rcases listed?_cases loc shape children place with ⟨h, rfl, htitle⟩ | ⟨hnode, hnone⟩
      · rw [filter_ownHeading htitle] at hown ⊢
        refine gathering_heading hnext htitle (hown _ (List.mem_singleton_self _)) ?_ hchildren
        simp [Placed.IsFlat, List.filter_eq_nil_iff]
      · rw [hnone]
        refine (gathering_visit hnext hnode).bind ?_
        rw [← List.append_nil (List.filter ..)]
        exact hchildren.bind ((gathering_visit hnext hnode).bind (.pure _))

theorem gathering_descendAll (hnext : r.GoesOn) {place : Place} {index : Nat} {children : List Node}
    (hlevel : ∀ p ∈ (Node.headingsAll place index children).filter fun p => !p.heading.isTitle,
      1 ≤ p.heading.level) :
    Gathering r ((Node.headingsAll place index children).filter fun p => !p.heading.isTitle) .completed
      (descendAll (noting (collectVisit r)) place index children) := by
  cases children with
  | nil => exact .pure _
  | cons child rest =>
      rw [Node.headingsAll, List.filter_append] at hlevel ⊢
      obtain ⟨hchild, hrest⟩ := List.forall_mem_append.1 hlevel
      exact (gathering_descend hnext hchild).bind (gathering_descendAll hnext hrest)

end

end Outline

end MarkdownOutline
