import MarkdownOutline.Proofs.Outline.Noted

namespace MarkdownOutline

namespace Outline

variable {σ : Type} (r : Renderer σ)

def inTurn {m : Type → Type u} [Monad m] (visit : Visit → m Signal) : List Placed → m Outcome
  | [] => pure .completed
  | p :: ps => do
    match ← descend visit p.place p.node with
    | .stopped => pure .stopped
    | .completed => inTurn visit ps

inductive Captures : List Placed → σ → List String → σ → Prop
  | nil (s : σ) : Captures [] s [] s
  | cons {p : Placed} {ps : List Placed} {s t u : σ} {html : String} {texts : List String}
      (hlevel : 1 ≤ p.heading.level) (hcapture : (capture r p).run.run s = (.ok (.completed, html), t))
      (h : Captures ps t texts u) : Captures (p :: ps) s (html :: texts) u

/-- How a collection ends that has come to the headings `ps` with the collector `c`: the headings that it
still enters, its result, and what it leaves. -/
inductive Ends (c : Collector) (s : σ) :
    List Placed → List Placed → Except OutlineError Outcome → Collector × σ → Prop
  | completed : Ends c s [] [] (.ok .completed) (c, s)
  | stopped {p : Placed} {ps : List Placed} {t : σ} {html : String} (hlevel : 1 ≤ p.heading.level)
      (hcapture : (capture r p).run.run s = (.ok (.stopped, html), t)) :
      Ends c s (p :: ps) [p] (.ok .stopped) ((c.enter p.place p.heading.level).write html, t)
  | failed {p : Placed} {ps : List Placed} {t : σ} {e : RenderError} (html : String)
      (hlevel : 1 ≤ p.heading.level) (hcapture : (capture r p).run.run s = (.error e, t)) :
      Ends c s (p :: ps) [p] (.error (.render e)) ((c.enter p.place p.heading.level).write html, t)
  | shallow {p : Placed} {ps : List Placed} (hlevel : p.heading.level < 1) :
      Ends c s (p :: ps) [p] (.error (.levelBelowOne p.heading.level)) (c, s)

section

variable {r} {ps : List Placed} {p : Placed} {s t : σ} {texts : List String}

namespace Captures

theorem length_eq (h : Captures r ps s texts t) : texts.length = ps.length := by
  induction h with
  | nil => rfl
  | cons hlevel hcapture h ih => rw [List.length_cons, ih, List.length_cons]

theorem level (h : Captures r ps s texts t) : ∀ p ∈ ps, 1 ≤ p.heading.level := by
  induction h with
  | nil => exact fun _ hp => (List.not_mem_nil hp).elim
  | cons hlevel hcapture h ih => exact List.forall_mem_cons.2 ⟨hlevel, ih⟩

end Captures

/-- The renderer gets to the end of some of the headings, and then the collection ends. -/
theorem exists_ends (hps : ∀ p ∈ ps, p.heading.isTitle = false ∧ p.IsFlat) (c : Collector)
    (s : σ) (seen : List Placed) :
    ∃ front rest texts t last result d, ps = front ++ rest ∧ Captures r front s texts t ∧
      Ends r (c.addEach (front.zip texts)) t rest last result d ∧
      (inTurn (noting (collectVisit r)) ps).run.run ((c, s), seen) =
        (result, (d, seen ++ (front ++ last))) := by
  induction ps generalizing c s seen with
  | nil =>
      refine ⟨[], [], [], s, [], .ok .completed, (c, s), rfl, .nil s, .completed, ?_⟩
      rw [inTurn, run_pure, List.append_nil, List.append_nil]
  | cons p ps ih =>
      obtain ⟨⟨hlisted, hflat⟩, hps⟩ := List.forall_mem_cons.1 hps
      by_cases hlevel : p.heading.level < 1
      · refine ⟨[], p :: ps, [], s, [p], _, (c, s), rfl, .nil s, .shallow hlevel, ?_⟩
        rw [inTurn, run_bind, run_heading_shallow hlisted hlevel]
        rfl
      · have hlevel := Int.not_lt.1 hlevel
        rcases hcapture : (capture r p).run.run s with ⟨e | ⟨_ | _, html⟩, t⟩
        · obtain ⟨html, hrun⟩ := exists_run_heading_failed c seen hlisted hlevel hflat hcapture
          refine ⟨[], p :: ps, [], s, [p], _, _, rfl, .nil s, .failed html hlevel hcapture, ?_⟩
          rw [inTurn, run_bind, hrun]
          rfl
        · obtain ⟨front, rest, texts, u, last, result, d, rfl, hcaptures, hends, hrun⟩ :=
            ih hps (c.add p html) t (seen ++ [p])
          refine ⟨p :: front, rest, html :: texts, u, last, result, d, rfl, .cons hlevel hcapture hcaptures,
            hends, ?_⟩
          rw [inTurn, run_bind_of_ok (run_heading_completed hlisted hlevel hflat hcapture)]
          simp only [hrun]
          rw [List.append_assoc]
          rfl
        · refine ⟨[], p :: ps, [], s, [p], _, _, rfl, .nil s, .stopped hlevel hcapture, ?_⟩
          rw [inTurn, run_bind_of_ok (run_heading_stopped hlisted hlevel hflat hcapture)]
          rfl

theorem current_of_completed (hps : ∀ p ∈ ps, p.heading.isTitle = false ∧ p.IsFlat) {c d : Collector}
    (hc : c.current = none) {seen seen' : List Placed}
    (h : (inTurn (noting (collectVisit r)) ps).run.run ((c, s), seen) = (.ok .completed, ((d, t), seen'))) :
    d.current = none := by
  obtain ⟨front, rest, texts, u, last, result, d', _, _, hends, hrun⟩ := exists_ends (r := r) hps c s seen
  rw [h] at hrun
  cases hends with
  | completed =>
      cases hrun
      exact Collector.current_addEach hc _
  | stopped | failed | shallow => cases hrun

end

section

variable {m : Type → Type u} [Monad m] [LawfulMonad m] (visit : Visit → m Signal)

theorem inTurn_singleton (p : Placed) : inTurn visit [p] = descend visit p.place p.node := by
  have hpure : descend visit p.place p.node >>= pure = descend visit p.place p.node := bind_pure _
  refine Eq.trans ?_ hpure
  rw [inTurn]
  refine bind_congr fun outcome => ?_
  cases outcome <;> rfl

theorem inTurn_append (ps qs : List Placed) : inTurn visit (ps ++ qs) = (do
    match ← inTurn visit ps with
    | .stopped => pure .stopped
    | .completed => inTurn visit qs) := by
  induction ps with
  | nil => rw [List.nil_append, inTurn, pure_bind]
  | cons p ps ih =>
      rw [List.cons_append, inTurn, inTurn, bind_assoc]
      refine bind_congr fun outcome => ?_
      cases outcome with
      | stopped => simp only [pure_bind]
      | completed => exact ih

end

section

variable {r}

theorem forall_listed {ps : List Placed} (h : ∀ p ∈ ps.filter fun p => !p.heading.isTitle, p.IsFlat) :
    ∀ p ∈ ps.filter fun p => !p.heading.isTitle, p.heading.isTitle = false ∧ p.IsFlat := by
  intro p hp
  exact ⟨by simpa using (List.mem_filter.1 hp).2, h p hp⟩

mutual

/-- Outside its entries a collection only walks on. -/
theorem run_descend_listed {place : Place} {node : Node} (hflat : ∀ p ∈ node.listed place, p.IsFlat)
    {c : Collector} (hc : c.current = none) (s : σ) (seen : List Placed) :
    (descend (noting (collectVisit r)) place node).run.run ((c, s), seen) =
      (inTurn (noting (collectVisit r)) (node.listed place)).run.run ((c, s), seen) := by
  cases node with
  | leaf loc content =>
      rw [descend, run_bind_of_ok (run_unlisted r rfl hc s seen)]
      rfl
  | branch loc shape children =>
      rw [Node.listed, Node.headings, List.filter_append] at hflat ⊢
      rcases listed?_cases loc shape children place with ⟨h, rfl, htitle⟩ | ⟨hnode, hown⟩
      · -- No other entry begins inside one, so the list has nothing of what is below the heading.
        rw [filter_ownHeading htitle] at hflat ⊢
        have hinner := hflat _ (List.mem_cons_self ..)
        have hnone : (Node.headingsAll place 0 children).filter (fun p => !p.heading.isTitle) = [] :=
          List.filter_eq_nil_iff.2 fun q hq => by simp [hinner q hq]
        rw [hnone, List.append_nil, inTurn_singleton]
        rfl
      · rw [hown, List.nil_append] at hflat ⊢
        rw [descend, run_bind_of_ok (run_unlisted r hnode hc s seen)]
        simp only [run_bind, run_descendAll_listed hflat hc s seen]
        -- The second visit is passed over only if no entry has been left open.
        rcases hrun : (inTurn (noting (collectVisit r)) ((Node.headingsAll place 0 children).filter
          fun p => !p.heading.isTitle)).run.run ((c, s), seen) with ⟨e | (_ | _), ⟨⟨d, t⟩, seen'⟩⟩
        · rfl
        · have hd := current_of_completed (forall_listed hflat) hc hrun
          exact run_bind_of_ok (run_unlisted r hnode hd t seen') _
        · rfl

theorem run_descendAll_listed {place : Place} {index : Nat} {children : List Node}
    (hflat : ∀ p ∈ (Node.headingsAll place index children).filter fun p => !p.heading.isTitle, p.IsFlat)
    {c : Collector} (hc : c.current = none) (s : σ) (seen : List Placed) :
    (descendAll (noting (collectVisit r)) place index children).run.run ((c, s), seen) =
      (inTurn (noting (collectVisit r)) ((Node.headingsAll place index children).filter
        fun p => !p.heading.isTitle)).run.run ((c, s), seen) := by
  cases children with
  | nil => rfl
  | cons child rest =>
      rw [Node.headingsAll, List.filter_append] at hflat ⊢
      obtain ⟨hchild, hrest⟩ := List.forall_mem_append.1 hflat
      have hfirst := run_descend_listed hchild hc s seen
      rw [descendAll, inTurn_append, run_bind, run_bind, hfirst, Node.listed]
      rcases hrun : (inTurn (noting (collectVisit r)) ((child.headings (index :: place)).filter
        fun p => !p.heading.isTitle)).run.run ((c, s), seen) with ⟨e | (_ | _), ⟨⟨d, t⟩, seen'⟩⟩
      · rfl
      · exact run_descendAll_listed hrest (current_of_completed (forall_listed hchild) hc hrun) t seen'
      · rfl

end

end

end Outline

end MarkdownOutline
