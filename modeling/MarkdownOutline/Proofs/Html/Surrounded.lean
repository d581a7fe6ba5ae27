import MarkdownOutline.Proofs.Html.Alike
import MarkdownOutline.Proofs.Html.Watched

namespace MarkdownOutline.Html

/-- The stack shows something at a visit, and answers what the branches around the node answer. -/
def ShownAlike (w : Visit × Option (List Opened)) (real : Visit × List Opened) : Prop :=
  w.1 = real.1 ∧ ∃ c, w.2 = some c ∧ SeesAlike real.1 c real.2

def Undisturbed (S : Place → Bool) (place : Place) (root : Node) : Prop :=
  List.Forall₂ ShownAlike (watched [] (root.kept S place)) (surrounded S [] place root)

def IsItem (v : Visit) : Prop := ∃ loc children, v.node = .branch loc .listItem children

def InList (c : List Opened) : Prop := ∃ b ∈ c, ∃ ordered number tight, b.shape = .list ordered number tight

theorem InList.of_suffix {c d : List Opened} (h : InList c) (hsuffix : c <:+ d) : InList d := by
  obtain ⟨b, hb, hlist⟩ := h
  exact ⟨b, hsuffix.subset hb, hlist⟩

section

variable {c d : List Opened}

theorem tightItem?_cons_congr (b : Opened) (h : c.head? = d.head?) : tightItem? (b :: c) = tightItem? (b :: d) := by
  cases c <;> cases d <;> simp_all [tightItem?]

theorem inTightList_congr (h : c.head? = d.head?) : inTightList c = inTightList d := by
  simp only [inTightList_eq, around, Around.isTightList, h]

theorem tightItem?_eq_none (h : ∀ b ∈ c, b.shape ≠ .listItem) : tightItem? c = none := by
  unfold tightItem?
  split
  · next item list outer =>
      split
      · next hitem _ => exact absurd hitem (h item List.mem_cons_self)
      · rfl
  · rfl

theorem leaveParagraph_congr (h : tightItem? c = tightItem? d) (place : Place) :
    leaveParagraph c place = leaveParagraph d place := by
  rw [leaveParagraph, leaveParagraph, h]

theorem seesAlike_of_tightItem? {v : Visit} (hitem : tightItem? c = tightItem? d)
    (hlist : IsItem v → inTightList c = inTightList d) : SeesAlike v c d := by
  rcases v with ⟨place, ⟨loc, content⟩ | ⟨loc, shape, children⟩, _ | _⟩
  · trivial
  · trivial
  · cases shape with
    | paragraph => exact leaveParagraph_congr hitem place
    | _ => trivial
  · cases shape with
    | paragraph => exact congrArg Option.isSome hitem
    | listItem => exact fun _ => hlist ⟨loc, children, rfl⟩
    | _ => trivial

structure TopAlike (c d : List Opened) : Prop where
  head : c.head? = d.head?
  item : tightItem? c = tightItem? d

theorem TopAlike.cons (h : TopAlike c d) (b : Opened) : TopAlike (b :: c) (b :: d) :=
  ⟨rfl, tightItem?_cons_congr b h.head⟩

theorem TopAlike.seesAlike (h : TopAlike c d) (v : Visit) : SeesAlike v c d :=
  seesAlike_of_tightItem? h.item fun _ => inTightList_congr h.head

end

section

variable {S : Place → Bool}

mutual

theorem surrounded_of_not_skips {c : List Opened} {place : Place} {node : Node}
    (h : ∀ w ∈ surrounded S c place node, skips S w.1 = false) :
    surrounded S c place node = surrounded (fun _ => false) c place node := by
  cases node with
  | leaf loc content => rfl
  | branch loc shape children =>
      rw [surrounded] at h ⊢
      obtain ⟨hentering, h⟩ := List.forall_mem_cons.1 h
      have hS : S place = false := (skips_entering S place loc shape children).symm.trans hentering
      rw [hS, if_neg Bool.false_ne_true] at h ⊢
      rw [surroundedAll_of_not_skips (List.forall_mem_append.1 h).1]
      rfl

theorem surroundedAll_of_not_skips {c : List Opened} {place : Place} {index : Nat} {children : List Node}
    (h : ∀ w ∈ surroundedAll S c place index children, skips S w.1 = false) :
    surroundedAll S c place index children = surroundedAll (fun _ => false) c place index children := by
  cases children with
  | nil => rfl
  | cons child rest =>
      rw [surroundedAll] at h ⊢
      obtain ⟨hchild, hrest⟩ := List.forall_mem_append.1 h
      rw [surrounded_of_not_skips hchild, surroundedAll_of_not_skips hrest]
      rfl

end

mutual

theorem forall₂_surrounded {c d : List Opened} (h : TopAlike c d) (place : Place) (node : Node) :
    List.Forall₂ (fun w w' => w.1 = w'.1 ∧ SeesAlike w'.1 w.2 w'.2) (surrounded S c place node)
      (surrounded S d place node) := by
  cases node with
  | leaf loc content => exact .cons ⟨rfl, h.seesAlike _⟩ .nil
  | branch loc shape children =>
      rw [surrounded, surrounded]
      refine .cons ⟨rfl, h.seesAlike _⟩ ?_
      split
      · exact .nil
      · exact List.rel_append (forall₂_surroundedAll (h.cons _) place 0 children) (.cons ⟨rfl, h.seesAlike _⟩ .nil)

theorem forall₂_surroundedAll {c d : List Opened} (h : TopAlike c d) (place : Place) (index : Nat)
    (children : List Node) :
    List.Forall₂ (fun w w' => w.1 = w'.1 ∧ SeesAlike w'.1 w.2 w'.2) (surroundedAll S c place index children)
      (surroundedAll S d place index children) := by
  cases children with
  | nil => exact .nil
  | cons child rest =>
      rw [surroundedAll, surroundedAll]
      exact List.rel_append (forall₂_surrounded h (index :: place) child)
        (forall₂_surroundedAll h place (index + 1) rest)

end

/-- Outside of all lists neither the stack nor the branches around the node show an item, and no branch is missing
on the stack. -/
structure Unlisted (c d : List Opened) : Prop where
  stack : ∀ b ∈ c, b.shape ≠ .listItem
  around : ∀ b ∈ d, b.shape ≠ .listItem
  free : ¬InList d
  le : d.length ≤ c.length

namespace Unlisted

variable {c d : List Opened}

theorem nil : Unlisted [] [] := ⟨List.forall_mem_nil _, List.forall_mem_nil _, by simp [InList], Nat.le_refl _⟩

theorem seesAlike (h : Unlisted c d) {v : Visit} (hv : ¬IsItem v) : SeesAlike v c d :=
  seesAlike_of_tightItem? ((tightItem?_eq_none h.stack).trans (tightItem?_eq_none h.around).symm)
    fun hitem => absurd hitem hv

theorem push {b : Opened} (h : Unlisted c d) (hb : b.shape ≠ .listItem) : Unlisted (b :: c) d :=
  ⟨List.forall_mem_cons.2 ⟨hb, h.stack⟩, h.around, h.free, Nat.le_succ_of_le h.le⟩

theorem cons {b : Opened} (h : Unlisted c d) (hb : b.shape ≠ .listItem) (hlist : ¬InList (b :: d)) :
    Unlisted (b :: c) (b :: d) :=
  ⟨List.forall_mem_cons.2 ⟨hb, h.stack⟩, List.forall_mem_cons.2 ⟨hb, h.around⟩, hlist, Nat.succ_le_succ h.le⟩

theorem exists_cons {b : Opened} (h : Unlisted c (b :: d)) : ∃ top outer, c = top :: outer ∧ Unlisted outer d := by
  cases c with
  | nil => exact absurd h.le (Nat.not_succ_le_zero _)
  | cons top outer =>
      refine ⟨top, outer, rfl, (List.forall_mem_cons.1 h.stack).2, (List.forall_mem_cons.1 h.around).2, ?_,
        Nat.le_of_succ_le_succ h.le⟩
      exact fun hd => h.free (hd.of_suffix (List.suffix_cons b d))

end Unlisted

/-- Inside of lists nothing is passed over, so the stack shows what is around each node down to the list. -/
theorem shownAlike_list {c d : List Opened} (h : Unlisted c d) {b : Opened} (hb : b.shape ≠ .listItem)
    (place : Place) (index : Nat) (children : List Node)
    (hskips : ∀ w ∈ surroundedAll S (b :: d) place index children, skips S w.1 = false) {rest : List Visit}
    {steps : List (Visit × List Opened)} (hrest : List.Forall₂ ShownAlike (watched (b :: c) rest) steps) :
    List.Forall₂ ShownAlike (watched (b :: c) (Node.keptAll S place index children ++ rest))
      (surroundedAll S (b :: d) place index children ++ steps) := by
  have hc : tightItem? (b :: c) = none := tightItem?_eq_none (List.forall_mem_cons.2 ⟨hb, h.stack⟩)
  have hd : tightItem? (b :: d) = none := tightItem?_eq_none (List.forall_mem_cons.2 ⟨hb, h.around⟩)
  have htop : TopAlike (b :: c) (b :: d) := ⟨rfl, hc.trans hd.symm⟩
  have hwhole := surroundedAll_of_not_skips hskips
  have hkept : Node.keptAll S place index children = Node.visitsAll place index children := by
    rw [← map_fst_surroundedAll S (b :: d), hwhole, map_fst_surroundedAll, keptAll_none]
  rw [hkept, hwhole, watched_visitsAll]
  refine List.rel_append (List.forall₂_map_left_iff.2 ?_) hrest
  exact (forall₂_surroundedAll htop place index children).imp fun w w' h => ⟨h.1, w.2, rfl, h.2⟩

mutual

-- Along the walk the stack keeps every branch that is passed over, so the visits behind a node are met with any stack
-- that is still `Unlisted`. The outermost list ends that: below it `shownAlike_list` takes over.
theorem shownAlike_kept {c d : List Opened} (h : Unlisted c d) (place : Place) (node : Node)
    (hitems : ∀ w ∈ surrounded S d place node, IsItem w.1 → InList w.2)
    (hskips : ∀ w ∈ surrounded S d place node, skips S w.1 = true → ¬InList w.2) {rest : List Visit}
    {steps : List (Visit × List Opened)}
    (hrest : ∀ c', Unlisted c' d → List.Forall₂ ShownAlike (watched c' rest) steps) :
    List.Forall₂ ShownAlike (watched c (node.kept S place ++ rest)) (surrounded S d place node ++ steps) := by
  cases node with
  | leaf loc content => exact .cons ⟨rfl, c, rfl, trivial⟩ (hrest c h)
  | branch loc shape children =>
      rw [surrounded] at hitems hskips ⊢
      obtain ⟨hitem, hitems⟩ := List.forall_mem_cons.1 hitems
      obtain ⟨hskip, hskips⟩ := List.forall_mem_cons.1 hskips
      have hvisit : ¬IsItem ⟨place, .branch loc shape children, true⟩ := fun hv => h.free (hitem hv)
      have hshape : shape ≠ .listItem := by
        rintro rfl
        exact hvisit ⟨loc, children, rfl⟩
      rw [Node.kept, List.cons_append, List.cons_append, watched, turn]
      refine .cons ⟨rfl, c, rfl, h.seesAlike hvisit⟩ ?_
      cases hS : S place with
      | true => exact hrest _ (h.push hshape)
      | false =>
          rw [hS, if_neg Bool.false_ne_true] at hitems hskips
          obtain ⟨hitems, _⟩ := List.forall_mem_append.1 hitems
          obtain ⟨hskips, _⟩ := List.forall_mem_append.1 hskips
          rw [if_neg Bool.false_ne_true, if_neg Bool.false_ne_true, List.append_assoc, List.append_assoc]
          have hleave c' (hc' : Unlisted c' d) (b : Opened) :
              List.Forall₂ ShownAlike
                (watched (b :: c') (⟨place, .branch loc shape children, false⟩ :: rest))
                ((⟨place, .branch loc shape children, false⟩, d) :: steps) :=
            .cons ⟨rfl, c', rfl, hc'.seesAlike hvisit⟩ (hrest c' hc')
          by_cases hlist : InList (⟨place, shape, children.length⟩ :: d)
          · refine shownAlike_list h hshape place 0 children (fun w hw => ?_) (hleave c h _)
            by_contra hskipped
            refine hskips w hw (Bool.not_eq_false _ ▸ hskipped) ?_
            exact hlist.of_suffix (within_surroundedAll S w hw).2
          · refine shownAlike_keptAll (h.cons hshape hlist) place 0 children hitems hskips fun c' hc' => ?_
            obtain ⟨top, outer, rfl, houter⟩ := hc'.exists_cons
            exact hleave outer houter top

theorem shownAlike_keptAll {c d : List Opened} (h : Unlisted c d) (place : Place) (index : Nat) (children : List Node)
    (hitems : ∀ w ∈ surroundedAll S d place index children, IsItem w.1 → InList w.2)
    (hskips : ∀ w ∈ surroundedAll S d place index children, skips S w.1 = true → ¬InList w.2) {rest : List Visit}
    {steps : List (Visit × List Opened)}
    (hrest : ∀ c', Unlisted c' d → List.Forall₂ ShownAlike (watched c' rest) steps) :
    List.Forall₂ ShownAlike (watched c (Node.keptAll S place index children ++ rest))
      (surroundedAll S d place index children ++ steps) := by
  cases children with
  | nil => exact hrest c h
  | cons child more =>
      rw [surroundedAll] at hitems hskips ⊢
      obtain ⟨hitem, hitems⟩ := List.forall_mem_append.1 hitems
      obtain ⟨hskip, hskips⟩ := List.forall_mem_append.1 hskips
      rw [Node.keptAll, List.append_assoc, List.append_assoc]
      refine shownAlike_kept h (index :: place) child hitem hskip fun c' hc' => ?_
      exact shownAlike_keptAll hc' place (index + 1) more hitems hskips hrest

end

theorem undisturbed_of_not_inList {place : Place} {root : Node}
    (hitems : ∀ w ∈ surrounded S [] place root, IsItem w.1 → InList w.2)
    (hskips : ∀ w ∈ surrounded S [] place root, skips S w.1 = true → ¬InList w.2) : Undisturbed S place root := by
  have h := @shownAlike_kept S [] [] .nil place root hitems hskips [] [] fun _ _ => .nil
  rwa [List.append_nil, List.append_nil] at h

end

end MarkdownOutline.Html
