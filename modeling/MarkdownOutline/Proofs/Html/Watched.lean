import MarkdownOutline.Proofs.Html.Visit
import MarkdownOutline.Proofs.Walk.Kept

namespace MarkdownOutline.Html

def watched (c : List Opened) : List Visit → List (Visit × Option (List Opened))
  | [] => []
  | v :: visits => (v, shown? v c) :: watched (turn v c) visits

theorem map_fst_watched (c : List Opened) (visits : List Visit) : (watched c visits).map Prod.fst = visits := by
  induction visits generalizing c with
  | nil => rfl
  | cons v visits ih => rw [watched, List.map_cons, ih]

section

variable (S : Place → Bool)

mutual

def surrounded (c : List Opened) (place : Place) : Node → List (Visit × List Opened)
  | .leaf loc content => [(⟨place, .leaf loc content, true⟩, c)]
  | .branch loc shape children =>
    (⟨place, .branch loc shape children, true⟩, c) ::
      if S place then []
      else surroundedAll (⟨place, shape, children.length⟩ :: c) place 0 children ++
        [(⟨place, .branch loc shape children, false⟩, c)]

def surroundedAll (c : List Opened) (place : Place) (index : Nat) : List Node → List (Visit × List Opened)
  | [] => []
  | child :: rest => surrounded c (index :: place) child ++ surroundedAll c place (index + 1) rest

end

mutual

theorem map_fst_surrounded (c : List Opened) (place : Place) (node : Node) :
    (surrounded S c place node).map Prod.fst = node.kept S place := by
  cases node with
  | leaf loc content => rfl
  | branch loc shape children =>
      rw [surrounded, Node.kept, List.map_cons]
      split
      · rfl
      · rw [List.map_append, map_fst_surroundedAll]
        rfl

theorem map_fst_surroundedAll (c : List Opened) (place : Place) (index : Nat) (children : List Node) :
    (surroundedAll S c place index children).map Prod.fst = Node.keptAll S place index children := by
  cases children with
  | nil => rfl
  | cons child rest => rw [surroundedAll, Node.keptAll, List.map_append, map_fst_surrounded, map_fst_surroundedAll]

end

mutual

theorem within_surrounded {c : List Opened} {place : Place} {node : Node} :
    ∀ w ∈ surrounded S c place node, place <:+ w.1.place ∧ c <:+ w.2 := by
  have hown entering : place <:+ (⟨place, node, entering⟩ : Visit).place ∧ c <:+ c :=
    ⟨List.suffix_refl place, List.suffix_refl c⟩
  cases node with
  | leaf loc content => exact List.forall_mem_singleton.2 (hown true)
  | branch loc shape children =>
      rw [surrounded]
      refine List.forall_mem_cons.2 ⟨hown true, ?_⟩
      split
      · exact List.forall_mem_nil _
      · refine List.forall_mem_append.2 ⟨fun w hw => ?_, List.forall_mem_singleton.2 (hown false)⟩
        obtain ⟨⟨j, hj⟩, hw⟩ := within_surroundedAll w hw
        exact ⟨(List.suffix_cons j place).trans hj, (List.suffix_cons _ c).trans hw⟩

theorem within_surroundedAll {c : List Opened} {place : Place} {index : Nat} {children : List Node} :
    ∀ w ∈ surroundedAll S c place index children, (∃ j, (j :: place) <:+ w.1.place) ∧ c <:+ w.2 := by
  cases children with
  | nil => exact List.forall_mem_nil _
  | cons child rest =>
      rw [surroundedAll]
      refine List.forall_mem_append.2 ⟨fun w hw => ?_, fun w hw => within_surroundedAll w hw⟩
      obtain ⟨hplace, hw⟩ := within_surrounded w hw
      exact ⟨⟨index, hplace⟩, hw⟩

end

mutual

/-- The visits that are kept are those outside the branches that are passed over. -/
theorem filter_surrounded (c : List Opened) (place : Place) (node : Node) :
    (surrounded (fun _ => false) c place node).filter (fun w => Outside S place w.1) = surrounded S c place node := by
  cases node with
  | leaf loc content => simp [surrounded, outside_root_iff]
  | branch loc shape children =>
      have hentering : Outside S place ⟨place, .branch loc shape children, true⟩ :=
        outside_root_iff.2 fun _ => rfl
      rw [surrounded, surrounded, if_neg Bool.false_ne_true,
        List.filter_cons_of_pos (by exact decide_eq_true hentering), List.filter_append]
      cases hS : S place with
      | true =>
          -- The visits inside lie below a branch of `S`, whatever is on the stack.
          have hinner b : (surroundedAll (fun _ => false) (b :: c) place 0 children).filter
              (fun w => Outside S place w.1) = [] := by
            refine List.filter_eq_nil_iff.2 fun w hw => ?_
            obtain ⟨⟨j, hj⟩, _⟩ := within_surroundedAll _ w hw
            simpa using not_outside_of_suffix hS hj
          rw [hinner]
          simp [outside_root_iff, hS]
      | false =>
          rw [filter_surroundedAll hS]
          simp [outside_root_iff, hS]

theorem filter_surroundedAll {place : Place} (hS : S place = false) (c : List Opened) (index : Nat)
    (children : List Node) :
    (surroundedAll (fun _ => false) c place index children).filter (fun w => Outside S place w.1) =
      surroundedAll S c place index children := by
  cases children with
  | nil => rfl
  | cons child rest =>
      have hchild : (surrounded (fun _ => false) c (index :: place) child).filter (fun w => Outside S place w.1) =
          (surrounded (fun _ => false) c (index :: place) child).filter (fun w => Outside S (index :: place) w.1) := by
        refine List.filter_congr fun w hw => ?_
        exact decide_eq_decide.2 (outside_iff_of_suffix hS (within_surrounded _ w hw).1)
      rw [surroundedAll, surroundedAll, List.filter_append, hchild, filter_surrounded, filter_surroundedAll hS]

end

end

mutual

theorem watched_visits (c : List Opened) (place : Place) (node : Node) (rest : List Visit) :
    watched c (node.visits place ++ rest) =
      (surrounded (fun _ => false) c place node).map (fun w => (w.1, some w.2)) ++ watched c rest := by
  cases node with
  | leaf loc content => rfl
  | branch loc shape children =>
      have hchildren := watched_visitsAll (⟨place, shape, children.length⟩ :: c) place 0 children
        (⟨place, .branch loc shape children, false⟩ :: rest)
      rw [Node.visits, surrounded, if_neg Bool.false_ne_true, List.cons_append, watched, turn, List.append_assoc,
        List.singleton_append, hchildren]
      simp only [watched, turn, shown?, List.tail_cons, List.tail?_cons, List.map_cons, List.map_append, List.map_nil,
        List.cons_append, List.append_assoc, List.nil_append]

theorem watched_visitsAll (c : List Opened) (place : Place) (index : Nat) (children : List Node) (rest : List Visit) :
    watched c (Node.visitsAll place index children ++ rest) =
      (surroundedAll (fun _ => false) c place index children).map (fun w => (w.1, some w.2)) ++ watched c rest := by
  cases children with
  | nil => rfl
  | cons child more =>
      rw [Node.visitsAll, surroundedAll, List.append_assoc, watched_visits, watched_visitsAll, List.map_append,
        List.append_assoc]

end

mutual

theorem isSome_of_watched_kept {c d : List Opened} (hc : d.length ≤ c.length) (S : Place → Bool) (place : Place)
    (node : Node) {rest : List Visit}
    (hrest : ∀ c', d.length ≤ c'.length → ∀ w ∈ watched c' rest, w.2.isSome = true) :
    ∀ w ∈ watched c (node.kept S place ++ rest), w.2.isSome = true := by
  cases node with
  | leaf loc content => exact List.forall_mem_cons.2 ⟨rfl, hrest c hc⟩
  | branch loc shape children =>
      rw [Node.kept, List.cons_append, watched, turn]
      refine List.forall_mem_cons.2 ⟨rfl, ?_⟩
      have hpush (b : Opened) : (b :: d).length ≤ (b :: c).length := Nat.succ_le_succ hc
      cases hS : S place with
      | true => exact hrest (⟨place, shape, children.length⟩ :: c) (Nat.le_succ_of_le hc)
      | false =>
          rw [if_neg Bool.false_ne_true, List.append_assoc]
          refine isSome_of_watched_keptAll (hpush _) S place 0 children fun c' hc' => ?_
          cases c' with
          | nil => exact absurd hc' (Nat.not_succ_le_zero _)
          | cons top outer => exact List.forall_mem_cons.2 ⟨rfl, hrest outer (Nat.le_of_succ_le_succ hc')⟩

theorem isSome_of_watched_keptAll {c d : List Opened} (hc : d.length ≤ c.length) (S : Place → Bool) (place : Place)
    (index : Nat) (children : List Node) {rest : List Visit}
    (hrest : ∀ c', d.length ≤ c'.length → ∀ w ∈ watched c' rest, w.2.isSome = true) :
    ∀ w ∈ watched c (Node.keptAll S place index children ++ rest), w.2.isSome = true := by
  cases children with
  | nil => exact hrest c hc
  | cons child more =>
      rw [Node.keptAll, List.append_assoc]
      refine isSome_of_watched_kept hc S (index :: place) child fun c' hc' => ?_
      exact isSome_of_watched_keptAll hc' S place (index + 1) more hrest

end

/-- Each branch that is left has been entered, so the stack never runs empty. -/
theorem isSome_of_watched (S : Place → Bool) (place : Place) (root : Node) :
    ∀ w ∈ watched [] (root.kept S place), w.2.isSome = true := by
  have hnil : ([] : List Opened).length ≤ ([] : List Opened).length := Nat.le_refl 0
  have h := @isSome_of_watched_kept [] [] hnil S place root [] fun _ _ => List.forall_mem_nil _
  rwa [List.append_nil] at h

end MarkdownOutline.Html
