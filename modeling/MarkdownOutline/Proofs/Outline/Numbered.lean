import MarkdownOutline.Proofs.Outline.Agreement

namespace MarkdownOutline

open Outline

def anchorBelow (limit n : Nat) : Option String := if n < limit then some (anchorOf n) else none

def Branch.number (limit n : Nat) : Branch → Branch × Nat
  | .heading h =>
    if h.isTitle then (.heading h, n)
    else (.heading { h with id := (anchorBelow limit n).or h.id }, n + 1)
  | shape => (shape, n)

mutual

/-- Counts the headings from `n` on, gives those below `limit` their anchors, and returns the number of
the next heading with the tree. -/
def Node.number (limit n : Nat) : Node → Node × Nat
  | .leaf loc content => (.leaf loc content, n)
  | .branch loc shape children =>
    let (shape, n) := shape.number limit n
    let (children, n) := Node.numberAll limit n children
    (.branch loc shape children, n)

def Node.numberAll (limit n : Nat) : List Node → List Node × Nat
  | [] => ([], n)
  | child :: rest =>
    let (child, n) := child.number limit n
    let (rest, n) := Node.numberAll limit n rest
    (child :: rest, n)

end

def Node.anchored (limit : Nat) (root : Node) : Node := (root.number limit 0).1

namespace Outline

def Numbers (anchors : List (Place × String)) (limit n : Nat) (ps : List Placed) : Prop :=
  ∀ i p, ps[i]? = some p → anchors.lookup p.place = anchorBelow limit (n + i)

section

variable {anchors : List (Place × String)} {limit n : Nat}

theorem Numbers.left {ps qs : List Placed} (h : Numbers anchors limit n (ps ++ qs)) :
    Numbers anchors limit n ps := by
  intro i p hp
  have hi : i < ps.length := (List.getElem?_eq_some_iff.1 hp).1
  exact h i p (by rw [List.getElem?_append_left hi, hp])

theorem Numbers.right {ps qs : List Placed} (h : Numbers anchors limit n (ps ++ qs)) :
    Numbers anchors limit (n + ps.length) qs := by
  intro i q hq
  have hmem : (ps ++ qs)[ps.length + i]? = some q := by
    rw [List.getElem?_append_right (Nat.le_add_right ..), Nat.add_sub_cancel_left, hq]
  rw [h _ q hmem, Nat.add_assoc]

def Untitled (anchors : List (Place × String)) (ps : List Placed) : Prop :=
  ∀ p ∈ ps, p.heading.isTitle = true → anchors.lookup p.place = none

theorem number_shape {place : Place} {loc : Location} {shape : Branch} {children : List Node}
    (htitles : Untitled anchors (ownHeading place loc shape children))
    (hlisted : Numbers anchors limit n
      ((ownHeading place loc shape children).filter fun p => !p.heading.isTitle)) :
    (shape.number limit n).2 =
        n + ((ownHeading place loc shape children).filter fun p => !p.heading.isTitle).length ∧
      assign anchors place (.branch loc shape children) =
        .branch loc (shape.number limit n).1 (assignAll anchors place 0 children) := by
  cases shape with
  | heading h =>
      rcases h with ⟨level, _ | _, id, explicitId, style⟩
      · have hanchor : anchors.lookup place = anchorBelow limit n := hlisted 0 _ rfl
        rw [assign, hanchor]
        exact ⟨rfl, rfl⟩
      · have hnone : anchors.lookup place = none := htitles _ (List.mem_singleton_self _) rfl
        rw [assign, hnone]
        exact ⟨rfl, rfl⟩
  | _ => exact ⟨rfl, rfl⟩

mutual

theorem number_eq_assign {place : Place} {node : Node} (n : Nat)
    (htitles : Untitled anchors (node.headings place))
    (hlisted : Numbers anchors limit n (node.listed place)) :
    node.number limit n = (assign anchors place node, n + (node.listed place).length) := by
  cases node with
  | leaf loc content => rfl
  | branch loc shape children =>
      obtain ⟨hown, hinner⟩ := List.forall_mem_append.1 htitles
      rw [Node.listed, Node.headings, List.filter_append] at hlisted ⊢
      obtain ⟨hcount, hassign⟩ := number_shape hown hlisted.left
      have hchildren := numberAll_eq_assignAll _ hinner hlisted.right
      rw [hassign, List.length_append, ← Nat.add_assoc]
      simp only [Node.number, hcount, hchildren]

theorem numberAll_eq_assignAll {place : Place} {index : Nat} {children : List Node} (n : Nat)
    (htitles : Untitled anchors (Node.headingsAll place index children))
    (hlisted : Numbers anchors limit n
      ((Node.headingsAll place index children).filter fun p => !p.heading.isTitle)) :
    Node.numberAll limit n children = (assignAll anchors place index children,
      n + ((Node.headingsAll place index children).filter fun p => !p.heading.isTitle).length) := by
  cases children with
  | nil => rfl
  | cons child rest =>
      obtain ⟨hchild, hrest⟩ := List.forall_mem_append.1 htitles
      rw [Node.headingsAll, List.filter_append] at hlisted ⊢
      have hrest := numberAll_eq_assignAll _ hrest hlisted.right
      rw [List.length_append, ← Nat.add_assoc, Node.numberAll, number_eq_assign n hchild hlisted.left,
        assignAll]
      simp only [Node.listed, hrest]

end

end

/-- The anchors of the first headings, listed by their places, are given in document order. -/
theorem assign_anchorsFrom (limit : Nat) (place : Place) (root : Node) :
    assign (anchorsFrom 0 ((root.listed place).take limit)) place root = root.anchored limit := by
  have hnodup := nodup_listed place root
  have htaken : (((root.listed place).take limit).map Placed.place).Nodup :=
    hnodup.sublist ((List.take_sublist limit _).map _)
  have htitles : Untitled (anchorsFrom 0 ((root.listed place).take limit)) (root.headings place) := by
    intro p hp htitle
    have hplace := title_not_listed hp htitle
    exact lookup_anchorsFrom_of_not_mem 0 fun hmem =>
      hplace (List.map_subset _ (List.take_subset limit _) hmem)
  have hlisted : Numbers (anchorsFrom 0 ((root.listed place).take limit)) limit 0 (root.listed place) := by
    intro i p hp
    rw [Nat.zero_add, anchorBelow]
    split
    · next hi =>
        have htake : ((root.listed place).take limit)[i]? = some p := by rw [List.getElem?_take_of_lt hi, hp]
        rw [lookup_anchorsFrom htaken htake, Nat.zero_add]
    · next hi =>
        have hdrop : p ∈ (root.listed place).drop limit := by
          refine List.mem_of_getElem? (i := i - limit) ?_
          rw [List.getElem?_drop, Nat.add_sub_cancel' (Nat.le_of_not_lt hi), hp]
        rw [← List.take_append_drop limit (root.listed place), List.map_append] at hnodup
        have hdisjoint := List.disjoint_of_nodup_append hnodup
        exact lookup_anchorsFrom_of_not_mem 0 fun hmem => hdisjoint hmem (List.mem_map_of_mem hdrop)
  rw [Node.anchored, number_eq_assign 0 htitles hlisted]

end Outline

end MarkdownOutline
