import Mathlib.Data.List.Nodup
import MarkdownOutline.Outline.Collect
import MarkdownOutline.Proofs.Block.Grammar
import MarkdownOutline.Proofs.Inline.Nodes
import MarkdownOutline.Proofs.Walk.Visits

namespace MarkdownOutline

structure Placed where
  place : Place
  loc : Location
  heading : Heading
  children : List Node

def Placed.node (p : Placed) : Node := .branch p.loc (.heading p.heading) p.children

def Placed.visits (p : Placed) : List Visit := p.node.visits p.place

def ownHeading (place : Place) (loc : Location) (shape : Branch) (children : List Node) : List Placed :=
  match shape with
  | .heading h => [⟨place, loc, h, children⟩]
  | _ => []

mutual

def Node.headings (place : Place) : Node → List Placed
  | .leaf .. => []
  | .branch loc shape children =>
    ownHeading place loc shape children ++ Node.headingsAll place 0 children

def Node.headingsAll (place : Place) (index : Nat) : List Node → List Placed
  | [] => []
  | child :: rest => child.headings (index :: place) ++ Node.headingsAll place (index + 1) rest

end

def Node.listed (place : Place) (root : Node) : List Placed :=
  (root.headings place).filter fun p => !p.heading.isTitle

theorem filter_ownHeading {place : Place} {loc : Location} {h : Heading} {children : List Node}
    (htitle : h.isTitle = false) : (ownHeading place loc (.heading h) children).filter
      (fun p => !p.heading.isTitle) = [⟨place, loc, h, children⟩] := by
  simp [ownHeading, htitle]

structure Placed.Plain (p : Placed) : Prop where
  level : 1 ≤ p.heading.level
  inline : Node.AreInline p.children

mutual

theorem headings_of_isInline {node : Node} (h : node.IsInline) (place : Place) :
    node.headings place = [] := by
  cases node with
  | leaf loc content => rfl
  | branch loc shape children =>
      rw [Node.headings, headingsAll_of_areInline h.2]
      cases shape with
      | heading heading => exact h.1.elim
      | _ => rfl

theorem headingsAll_of_areInline {children : List Node} (h : Node.AreInline children) (place : Place)
    (index : Nat) : Node.headingsAll place index children = [] := by
  cases children with
  | nil => rfl
  | cons child rest =>
      rw [Node.headingsAll, headings_of_isInline h.1, headingsAll_of_areInline h.2, List.append_nil]

end

theorem forall_headingsAll {P : Placed → Prop} {children : List Node}
    (h : ∀ c ∈ children, ∀ place, ∀ p ∈ c.headings place, P p) (place : Place) (index : Nat) :
    ∀ p ∈ Node.headingsAll place index children, P p := by
  induction children generalizing index with
  | nil => exact fun _ hp => (List.not_mem_nil hp).elim
  | cons child rest ih =>
      obtain ⟨hchild, hrest⟩ := List.forall_mem_cons.1 h
      exact List.forall_mem_append.2 ⟨hchild _, ih hrest _⟩

def Placed.Fresh (p : Placed) : Prop := p.Plain ∧ p.heading.id = none

/-- What holds of every heading as it is read holds of all headings of a document. -/
theorem headings_grammar {settings : Settings} {P : Placed → Prop}
    (h : ∀ place loc (heading : Heading) text, 1 ≤ heading.level → heading.id = none →
      P ⟨place, loc, heading, Inline.read settings loc text⟩) :
    Block.Grammar settings fun n => ∀ place, ∀ p ∈ n.headings place, P p where
  leaf _ _ _ _ _ hp := (List.not_mem_nil hp).elim
  heading loc heading text hlevel hid place p hp := by
    rw [Node.headings, headingsAll_of_areInline (Inline.areInline_read settings loc text)] at hp
    obtain rfl := List.mem_singleton.1 hp
    exact h place loc heading text hlevel hid
  paragraph loc text place p hp := by
    rw [Node.headings, headingsAll_of_areInline (Inline.areInline_read settings loc text)] at hp
    exact (List.not_mem_nil hp).elim
  quote _ _ h place := forall_headingsAll h place 0
  item _ _ h place := forall_headingsAll h place 0
  list _ _ _ _ _ h place := forall_headingsAll h place 0

theorem headings_of_parse {settings : Settings} {P : Placed → Prop}
    (h : ∀ place loc (heading : Heading) text, 1 ≤ heading.level → heading.id = none →
      P ⟨place, loc, heading, Inline.read settings loc text⟩)
    {file : Option String} {source : String} {root : Node} (hroot : parse settings file source = .ok root)
    (place : Place) : ∀ p ∈ root.headings place, P p := by
  obtain ⟨loc, blocks, rfl, hblocks⟩ := parse_holds (headings_grammar h) hroot
  exact forall_headingsAll hblocks place 0

theorem fresh_of_parse {settings : Settings} {file : Option String} {source : String} {root : Node}
    (h : parse settings file source = .ok root) (place : Place) : ∀ p ∈ root.headings place, p.Fresh :=
  headings_of_parse (fun _ loc _ text hlevel hid => ⟨⟨hlevel, Inline.areInline_read settings loc text⟩, hid⟩) h
    place

mutual

theorem place_suffix_of_headings {place : Place} {node : Node} {p : Placed}
    (h : p ∈ node.headings place) : place <:+ p.place := by
  cases node with
  | leaf loc content => exact (List.not_mem_nil h).elim
  | branch loc shape children =>
      rcases List.mem_append.1 h with h | h
      · cases shape with
        | heading heading =>
            obtain rfl := List.mem_singleton.1 h
            exact List.suffix_refl _
        | _ => exact (List.not_mem_nil h).elim
      · obtain ⟨j, _, hj⟩ := place_suffix_of_headingsAll h
        exact (List.suffix_cons j place).trans hj

theorem place_suffix_of_headingsAll {place : Place} {index : Nat} {children : List Node} {p : Placed}
    (h : p ∈ Node.headingsAll place index children) : ∃ j, index ≤ j ∧ (j :: place) <:+ p.place := by
  cases children with
  | nil => exact (List.not_mem_nil h).elim
  | cons child rest =>
      rcases List.mem_append.1 h with h | h
      · exact ⟨index, Nat.le_refl _, place_suffix_of_headings h⟩
      · obtain ⟨j, hj, hsuffix⟩ := place_suffix_of_headingsAll h
        exact ⟨j, by omega, hsuffix⟩

end

theorem index_eq_of_suffix {i j : Nat} {place below : Place} (hi : (i :: place) <:+ below)
    (hj : (j :: place) <:+ below) : i = j := by
  have h : (i :: place) <:+ (j :: place) :=
    List.suffix_of_suffix_length_le hi hj (Nat.le_refl _)
  exact (List.cons.inj (h.eq_of_length rfl)).1

mutual

theorem nodup_headings (place : Place) (node : Node) :
    ((node.headings place).map Placed.place).Nodup := by
  cases node with
  | leaf loc content => exact List.nodup_nil
  | branch loc shape children =>
      have hchildren := nodup_headingsAll place 0 children
      cases shape with
      | heading heading =>
          refine List.nodup_cons.2 ⟨fun h => ?_, hchildren⟩
          obtain ⟨p, hp, hplace⟩ := List.mem_map.1 h
          obtain ⟨j, _, hj⟩ := place_suffix_of_headingsAll hp
          rw [show p.place = place from hplace] at hj
          exact absurd hj.length_le (Nat.not_succ_le_self _)
      | _ => exact hchildren

theorem nodup_headingsAll (place : Place) (index : Nat) (children : List Node) :
    ((Node.headingsAll place index children).map Placed.place).Nodup := by
  cases children with
  | nil => exact List.nodup_nil
  | cons child rest =>
      rw [Node.headingsAll, List.map_append]
      refine List.Nodup.append (nodup_headings _ child) (nodup_headingsAll place (index + 1) rest) ?_
      intro below hchild hrest
      obtain ⟨p, hp, rfl⟩ := List.mem_map.1 hchild
      obtain ⟨q, hq, hplace⟩ := List.mem_map.1 hrest
      obtain ⟨j, hj, hsuffix⟩ := place_suffix_of_headingsAll hq
      have := index_eq_of_suffix (place_suffix_of_headings hp) (hplace ▸ hsuffix)
      omega

end

mutual

/-- A walk visits a heading and what is inside it without anything between. -/
theorem visits_of_mem_headings {place : Place} {node : Node} {p : Placed}
    (h : p ∈ node.headings place) : p.visits <:+: node.visits place := by
  cases node with
  | leaf loc content => exact (List.not_mem_nil h).elim
  | branch loc shape children =>
      have hinner : p ∈ Node.headingsAll place 0 children →
          p.visits <:+: Node.visits place (.branch loc shape children) := by
        intro h
        refine (visits_of_mem_headingsAll h).trans ?_
        exact (List.infix_append' [_] _ _)
      rcases List.mem_append.1 h with h | h
      · cases shape with
        | heading heading =>
            obtain rfl := List.mem_singleton.1 h
            exact List.infix_refl _
        | _ => exact (List.not_mem_nil h).elim
      · exact hinner h

theorem visits_of_mem_headingsAll {place : Place} {index : Nat} {children : List Node} {p : Placed}
    (h : p ∈ Node.headingsAll place index children) :
    p.visits <:+: Node.visitsAll place index children := by
  cases children with
  | nil => exact (List.not_mem_nil h).elim
  | cons child rest =>
      rcases List.mem_append.1 h with h | h
      · exact (visits_of_mem_headings h).trans (List.prefix_append _ _).isInfix
      · exact (visits_of_mem_headingsAll h).trans (List.suffix_append _ _).isInfix

end

namespace Outline

variable (anchors : List (Place × String))

def mark (p : Placed) : Placed :=
  { p with heading := { p.heading with id := (anchors.lookup p.place).or p.heading.id } }

mutual

theorem assign_of_isInline {node : Node} (h : node.IsInline) (place : Place) :
    assign anchors place node = node := by
  cases node with
  | leaf loc content => rfl
  | branch loc shape children =>
      cases shape with
      | heading heading => exact h.1.elim
      | _ => rw [assign, assignAll_of_areInline h.2]; simp

theorem assignAll_of_areInline {children : List Node} (h : Node.AreInline children) (place : Place)
    (index : Nat) : assignAll anchors place index children = children := by
  cases children with
  | nil => rfl
  | cons child rest => rw [assignAll, assign_of_isInline h.1, assignAll_of_areInline h.2]

end

mutual

theorem headings_assign {node : Node} {place : Place}
    (h : ∀ p ∈ node.headings place, Node.AreInline p.children) :
    (assign anchors place node).headings place = (node.headings place).map (mark anchors) := by
  cases node with
  | leaf loc content => rfl
  | branch loc shape children =>
      obtain ⟨hown, hinner⟩ := List.forall_mem_append.1 h
      have hchildren := headingsAll_assignAll hinner
      rw [Node.headings, List.map_append, ← hchildren]
      cases shape with
      | heading heading =>
          have hinline : Node.AreInline children := hown _ (List.mem_singleton.2 rfl)
          rw [assign, assignAll_of_areInline anchors hinline]
          rfl
      | _ => rfl

theorem headingsAll_assignAll {children : List Node} {place : Place} {index : Nat}
    (h : ∀ p ∈ Node.headingsAll place index children, Node.AreInline p.children) :
    Node.headingsAll place index (assignAll anchors place index children) =
      (Node.headingsAll place index children).map (mark anchors) := by
  cases children with
  | nil => rfl
  | cons child rest =>
      obtain ⟨hchild, hrest⟩ := List.forall_mem_append.1 h
      rw [assignAll, Node.headingsAll, headings_assign hchild, headingsAll_assignAll hrest,
        Node.headingsAll, List.map_append]

end

mutual

theorem assign_assign (place : Place) (node : Node) :
    assign anchors place (assign anchors place node) = assign anchors place node := by
  cases node with
  | leaf loc content => rfl
  | branch loc shape children =>
      cases shape with
      | heading heading => simp only [assign, assignAll_assignAll, ← Option.or_assoc, Option.or_self]
      | _ => simp only [assign, assignAll_assignAll]

theorem assignAll_assignAll (place : Place) (index : Nat) (children : List Node) :
    assignAll anchors place index (assignAll anchors place index children) =
      assignAll anchors place index children := by
  cases children with
  | nil => rfl
  | cons child rest => simp only [assignAll, assign_assign, assignAll_assignAll]

end

end Outline

end MarkdownOutline
