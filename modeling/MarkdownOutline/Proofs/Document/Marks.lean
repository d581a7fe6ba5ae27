import MarkdownOutline.Proofs.Block.Grammar
import MarkdownOutline.Proofs.Html.Fault
import MarkdownOutline.Proofs.Outline.Headings

namespace MarkdownOutline

def Branch.Admits (shape : Branch) (children : List Node) : Prop :=
  match shape with
  | .heading h => 1 ≤ h.level ∧ Node.AreInline children
  | .other _ => False
  | _ => True

mutual

/-- A tree as it is read, whatever anchors its headings have been given since. -/
def Node.IsRead : Node → Prop
  | .leaf _ content => content.HasMarkup
  | .branch _ shape children => shape.Admits children ∧ Node.AreRead children

def Node.AreRead : List Node → Prop
  | [] => True
  | child :: rest => child.IsRead ∧ Node.AreRead rest

end

theorem Node.areRead_iff {nodes : List Node} : Node.AreRead nodes ↔ ∀ n ∈ nodes, n.IsRead := by
  induction nodes with
  | nil => simp [Node.AreRead]
  | cons n rest ih => rw [Node.AreRead, ih, List.forall_mem_cons]

mutual

theorem Node.IsInline.isRead {node : Node} (h : node.IsInline) : node.IsRead := by
  cases node with
  | leaf loc content =>
      cases content with
      | codeBlock | other => exact h.elim
      | _ => trivial
  | branch loc shape children =>
      refine ⟨?_, Node.AreInline.areRead h.2⟩
      cases shape with
      | heading | other => exact h.1.elim
      | _ => trivial

theorem Node.AreInline.areRead {nodes : List Node} (h : Node.AreInline nodes) : Node.AreRead nodes := by
  cases nodes with
  | nil => trivial
  | cons child rest => exact ⟨Node.IsInline.isRead h.1, Node.AreInline.areRead h.2⟩

end

theorem isRead_grammar (settings : Settings) : Block.Grammar settings Node.IsRead where
  leaf _ content h := by
    cases content with
    | codeBlock code info fenced =>
        cases info with
        | none => trivial
        | some text => exact .inr (h text rfl)
    | other kind => exact h
    | _ => trivial
  heading loc _ text hlevel _ :=
    ⟨⟨hlevel, Inline.areInline_read settings loc text⟩, (Inline.areInline_read settings loc text).areRead⟩
  paragraph loc text := ⟨trivial, (Inline.areInline_read settings loc text).areRead⟩
  quote _ _ h := ⟨trivial, Node.areRead_iff.2 h⟩
  item _ _ h := ⟨trivial, Node.areRead_iff.2 h⟩
  list _ _ _ _ _ h := ⟨trivial, Node.areRead_iff.2 h⟩

theorem isRead_of_parse {settings : Settings} {file : Option String} {source : String} {root : Node}
    (h : parse settings file source = .ok root) : root.IsRead := by
  obtain ⟨loc, blocks, rfl, hblocks⟩ := parse_holds (isRead_grammar settings) h
  exact ⟨trivial, Node.areRead_iff.2 hblocks⟩

theorem isBranch_of_parse {settings : Settings} {file : Option String} {source : String} {root : Node}
    (h : parse settings file source = .ok root) : root.isBranch = true := by
  obtain ⟨loc, blocks, rfl, _⟩ := exists_of_parse_eq_ok h
  rfl

mutual

theorem Node.IsRead.hasMarkup {node : Node} (h : node.IsRead) : node.HasMarkup := by
  cases node with
  | leaf loc content => exact h
  | branch loc shape children =>
      refine ⟨?_, Node.AreRead.haveMarkup h.2⟩
      cases shape with
      | other kind => exact h.1
      | _ => trivial

theorem Node.AreRead.haveMarkup {nodes : List Node} (h : Node.AreRead nodes) : Node.HaveMarkup nodes := by
  cases nodes with
  | nil => trivial
  | cons child rest => exact ⟨Node.IsRead.hasMarkup h.1, Node.AreRead.haveMarkup h.2⟩

end

mutual

theorem Node.IsRead.plain {node : Node} (h : node.IsRead) (place : Place) :
    ∀ p ∈ node.headings place, p.Plain := by
  cases node with
  | leaf loc content => exact fun _ hp => (List.not_mem_nil hp).elim
  | branch loc shape children =>
      refine List.forall_mem_append.2 ⟨?_, Node.AreRead.plain h.2 place 0⟩
      cases shape with
      | heading heading => exact List.forall_mem_singleton.2 ⟨h.1.1, h.1.2⟩
      | _ => exact fun _ hp => (List.not_mem_nil hp).elim

theorem Node.AreRead.plain {nodes : List Node} (h : Node.AreRead nodes) (place : Place) (index : Nat) :
    ∀ p ∈ Node.headingsAll place index nodes, p.Plain := by
  cases nodes with
  | nil => exact fun _ hp => (List.not_mem_nil hp).elim
  | cons child rest =>
      exact List.forall_mem_append.2 ⟨Node.IsRead.plain h.1 _, Node.AreRead.plain h.2 place _⟩

end

namespace Outline

/-- A document after some outlines of it, each of which gives anchors to headings. -/
inductive Marks (root : Node) : Node → Prop
  | refl : Marks root root
  | assign {doc} (anchors : List (Place × String)) (place : Place) :
      Marks root doc → Marks root (assign anchors place doc)

mutual

theorem isRead_assign {node : Node} (h : node.IsRead) (anchors : List (Place × String)) (place : Place) :
    (Outline.assign anchors place node).IsRead := by
  cases node with
  | leaf loc content => exact h
  | branch loc shape children =>
      have hchildren := areRead_assignAll h.2 anchors place 0
      cases shape with
      | heading heading =>
          refine ⟨⟨h.1.1, ?_⟩, hchildren⟩
          rw [assignAll_of_areInline anchors h.1.2]
          exact h.1.2
      | other kind => exact h.1.elim
      | _ => exact ⟨trivial, hchildren⟩

theorem areRead_assignAll {nodes : List Node} (h : Node.AreRead nodes) (anchors : List (Place × String))
    (place : Place) (index : Nat) : Node.AreRead (assignAll anchors place index nodes) := by
  cases nodes with
  | nil => trivial
  | cons child rest => exact ⟨isRead_assign h.1 anchors _, areRead_assignAll h.2 anchors place _⟩

end

theorem Marks.isRead {root doc : Node} (h : Marks root doc) (hroot : root.IsRead) : doc.IsRead := by
  induction h with
  | refl => exact hroot
  | assign anchors place _ ih => exact isRead_assign ih anchors place

end Outline

end MarkdownOutline
