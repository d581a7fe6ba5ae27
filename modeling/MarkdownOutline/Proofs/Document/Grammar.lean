import MarkdownOutline.Proofs.Inline.Nodes

namespace MarkdownOutline

open Text

def Node.Throughout (P : Node → Prop) (root : Node) : Prop :=
  ∀ path node, root.descendant? path = some node → P node

namespace Node

variable {P : Node → Prop}

theorem throughout_leaf {loc : Location} {content : Leaf} :
    (leaf loc content).Throughout P ↔ P (leaf loc content) := by
  refine ⟨fun h => h [] _ rfl, fun h path node hnode => ?_⟩
  cases path with
  | nil =>
      cases hnode
      exact h
  | cons i path => cases hnode

theorem throughout_branch {loc : Location} {shape : Branch} {children : List Node} :
    (branch loc shape children).Throughout P ↔
      P (branch loc shape children) ∧ ∀ child ∈ children, child.Throughout P := by
  constructor
  · intro h
    refine ⟨h [] _ rfl, fun child hchild path node hnode => ?_⟩
    obtain ⟨i, hi⟩ := List.mem_iff_getElem?.1 hchild
    refine h (i :: path) node ?_
    rw [descendant?, show (branch loc shape children).children = children from rfl, hi]
    exact hnode
  · rintro ⟨hroot, hchildren⟩ path node hnode
    cases path with
    | nil =>
        cases hnode
        exact hroot
    | cons i path =>
        obtain ⟨child, hchild, hnode⟩ := Option.bind_eq_some_iff.1 hnode
        exact hchildren child (List.mem_of_getElem? hchild) path node hnode

end Node

inductive Rank where
  | document
  | block
  | item
  | inline
  /-- Kinds that the grammar does not know. -/
  | foreign
  deriving DecidableEq

def Leaf.rank : Leaf → Rank
  | codeBlock .. | thematicBreak | htmlBlock _ => .block
  | text _ | codeSpan _ | htmlInline _ | image .. | lineBreak | softBreak => .inline
  | other _ => .foreign

def Branch.rank : Branch → Rank
  | document => .document
  | heading _ | paragraph | blockQuote | list .. => .block
  | listItem => .item
  | emphasis | strong | strikethrough | link .. => .inline
  | other _ => .foreign

def Node.rank : Node → Rank
  | leaf _ content => content.rank
  | branch _ shape _ => shape.rank

theorem Leaf.rank_of_isInline {content : Leaf} (h : content.IsInline) : content.rank = .inline := by
  cases content with
  | codeBlock | thematicBreak | htmlBlock | other => exact h.elim
  | _ => rfl

theorem Branch.rank_of_isInline {shape : Branch} (h : shape.IsInline) : shape.rank = .inline := by
  cases shape with
  | emphasis | strong | strikethrough | link => rfl
  | _ => exact h.elim

def Branch.holds : Branch → Rank
  | document | blockQuote | listItem => .block
  | list .. => .item
  | heading _ | paragraph | emphasis | strong | strikethrough | link .. => .inline
  | other _ => .foreign

def maxStart : Int := 999999999

/-- A heading as it is read: an underline gives one of two levels, and anchors come later. -/
structure Heading.Conforms (h : Heading) : Prop where
  level_pos : 1 ≤ h.level
  level_le : h.level ≤ 6
  underlined : h.style = .setext → h.level ≤ 2
  unmarked : h.id = none

def Leaf.Conforms : Leaf → Prop
  | codeBlock _ info fenced =>
    (∀ text ∈ info, text ≠ "" ∧ trim isBlank text.toList = text.toList) ∧ (fenced = false → info = none)
  | other _ => False
  | _ => True

def Branch.Conforms : Branch → Prop
  | heading h => h.Conforms
  | list ordered start _ => if ordered then 0 ≤ start ∧ start ≤ maxStart else start = 1
  | other _ => False
  | _ => True

/-- A node that keeps to the grammar, and so do the ranks of its children; a list has items. -/
def Node.Conforms : Node → Prop
  | leaf _ content => content.Conforms
  | branch _ shape children =>
    shape.Conforms ∧ (∀ child ∈ children, child.rank = shape.holds) ∧ (shape.holds = .item → children ≠ [])

def Node.IsTitle (node : Node) : Prop := ∃ h, node.heading? = some h ∧ h.isTitle = true

def Branch.isContainer : Branch → Bool
  | .blockQuote | .listItem => true
  | _ => false

mutual

def Node.nesting : Node → Nat
  | .leaf .. => 0
  | .branch _ shape children => shape.isContainer.toNat + Node.nestingAll children

def Node.nestingAll : List Node → Nat
  | [] => 0
  | child :: rest => max child.nesting (Node.nestingAll rest)

end

theorem Node.nestingAll_le {nodes : List Node} {n : Nat} :
    Node.nestingAll nodes ≤ n ↔ ∀ node ∈ nodes, node.nesting ≤ n := by
  induction nodes with
  | nil => simp [Node.nestingAll]
  | cons node rest ih => rw [Node.nestingAll, Nat.max_le, ih, List.forall_mem_cons]

/-- A node of some rank that keeps to the grammar throughout, with no title block and with at most
`room` quotes and items on a path. -/
structure Node.IsProper (rank : Rank) (room : Nat) (node : Node) : Prop where
  rank : node.rank = rank
  conforms : node.Throughout Node.Conforms
  untitled : node.Throughout fun n => ¬n.IsTitle
  nesting : node.nesting ≤ room

namespace Node.IsProper

theorem ofLeaf {loc : Location} {content : Leaf} {rank : Rank} {room : Nat} (hrank : content.rank = rank)
    (h : content.Conforms) : (Node.leaf loc content).IsProper rank room where
  rank := hrank
  conforms := Node.throughout_leaf.2 h
  untitled := Node.throughout_leaf.2 fun ⟨_, hheading, _⟩ => by cases hheading
  nesting := Nat.zero_le _

theorem ofBranch {loc : Location} {shape : Branch} {rank : Rank} {children : List Node} {inner room : Nat}
    (hrank : shape.rank = rank) (hshape : shape.Conforms)
    (htitle : ∀ h, shape = .heading h → h.isTitle = false) (hitems : shape.holds = .item → children ≠ [])
    (h : ∀ child ∈ children, child.IsProper shape.holds inner)
    (hroom : shape.isContainer.toNat + inner ≤ room) :
    (Node.branch loc shape children).IsProper rank room where
  rank := hrank
  conforms :=
    Node.throughout_branch.2 ⟨⟨hshape, fun c hc => (h c hc).rank, hitems⟩, fun c hc => (h c hc).conforms⟩
  untitled := by
    refine Node.throughout_branch.2 ⟨?_, fun c hc => (h c hc).untitled⟩
    rintro ⟨heading, hheading, hisTitle⟩
    cases shape with
    | heading own =>
        cases hheading
        rw [htitle _ rfl] at hisTitle
        cases hisTitle
    | _ => cases hheading
  nesting :=
    Nat.le_trans (Nat.add_le_add_left (Node.nestingAll_le.2 fun c hc => (h c hc).nesting) _) hroom

end Node.IsProper

theorem isProper_rules (loc : Location) : Inline.Rules loc (Node.IsProper .inline 0) where
  leaf content h := by
    refine .ofLeaf (Leaf.rank_of_isInline h) ?_
    cases content with
    | codeBlock | other => exact h.elim
    | _ => trivial
  branch shape children hshape h := by
    cases shape with
    | emphasis | strong | strikethrough | link =>
        exact .ofBranch rfl trivial (fun _ h => by cases h) (fun h => by cases h) h (Nat.le_refl 0)
    | _ => exact hshape.elim

end MarkdownOutline
