import MarkdownOutline.Proofs.Document.Grammar
import MarkdownOutline.Proofs.Inline.Relabel

namespace MarkdownOutline

def Branch.withoutMark : Branch → List Node → List Node
  | .link .., [.branch _ (.other _) children] => children
  | _, children => children

mutual

def Node.unmark : Node → Node
  | .leaf loc content => .leaf loc content
  | .branch loc shape children => .branch loc shape (shape.withoutMark (Node.unmarkAll children))

def Node.unmarkAll : List Node → List Node
  | [] => []
  | node :: rest => node.unmark :: Node.unmarkAll rest

end

theorem Node.unmarkAll_eq_map (nodes : List Node) : Node.unmarkAll nodes = nodes.map Node.unmark := by
  induction nodes with
  | nil => rw [Node.unmarkAll, List.map_nil]
  | cons node rest ih => rw [Node.unmarkAll, ih, List.map_cons]

theorem plainTexts_withoutMark (shape : Branch) (children : List Node) :
    plainTexts (shape.withoutMark children) = plainTexts children := by
  unfold Branch.withoutMark
  split
  · rw [plainTexts_cons, plainTexts_nil, String.append_empty, Node.plainText]
  · rfl

mutual

theorem Node.plainText_unmark (node : Node) : node.unmark.plainText = node.plainText := by
  cases node with
  | leaf loc content => rw [Node.unmark]
  | branch loc shape children =>
      rw [Node.unmark, Node.plainText, plainTexts_withoutMark, plainTexts_unmarkAll children, Node.plainText]

theorem plainTexts_unmarkAll (nodes : List Node) : plainTexts (Node.unmarkAll nodes) = plainTexts nodes := by
  cases nodes with
  | nil => rw [Node.unmarkAll]
  | cons node rest =>
      rw [Node.unmarkAll, plainTexts_cons, plainTexts_cons, Node.plainText_unmark node, plainTexts_unmarkAll rest]

end

def Branch.isMark : Branch → Bool
  | .other _ => true
  | _ => false

mutual

def Node.marks : Node → Nat
  | .leaf .. => 0
  | .branch _ shape children => shape.isMark.toNat + Node.marksAll children

def Node.marksAll : List Node → Nat
  | [] => 0
  | child :: rest => max child.marks (Node.marksAll rest)

end

theorem Node.marksAll_le {nodes : List Node} {n : Nat} :
    Node.marksAll nodes ≤ n ↔ ∀ node ∈ nodes, node.marks ≤ n := by
  induction nodes with
  | nil => simp [Node.marksAll]
  | cons node rest ih => rw [Node.marksAll, Nat.max_le, ih, List.forall_mem_cons]

/-- A link holds one mark, with its label below, or it is an autolink, with its address as its text. -/
def Node.IsMarked (settings : Settings) : Node → Prop
  | .branch _ (.link url title) children =>
    (∃ loc kind label, children = [.branch loc (.other kind) label]) ∨
      settings.autolinks = true ∧ title = none ∧
        ∃ loc text, children = [.leaf loc (.text text)] ∧ (url = text ∨ url = "mailto:" ++ text)
  | _ => True

structure Node.IsMarkedWithin (settings : Settings) (n : Nat) (node : Node) : Prop where
  throughout : node.Throughout (Node.IsMarked settings)
  marks_le : node.marks ≤ n

theorem Node.isMarkedWithin_leaf (settings : Settings) (n : Nat) (loc : Location) (content : Leaf) :
    (leaf loc content).IsMarkedWithin settings n := ⟨throughout_leaf.2 trivial, Nat.zero_le n⟩

theorem Node.isMarkedWithin_branch {settings : Settings} {n m : Nat} {loc : Location} {shape : Branch}
    {children : List Node} (hself : (branch loc shape children).IsMarked settings)
    (h : ∀ child ∈ children, child.IsMarkedWithin settings m) (hn : shape.isMark.toNat + m ≤ n) :
    (branch loc shape children).IsMarkedWithin settings n where
  throughout := throughout_branch.2 ⟨hself, fun child hchild => (h child hchild).throughout⟩
  marks_le := by
    have hm : marksAll children ≤ m := marksAll_le.2 fun child hchild => (h child hchild).marks_le
    rw [marks]
    omega

namespace Inline

/-- Reads text in which labels may nest `room` deep, with a mark around every label. -/
def readMarked (settings : Settings) (loc : Location) : Nat → List Char → List Node
  | 0, cs => assemble loc (scan ⟨settings, loc, none⟩ cs)
  | room + 1, cs =>
    let label cs := [Node.branch loc (.other "Label") (readMarked settings loc room cs)]
    assemble loc (scan ⟨settings, loc, some label⟩ cs)

theorem maps_unmark (loc : Location) : Maps loc Node.unmark where
  text _ := by rw [Node.unmark]
  bond bond children := by
    rw [Node.unmark, Node.unmarkAll_eq_map]
    cases bond <;> rfl

section

variable (settings : Settings) (loc : Location)

/-- The marks are all that tells the two readers apart. -/
theorem map_unmark_readMarked (room : Nat) (cs : List Char) :
    (readMarked settings loc room cs).map Node.unmark = readWithin settings loc room cs := by
  have hassemble {a b : Option (List Char → List Node)} (h : Relabels Node.unmark loc a b) (cs : List Char) :
      (assemble loc (scan ⟨settings, loc, a⟩ cs)).map Node.unmark =
        assemble loc (scan ⟨settings, loc, b⟩ cs) := by
    rw [← assemble_map (maps_unmark loc), scan, scan, scanFrom_relabel h]
  have hrelabels {a b : Option (List Char → List Node)} (h : Option.Rel (Replaces Node.unmark loc) a b) :
      Relabels Node.unmark loc a b :=
    ⟨fun _ => by rw [Node.unmark], fun _ _ => rfl, h⟩
  induction room generalizing cs with
  | zero => exact hassemble (hrelabels .none) cs
  | succ room ih =>
      refine hassemble (hrelabels (.some ⟨fun url title cs => ?_, fun cs => ?_⟩)) cs
      · rw [Node.unmark, ← ih, ← Node.unmarkAll_eq_map]
        rfl
      · rw [plainTexts_cons, plainTexts_nil, String.append_empty, Node.plainText, ← ih, ← Node.unmarkAll_eq_map,
          plainTexts_unmarkAll]

theorem isMarkedWithin_joins (n : Nat) : Joins loc (Node.IsMarkedWithin settings n) where
  text _ := Node.isMarkedWithin_leaf settings n loc _
  bond bond _ h := by
    cases bond <;> exact Node.isMarkedWithin_branch trivial h (Nat.zero_add n).le

theorem isMarkedWithin_scans {n : Nat} {label : Option (List Char → List Node)}
    (h : ∀ read, label = some read → ∀ (cs : List Char) (url : String) (title : Option String),
      (Node.branch loc (.link url title) (read cs)).IsMarkedWithin settings n) :
    Scans ⟨settings, loc, label⟩ (fun _ => True) (Node.IsMarkedWithin settings n) where
  leaf content _ _ := Node.isMarkedWithin_leaf settings n loc content
  autolink henabled _ _ haddress := by
    refine Node.isMarkedWithin_branch (.inr ⟨henabled, rfl, loc, _, rfl, haddress⟩) ?_ (Nat.zero_add n).le
    exact List.forall_mem_singleton.2 (Node.isMarkedWithin_leaf settings n loc _)
  link read hread cs _ := h read hread cs

/-- Labels nest no deeper than they may. -/
theorem isMarkedWithin_readMarked (room : Nat) (cs : List Char) :
    ∀ node ∈ readMarked settings loc room cs, node.IsMarkedWithin settings room := by
  have hassemble {n : Nat} {label : Option (List Char → List Node)}
      (h : Scans ⟨settings, loc, label⟩ (fun _ => True) (Node.IsMarkedWithin settings n)) (cs : List Char) :
      ∀ node ∈ assemble loc (scan ⟨settings, loc, label⟩ cs), node.IsMarkedWithin settings n :=
    assemble_holds (isMarkedWithin_joins settings loc n) (scanFrom_holds h trivial none none fun _ _ => trivial)
  induction room generalizing cs with
  | zero => exact hassemble (isMarkedWithin_scans settings loc fun _ hread => by cases hread) cs
  | succ room ih =>
      refine hassemble (isMarkedWithin_scans settings loc fun read hread label url title => ?_) cs
      cases hread
      have hmark : (Node.branch loc (.other "Label") (readMarked settings loc room label)).IsMarkedWithin settings
          (room + 1) := Node.isMarkedWithin_branch trivial (ih label) (Nat.add_comm 1 room).le
      exact Node.isMarkedWithin_branch (.inl ⟨loc, _, _, rfl⟩) (List.forall_mem_singleton.2 hmark)
        (Nat.zero_add (room + 1)).le

end

end Inline

end MarkdownOutline
