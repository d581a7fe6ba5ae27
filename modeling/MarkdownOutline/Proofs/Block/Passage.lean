import MarkdownOutline.Proofs.Block.Room
import MarkdownOutline.Proofs.Block.Span

namespace MarkdownOutline

namespace Block

/-- Lines that are read together, and the number of the first. -/
structure Passage where
  line : Int
  lines : List Line

namespace Passage

variable {p : Passage} {n : Int}

def since (p : Passage) (n : Int) : List Line :=
  if p.line ≤ n then p.lines.drop (n - p.line).toNat else []

def lineAt? (p : Passage) (n : Int) : Option Line := (p.since n).head?

def IsBlankAt (p : Passage) (n : Int) : Prop := ∃ l, p.lineAt? n = some l ∧ isBlankLine l = true

instance (p : Passage) (n : Int) : Decidable (p.IsBlankAt n) :=
  decidable_of_iff ((p.lineAt? n).any isBlankLine = true) (Option.any_eq_true _ _)

@[simp] theorem since_line (p : Passage) : p.since p.line = p.lines := by
  simp [since]

theorem line_le_of_since (h : p.since n ≠ []) : p.line ≤ n := by
  by_cases hn : p.line ≤ n
  · exact hn
  · rw [since, if_neg hn] at h
    exact absurd rfl h

theorem line_le_of_lineAt? {l : Line} (h : p.lineAt? n = some l) : p.line ≤ n := by
  apply line_le_of_since
  intro hnil
  rw [lineAt?, hnil] at h
  cases h

theorem since_add (hn : p.line ≤ n) (k : Nat) : p.since (n + k) = (p.since n).drop k := by
  rw [since, since, if_pos hn, if_pos (by omega), List.drop_drop]
  congr 1
  omega

theorem since_skip {first : Line} {rest : List Line} (h : p.since n = first :: rest) (k : Nat) :
    p.since (n + 1 + k) = rest.drop k := by
  have hn : p.line ≤ n := line_le_of_since (by simp [h])
  have hskip := since_add hn (k + 1)
  rw [h, List.drop_succ_cons] at hskip
  rw [← hskip]
  congr 1
  omega

theorem since_behind {first : Line} {rest : List Line} (h : p.since n = first :: rest) (k : Nat) :
    p.since (n + k + 1) = rest.drop k := by
  rw [Int.add_right_comm]
  exact since_skip h k

theorem since_succ {first : Line} {rest : List Line} (h : p.since n = first :: rest) :
    p.since (n + 1) = rest := by
  have hskip := since_skip h 0
  rwa [Int.natCast_zero, Int.add_zero] at hskip

theorem lineAt?_of_since {first : Line} {rest : List Line} (h : p.since n = first :: rest) :
    p.lineAt? n = some first := by
  rw [lineAt?, h]
  rfl

theorem exists_since_of_lineAt? {first : Line} (h : p.lineAt? n = some first) : ∃ rest, p.since n = first :: rest :=
  List.head?_eq_some_iff.1 h

theorem isBlankAt_iff {l : Line} (h : p.lineAt? n = some l) : p.IsBlankAt n ↔ isBlankLine l = true := by
  constructor
  · rintro ⟨l', hl', hblank⟩
    rw [h] at hl'
    cases hl'
    exact hblank
  · exact fun hblank => ⟨l, h, hblank⟩

theorem ne_of_isBlankAt {k : Int} {first : Line} {rest : List Line} (h : p.since n = first :: rest)
    (hfirst : isBlankLine first = false) (hk : p.IsBlankAt k) : k ≠ n := by
  rintro rfl
  rw [isBlankAt_iff (lineAt?_of_since h), hfirst] at hk
  cases hk

theorem lineAt?_behind {first : Line} {rest : List Line} (h : p.since n = first :: rest) (k : Nat) :
    p.lineAt? (n + 1 + k) = rest[k]? := by
  rw [lineAt?, since_skip h, List.head?_drop]

theorem lineAt?_add (hn : p.line ≤ n) (k : Nat) : p.lineAt? (n + k) = (p.since n)[k]? := by
  rw [lineAt?, since_add hn, List.head?_drop]

theorem lineAt?_line_add (p : Passage) (k : Nat) : p.lineAt? (p.line + k) = p.lines[k]? := by
  rw [lineAt?_add (Int.le_refl _), since_line]

theorem exists_lineAt?_pred {l : Line} (h : p.lineAt? n = some l) (hn : p.line < n) :
    ∃ l, p.lineAt? (n - 1) = some l := by
  obtain ⟨k, rfl⟩ : ∃ k : Nat, n = p.line + (k + 1 : Nat) := ⟨(n - p.line - 1).toNat, by omega⟩
  rw [lineAt?_line_add] at h
  rw [show p.line + (k + 1 : Nat) - 1 = p.line + (k : Nat) by omega, lineAt?_line_add]
  have hk := (List.getElem?_eq_some_iff.1 h).1
  exact ⟨p.lines[k], List.getElem?_eq_getElem (Nat.lt_of_succ_lt hk)⟩

end Passage

def quotedLines : List Line → List Line
  | [] => []
  | first :: rest =>
    match unquote? first with
    | some inner => dropEmptyLast (inner :: quoteTail (!isBlankLine inner) rest)
    | none => []

def itemLines : List Line → List Line
  | [] => []
  | first :: rest =>
    match marker? first with
    | some m => dropTrailingBlank (m.content :: itemTail m.column (!isBlankLine m.content) rest)
    | none => []

namespace Passage

/-- The location of a quote or item tells which lines around it are its own; less its marks they are what
its children are read from. -/
def inside (p : Passage) : Node → Passage
  | .branch loc .blockQuote _ => ⟨loc.line, quotedLines (p.since loc.line)⟩
  | .branch loc .listItem _ => ⟨loc.line, itemLines (p.since loc.line)⟩
  | _ => p

def along (p : Passage) (root : Node) : List Nat → Passage
  | [] => p
  | i :: path =>
    match root.children[i]? with
    | some child => (p.inside root).along child path
    | none => p

end Passage

end Block

open Block

namespace Node

def ThroughoutIn (P : Passage → Node → Prop) (p : Passage) (root : Node) : Prop :=
  ∀ path node, root.descendant? path = some node → P (p.along root path) node

variable {P : Passage → Node → Prop} {p : Passage}

theorem exists_descendant?_child {root node child : Node} {path : List Nat}
    (h : root.descendant? path = some node) (hchild : child ∈ node.children) : ∃ i,
      root.descendant? (path ++ [i]) = some child ∧ p.along root (path ++ [i]) = (p.along root path).inside node := by
  induction path generalizing root p with
  | nil =>
      cases h
      obtain ⟨i, hi⟩ := List.mem_iff_getElem?.1 hchild
      refine ⟨i, ?_, ?_⟩
      · rw [List.nil_append, descendant?, hi]
        rfl
      · rw [List.nil_append, Passage.along.eq_def]
        simp only [hi]
        rfl
  | cons j path ih =>
      obtain ⟨next, hnext, h⟩ := Option.bind_eq_some_iff.1 h
      obtain ⟨i, hi, halong⟩ := ih h
      refine ⟨i, ?_, ?_⟩
      · rw [List.cons_append, descendant?, hnext]
        exact hi
      · rw [List.cons_append, Passage.along, Passage.along, hnext]
        exact halong

theorem throughoutIn_leaf {loc : Location} {content : Leaf} :
    (leaf loc content).ThroughoutIn P p ↔ P p (leaf loc content) := by
  constructor
  · intro h
    exact h [] _ rfl
  · intro h path node hnode
    cases path with
    | nil =>
        cases hnode
        exact h
    | cons i path => cases hnode

theorem throughoutIn_branch {loc : Location} {shape : Branch} {children : List Node} :
    (branch loc shape children).ThroughoutIn P p ↔ P p (branch loc shape children) ∧
      ∀ child ∈ children, child.ThroughoutIn P (p.inside (branch loc shape children)) := by
  constructor
  · intro h
    refine ⟨h [] _ rfl, ?_⟩
    intro child hchild path node hnode
    obtain ⟨i, hi⟩ := List.mem_iff_getElem?.1 hchild
    have hbelow := h (i :: path) node (by
      rw [descendant?, show (branch loc shape children).children = children from rfl, hi]
      exact hnode)
    rwa [Passage.along, show (branch loc shape children).children = children from rfl, hi] at hbelow
  · rintro ⟨hroot, hchildren⟩ path node hnode
    cases path with
    | nil =>
        cases hnode
        exact hroot
    | cons i path =>
        obtain ⟨child, hchild, hnode⟩ := Option.bind_eq_some_iff.1 hnode
        have hbelow := hchildren child (List.mem_of_getElem? hchild) path node hnode
        rwa [Passage.along, hchild]

mutual

theorem throughoutIn_of_isInline (hP : ∀ p node, node.IsInline → P p node) :
    (node : Node) → node.IsInline → ∀ p, node.ThroughoutIn P p
  | .leaf _ _, h, p => throughoutIn_leaf.2 (hP p _ h)
  | .branch _ _ children, h, p =>
    throughoutIn_branch.2 ⟨hP p _ h, throughoutIn_of_areInline hP children h.2 _⟩

theorem throughoutIn_of_areInline (hP : ∀ p node, node.IsInline → P p node) :
    (nodes : List Node) → Node.AreInline nodes → ∀ p, ∀ node ∈ nodes, node.ThroughoutIn P p
  | [], _, _ => fun _ hnode => (List.not_mem_nil hnode).elim
  | node :: nodes, h, p =>
    List.forall_mem_cons.2
      ⟨throughoutIn_of_isInline hP node h.1 p, throughoutIn_of_areInline hP nodes h.2 p⟩

end

theorem rank_of_isInline {node : Node} (h : node.IsInline) : node.rank = .inline := by
  cases node with
  | leaf loc content => exact Leaf.rank_of_isInline h
  | branch loc shape children => exact Branch.rank_of_isInline h.1

end Node

end MarkdownOutline
