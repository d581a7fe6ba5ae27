import MarkdownOutline.Proofs.Document.Grammar

namespace MarkdownOutline

namespace Location

def last (loc : Location) : Int := loc.endLine.getD loc.line

structure Within (inner outer : Location) : Prop where
  first : outer.line ≤ inner.line
  last : inner.last ≤ outer.last

structure Before (a b : Location) : Prop where
  first : a.line < b.line
  last : a.last < b.line

end Location

namespace Node

def IsParted (node : Node) : Prop :=
  node.children.Pairwise fun a b => a.rank ≠ .inline → b.rank ≠ .inline → a.loc.Before b.loc

structure IsLocated (node : Node) : Prop where
  valid : ∀ last, node.loc.endLine = some last → node.loc.line ≤ last
  inside : ∀ child ∈ node.children, child.loc.Within node.loc
  parted : node.IsParted

def IsHollow (node : Node) : Prop := node.rank = .item ∧ node.children = []

/-- Like a located node, where a hollow item ends on the line before it begins. -/
structure IsSettled (node : Node) : Prop where
  hollow : node.IsHollow → node.loc.endLine = some (node.loc.line - 1)
  valid : ¬node.IsHollow → node.loc.line ≤ node.loc.last
  inside : ∀ child ∈ node.children,
    node.loc.line ≤ child.loc.line ∧ child.loc.line ≤ node.loc.last ∧ child.loc.last ≤ node.loc.last
  parted : node.IsParted

theorem IsSettled.isLocated {node : Node} (h : node.IsSettled) (hhollow : ¬node.IsHollow) : node.IsLocated where
  valid last hlast := by
    have hvalid := h.valid hhollow
    rwa [Location.last, hlast] at hvalid
  inside child hchild := ⟨(h.inside child hchild).1, (h.inside child hchild).2.2⟩
  parted := h.parted

theorem IsSettled.not_isLocated {node : Node} (h : node.IsSettled) (hhollow : node.IsHollow) :
    ¬node.IsLocated := by
  intro hlocated
  have hvalid := hlocated.valid _ (h.hollow hhollow)
  omega

/-- Where all nodes are settled, hollow items are all that is not located. -/
theorem throughout_isLocated_iff {root : Node} (h : root.Throughout IsSettled) :
    root.Throughout IsLocated ↔ root.Throughout fun n => ¬n.IsHollow := by
  constructor
  · intro hlocated path node hnode hhollow
    exact (h path node hnode).not_isLocated hhollow (hlocated path node hnode)
  · intro hfull path node hnode
    exact (h path node hnode).isLocated (hfull path node hnode)

variable {loc : Location}

theorem isSettled_leaf {content : Leaf} (h : loc.line ≤ loc.last) : (leaf loc content).IsSettled where
  hollow hhollow := by cases content <;> cases hhollow.1
  valid _ := h
  inside _ hchild := (List.not_mem_nil hchild).elim
  parted := List.Pairwise.nil

theorem isSettled_branch {shape : Branch} {children : List Node} (h : loc.line ≤ loc.last)
    (hshape : shape ≠ .listItem)
    (hinside : ∀ child ∈ children,
      loc.line ≤ child.loc.line ∧ child.loc.line ≤ loc.last ∧ child.loc.last ≤ loc.last)
    (hparted : (branch loc shape children).IsParted) : (branch loc shape children).IsSettled where
  hollow hhollow := by
    cases shape with
    | listItem => exact absurd rfl hshape
    | _ => cases hhollow.1
  valid _ := h
  inside := hinside
  parted := hparted

structure Stays (loc : Location) (node : Node) : Prop where
  loc_eq : node.loc = loc
  rank : node.rank = .inline
  settled : node.Throughout IsSettled

theorem isSettled_around {shape : Branch} {children : List Node} (h : loc.line ≤ loc.last)
    (hshape : shape ≠ .listItem) (hchildren : ∀ child ∈ children, child.Stays loc) :
    (branch loc shape children).Throughout IsSettled := by
  refine throughout_branch.2 ⟨isSettled_branch h hshape ?_ ?_, fun c hc => (hchildren c hc).settled⟩
  · intro child hchild
    rw [(hchildren child hchild).loc_eq]
    exact ⟨Int.le_refl _, h, Int.le_refl _⟩
  · refine List.pairwise_of_forall_mem_list fun a ha _ _ hrank => ?_
    exact absurd (hchildren a ha).rank hrank

theorem stays_rules (h : loc.line ≤ loc.last) : Inline.Rules loc (Stays loc) where
  leaf content hcontent :=
    ⟨rfl, Leaf.rank_of_isInline hcontent, throughout_leaf.2 (isSettled_leaf h)⟩
  branch shape children hshape hchildren := by
    refine ⟨rfl, Branch.rank_of_isInline hshape, isSettled_around h ?_ hchildren⟩
    rintro rfl
    exact hshape

end Node

/-- Nodes that lie one behind the other on the lines from `line` up to, and not on, `stop`. -/
inductive Stacked : Int → Int → List Node → Prop
  | nil {line stop} : Stacked line stop []
  | cons {line next stop node rest} : line ≤ node.loc.line → node.loc.line < next → node.loc.last < next →
      next ≤ stop → Stacked next stop rest → Stacked line stop (node :: rest)

namespace Stacked

variable {line stop : Int} {nodes : List Node}

theorem widen (h : Stacked line stop nodes) {before after : Int} (hbefore : before ≤ line)
    (hafter : stop ≤ after) : Stacked before after nodes := by
  induction h generalizing before with
  | nil => exact .nil
  | cons hfirst hnext hlast hstop _ ih =>
      exact .cons (Int.le_trans hbefore hfirst) hnext hlast (Int.le_trans hstop hafter) (ih (Int.le_refl _) hafter)

theorem bounds (h : Stacked line stop nodes) :
    ∀ n ∈ nodes, line ≤ n.loc.line ∧ n.loc.line < stop ∧ n.loc.last < stop := by
  induction h with
  | nil => exact fun _ hn => (List.not_mem_nil hn).elim
  | cons hfirst hnext hlast hstop _ ih =>
      refine List.forall_mem_cons.2 ⟨⟨hfirst, by omega, by omega⟩, fun n hn => ?_⟩
      have hrest := ih n hn
      exact ⟨by omega, hrest.2⟩

theorem lt_of_mem_tail (h : Stacked line stop nodes) {n : Node} (hn : n ∈ nodes.tail) : line < n.loc.line := by
  cases h with
  | nil => exact (List.not_mem_nil hn).elim
  | cons hfirst hnext hlast hstop hrest =>
      have hbounds := hrest.bounds n hn
      omega

theorem pairwise (h : Stacked line stop nodes) : nodes.Pairwise fun a b => a.loc.Before b.loc := by
  induction h with
  | nil => exact .nil
  | cons hfirst hnext hlast hstop hrest ih =>
      refine .cons (fun n hn => ?_) ih
      have hn := hrest.bounds n hn
      exact ⟨by omega, by omega⟩

theorem isParted (h : Stacked line stop nodes) (loc : Location) (shape : Branch) :
    (Node.branch loc shape nodes).IsParted := h.pairwise.imp fun hbefore _ _ => hbefore

end Stacked

end MarkdownOutline
