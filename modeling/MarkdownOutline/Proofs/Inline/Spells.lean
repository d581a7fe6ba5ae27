import MarkdownOutline.Proofs.Inline.CodeSpan
import MarkdownOutline.Proofs.Inline.Runs

namespace MarkdownOutline

def Node.IsText : Node → Prop
  | .leaf _ (.text _) => True
  | _ => False

mutual

/-- The texts that nodes stand for. Each node chooses its own mark. -/
inductive Node.Spells : Node → List Char → Prop
  | text (loc) (s : String) : Spells (.leaf loc (.text s)) s.toList
  | emphasis (loc) {mark children cs} : mark = '*' ∨ mark = '_' → SpellAll children cs →
      Spells (.branch loc .emphasis children) (mark :: cs ++ [mark])
  | strong (loc) {mark children cs} : mark = '*' ∨ mark = '_' → SpellAll children cs →
      Spells (.branch loc .strong children) (mark :: mark :: cs ++ [mark, mark])
  | strikethrough (loc) {children cs} : SpellAll children cs →
      Spells (.branch loc .strikethrough children) ('~' :: '~' :: cs ++ ['~', '~'])

inductive Node.SpellAll : List Node → List Char → Prop
  | nil : SpellAll [] []
  | cons {node nodes cs ds} : Spells node cs → SpellAll nodes ds → SpellAll (node :: nodes) (cs ++ ds)

end

mutual

def Node.IsTidy : Node → Prop
  | .leaf .. => True
  | .branch _ _ children => children ≠ [] ∧ Node.AreTidy children

def Node.AreTidy : List Node → Prop
  | [] => True
  | child :: rest => child.IsTidy ∧ (child.IsText → ∀ next ∈ rest.head?, ¬next.IsText) ∧ Node.AreTidy rest

end

namespace Inline

def Part.Spells : Part → List Char → Prop
  | text cs, ds => ds = cs
  | node n, ds => n.Spells ds

inductive SpellParts : List Part → List Char → Prop
  | nil : SpellParts [] []
  | cons {part parts cs ds} : part.Spells cs → SpellParts parts ds → SpellParts (part :: parts) (cs ++ ds)

def Part.IsTidy : Part → Prop
  | text _ => True
  | node n => n.IsTidy ∧ ¬n.IsText

theorem SpellParts.append {parts more : List Part} {cs ds : List Char} (h : SpellParts parts cs)
    (h' : SpellParts more ds) : SpellParts (parts ++ more) (cs ++ ds) := by
  induction h with
  | nil => exact h'
  | cons hpart _ ih =>
      rw [List.append_assoc]
      exact .cons hpart ih

theorem SpellParts.joinTexts {parts : List Part} {cs : List Char} (h : SpellParts parts cs) :
    SpellParts (joinTexts parts) cs := by
  induction h with
  | nil => exact .nil
  | @cons part parts cs ds hpart _ ih =>
      cases part with
      | node n => exact .cons hpart ih
      | text text =>
          cases hpart
          rw [Inline.joinTexts]
          split
          · rename_i more rest hrest
            rw [hrest] at ih
            cases ih with
            | cons hmore hrest =>
                cases hmore
                rw [← List.append_assoc]
                exact .cons rfl hrest
          · exact .cons rfl ih

theorem SpellParts.toNodes (loc : Location) {parts : List Part} {cs : List Char} (h : SpellParts parts cs) :
    Node.SpellAll (parts.map fun part => part.toNode loc) cs := by
  induction h with
  | nil => exact .nil
  | @cons part parts cs ds hpart _ ih =>
      refine .cons ?_ ih
      cases part with
      | node n => exact hpart
      | text text =>
          cases hpart
          have htext := Node.Spells.text loc (String.ofList cs)
          rwa [String.toList_ofList] at htext

theorem nodes_ne_nil (loc : Location) {parts : List Part} (h : parts ≠ []) : nodes loc parts ≠ [] := by
  rw [nodes, ne_eq, List.map_eq_nil_iff]
  rcases parts with _ | ⟨_ | _, parts⟩
  · exact (h rfl).elim
  · rw [joinTexts]
    split <;> exact List.cons_ne_nil _ _
  · exact List.cons_ne_nil _ _

theorem areTidy_nodes (loc : Location) {parts : List Part} (h : ∀ p ∈ parts, p.IsTidy) :
    Node.AreTidy (nodes loc parts) := by
  rw [nodes]
  induction parts with
  | nil => trivial
  | cons part parts ih =>
      obtain ⟨hpart, hparts⟩ := List.forall_mem_cons.1 h
      have ih := ih hparts
      cases part with
      | node n => exact ⟨hpart.1, fun htext => (hpart.2 htext).elim, ih⟩
      | text text =>
          rw [joinTexts]
          split
          · rename_i more rest hrest
            rw [hrest] at ih
            exact ⟨trivial, fun _ => ih.2.1 trivial, ih.2.2⟩
          · rename_i hrest
            refine ⟨trivial, fun _ next hnext hnextText => ?_, ih⟩
            rw [List.head?_map] at hnext
            obtain ⟨first, hfirst, rfl⟩ := Option.map_eq_some_iff.1 hnext
            have htidy := forall_mem_joinTexts (P := Part.IsTidy) (fun _ => trivial) hparts first
              (List.mem_of_head? hfirst)
            cases first with
            | node n => exact htidy.2 hnextText
            | text more =>
                obtain ⟨rest, hmore⟩ := List.head?_eq_some_iff.1 hfirst
                exact hrest more rest hmore

namespace Opening

def chars (o : Opening) : List Char := List.replicate o.bond.width o.mark

end Opening

theorem spells_bond (loc : Location) {o : Opening} (h : o.bond.Takes o.mark) {children : List Node}
    {cs : List Char} (hchildren : Node.SpellAll children cs) :
    Node.Spells (.branch loc o.bond.branch children) (o.chars ++ cs ++ o.chars) := by
  rcases o with ⟨mark, _ | _ | _⟩
  · exact .emphasis loc h hchildren
  · exact .strong loc h hchildren
  · cases h
    exact .strikethrough loc hchildren

namespace Nest

variable (loc : Location) {nest : Nest} {stack outer inner : List Opening} {o : Opening} {cs ds : List Char}

def innermost (nest : Nest) : List Part :=
  match nest.bonds with
  | [] => nest.base
  | (_, parts) :: _ => parts

/-- What is written so far when some openings are not closed yet. -/
inductive Spells : Nest → List Opening → List Char → Prop
  | base {base cs} : SpellParts base.reverse cs → (∀ p ∈ base, p.IsTidy) → Spells ⟨base, []⟩ [] cs
  | bond {base bonds stack o parts cs ds} : o.bond.Takes o.mark → Spells ⟨base, bonds⟩ stack cs →
      SpellParts parts.reverse ds → (∀ p ∈ parts, p.IsTidy) →
      Spells ⟨base, (o.bond, parts) :: bonds⟩ (o :: stack) (cs ++ o.chars ++ ds)

theorem innermost_add (nest : Nest) (part : Part) : (nest.add part).innermost = part :: nest.innermost := by
  rcases nest with ⟨base, _ | ⟨⟨bond, parts⟩, bonds⟩⟩ <;> rfl

theorem Spells.add (h : nest.Spells stack cs) {part : Part} (hpart : part.Spells ds)
    (htidy : part.IsTidy) : (nest.add part).Spells stack (cs ++ ds) := by
  have hlast : SpellParts [part] ds := by simpa using SpellParts.cons hpart .nil
  cases h with
  | base hbase hbaseTidy =>
      refine .base ?_ (List.forall_mem_cons.2 ⟨htidy, hbaseTidy⟩)
      rw [List.reverse_cons]
      exact hbase.append hlast
  | bond htakes houter hparts hpartsTidy =>
      rw [List.append_assoc]
      refine .bond htakes houter ?_ (List.forall_mem_cons.2 ⟨htidy, hpartsTidy⟩)
      rw [List.reverse_cons]
      exact hparts.append hlast

theorem Spells.enter (h : nest.Spells stack cs) (htakes : o.bond.Takes o.mark) :
    (nest.enter o.bond).Spells (o :: stack) (cs ++ o.chars) := by
  have hentered : (nest.enter o.bond).Spells (o :: stack) (cs ++ o.chars ++ []) :=
    .bond htakes h .nil fun _ hp => (List.not_mem_nil hp).elim
  rwa [List.append_nil] at hentered

theorem Spells.leave (h : nest.Spells (o :: stack) cs) (hfull : nest.innermost ≠ []) :
    (nest.leave loc).Spells stack (cs ++ o.chars) ∧ (nest.leave loc).innermost ≠ [] := by
  cases h with
  | @bond base bonds _ _ parts cs ds htakes houter hparts htidy =>
      refine ⟨?_, by simp [Nest.leave, innermost_add]⟩
      have hnode : (Part.node (.branch loc o.bond.branch (nodes loc parts.reverse))).Spells
          (o.chars ++ ds ++ o.chars) := spells_bond loc htakes (hparts.joinTexts.toNodes loc)
      have hchildren : nodes loc parts.reverse ≠ [] :=
        nodes_ne_nil loc fun hnil => hfull (List.reverse_eq_nil_iff.1 hnil)
      have htidyNode : (Part.node (.branch loc o.bond.branch (nodes loc parts.reverse))).IsTidy :=
        ⟨⟨hchildren, areTidy_nodes loc fun p hp => htidy p (List.mem_reverse.1 hp)⟩, id⟩
      have hadded := houter.add hnode htidyNode
      rwa [← List.append_assoc, ← List.append_assoc] at hadded

theorem Spells.leaveAll (h : nest.Spells (inner ++ outer) cs) {mark : Char}
    (hmarks : ∀ o ∈ inner, o.mark = mark) (hfull : inner ≠ [] → nest.innermost ≠ []) :
    (inner.length.repeat (Nest.leave loc) nest).Spells outer (cs ++ List.replicate (widths inner) mark) ∧
      (inner ≠ [] → (inner.length.repeat (Nest.leave loc) nest).innermost ≠ []) := by
  induction inner generalizing nest cs with
  | nil => exact ⟨by simpa [Nat.repeat] using h, fun hne => (hne rfl).elim⟩
  | cons o inner ih =>
      obtain ⟨hmark, hmarks⟩ := List.forall_mem_cons.1 hmarks
      obtain ⟨hleft, hleftFull⟩ := h.leave loc (hfull (List.cons_ne_nil _ _))
      obtain ⟨hall, hallFull⟩ := ih hleft hmarks fun _ => hleftFull
      rw [List.length_cons, repeat_leave_succ, widths_cons, ← List.replicate_append_replicate,
        ← List.append_assoc]
      rw [Opening.chars, hmark] at hall
      refine ⟨hall, fun _ => ?_⟩
      by_cases hinner : inner = []
      · subst hinner
        exact hleftFull
      · exact hallFull hinner

theorem Spells.enterAll (h : nest.Spells stack cs) {mark : Char} {bonds : List Bond}
    (htakes : ∀ bond ∈ bonds, bond.Takes mark) :
    (bonds.foldl Nest.enter nest).Spells ((bonds.map (Opening.mk mark)).reverse ++ stack)
      (cs ++ List.replicate (widths ((bonds.map (Opening.mk mark)).reverse)) mark) := by
  induction bonds generalizing nest stack cs with
  | nil => simpa using h
  | cons bond bonds ih =>
      obtain ⟨hbond, hbonds⟩ := List.forall_mem_cons.1 htakes
      have hentered := ih (h.enter (o := ⟨mark, bond⟩) hbond) hbonds
      rw [Opening.chars, List.append_assoc, List.replicate_append_replicate] at hentered
      rw [List.map_cons, List.reverse_cons, List.append_assoc, widths_append, widths_cons, widths_nil,
        Nat.add_comm, Nat.add_zero]
      exact hentered

def addLeft (nest : Nest) (run : Run) : Nest :=
  if run.left = 0 then nest else nest.add (.text (List.replicate run.left run.mark))

/-- Where nothing of a run is left and nothing is opened, something was closed. -/
theorem Spells.addLeft {run : Run} (hcloses : run.Closes inner) (hpos : 0 < run.length)
    (h : nest.Spells outer (cs ++ List.replicate (widths inner) run.mark))
    (hfull : inner ≠ [] → nest.innermost ≠ []) :
    (nest.addLeft run).Spells outer (cs ++ List.replicate (widths inner + run.left) run.mark) ∧
      (run.opens = [] → (nest.addLeft run).innermost ≠ []) := by
  rw [Nest.addLeft]
  split
  · rename_i hzero
    rw [hzero, Nat.add_zero]
    refine ⟨h, fun hopens => hfull ?_⟩
    rintro rfl
    have hchars := hcloses.chars
    simp [Run.openings, hopens, hzero] at hchars
    omega
  · rw [← List.replicate_append_replicate, ← List.append_assoc]
    exact ⟨h.add rfl trivial, fun _ => by rw [innermost_add]; exact List.cons_ne_nil _ _⟩

/-- A run is written as it stands, whatever of it closes, stays text or opens. Behind it the
innermost open bond is empty only if the run has opened it. -/
theorem Spells.addRun {run : Run} (hcloses : run.Closes inner) (hpos : 0 < run.length)
    (h : nest.Spells (inner ++ outer) cs) (hfull : inner ≠ [] → nest.innermost ≠ []) :
    (nest.addRun loc run).Spells (run.openings ++ outer) (cs ++ List.replicate run.length run.mark) ∧
      ((nest.addRun loc run).innermost = [] → run.opens ≠ []) := by
  obtain ⟨hleft, hleftFull⟩ := h.leaveAll loc hcloses.marks hfull
  obtain ⟨hrest, hrestFull⟩ := hleft.addLeft hcloses hpos hleftFull
  have htakes : ∀ bond ∈ run.opens, bond.Takes run.mark := by
    intro bond hbond
    exact hcloses.takes ⟨run.mark, bond⟩ (by simpa [Run.openings] using hbond)
  have hentered := hrest.enterAll htakes
  rw [List.append_assoc, List.replicate_append_replicate] at hentered
  have hadded : nest.addRun loc run = run.opens.foldl Nest.enter
      ((run.closes.repeat (Nest.leave loc) nest).addLeft run) := rfl
  rw [hadded, ← hcloses.count, ← hcloses.chars]
  refine ⟨hentered, fun hempty hopens => hrestFull hopens ?_⟩
  rwa [hopens] at hempty

end Nest

end Inline

end MarkdownOutline
