import MarkdownOutline.Document.Walk
import MarkdownOutline.Outline.Layout

namespace MarkdownOutline.Outline

/-- What has been collected: the finished entries, the heading that is open, and the anchors given
out, each with the place of its heading. -/
structure Collector where
  entries : List Entry := []
  current : Option Entry := none
  count : Nat := 0
  minimum : Option Int := none
  anchors : List (Place × String) := []

def anchorOf (n : Nat) : String := "toc_" ++ toString n

namespace Collector

def enter (c : Collector) (place : Place) (level : Int) : Collector :=
  let anchor := anchorOf c.count
  { c with
    current := some ⟨level, anchor, ""⟩
    count := c.count + 1
    minimum := some (match c.minimum with
      | none => level
      | some minimum => min minimum level)
    anchors := c.anchors ++ [(place, anchor)] }

def leave (c : Collector) : Collector :=
  match c.current with
  | none => c
  | some e => { c with entries := c.entries ++ [e], current := none }

def write (c : Collector) (text : String) : Collector :=
  { c with current := c.current.map fun e => { e with html := e.html ++ text } }

end Collector

/-- The open heading is replaced when another begins inside it, so a heading that holds another has
no entry of its own. -/
abbrev CollectM (σ : Type) := ExceptT OutlineError (StateM (Collector × σ))

section

variable {σ : Type} (r : Renderer σ)

def listed? (node : Node) : Option Heading := node.heading?.filter fun h => !h.isTitle

def renderInto (v : Visit) : CollectM σ Signal := fun (c, s) =>
  match r.visit v s with
  | (.ok (text, signal), s) => (.ok signal, (c.write text, s))
  | (.error e, s) => (.error (.render e), (c, s))

def update (f : Collector → Collector) : CollectM σ Unit := modify fun (c, s) => (f c, s)

def collectVisit (v : Visit) : CollectM σ Signal := do
  match listed? v.node with
  | some h =>
    if !v.entering then update Collector.leave
    else if h.level < 1 then throw (.levelBelowOne h.level)
    else update fun c => c.enter v.place h.level
    return .next
  | none => if (← get).1.current.isSome then renderInto r v else return .next

/-- A heading that the walk stopped in is an entry with what it has so far. -/
def collectWalk (place : Place) (root : Node) : CollectM σ Unit := do
  let _ ← walk (collectVisit r) place root
  update Collector.leave

end

mutual

def assign (anchors : List (Place × String)) (place : Place) : Node → Node
  | .leaf loc content => .leaf loc content
  | .branch loc (.heading h) children =>
    let id := (anchors.lookup place).or h.id
    .branch loc (.heading { h with id }) (assignAll anchors place 0 children)
  | .branch loc shape children => .branch loc shape (assignAll anchors place 0 children)

def assignAll (anchors : List (Place × String)) (place : Place) (i : Nat) : List Node → List Node
  | [] => []
  | node :: rest => assign anchors (i :: place) node :: assignAll anchors place (i + 1) rest

end

section

variable {σ : Type} (r : Renderer σ) (place : Place) (root : Node)

/-- Collects the entries of a document. Its headings keep the anchors given out, also when the walk
fails. -/
def collect : StateM σ (Except OutlineError Collector × Node) := do
  let (result, collector, state) := collectWalk r place root ({}, ← get)
  set state
  return (result.map fun _ => collector, assign collector.anchors place root)

def entries : StateM σ (Except OutlineError (List Entry) × Node) := do
  let (result, root) ← collect r place root
  return (result.map Collector.entries, root)

def render : StateM σ (Except OutlineError String × Node) := do
  let (result, root) ← collect r place root
  return (result.bind fun c => layout c.entries c.minimum, root)

end

end MarkdownOutline.Outline
