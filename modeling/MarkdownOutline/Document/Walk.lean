import MarkdownOutline.Document.Node
import MarkdownOutline.Error

namespace MarkdownOutline

/-- Which node of which tree: child indices, innermost first, down to the number of the tree. -/
abbrev Place := List Nat

structure Visit where
  place : Place
  node : Node
  entering : Bool

inductive Signal where
  | next
  /-- On entering a branch, leaves out its children and its second visit. -/
  | skipChildren
  | stop
  deriving DecidableEq

inductive Outcome where
  | completed
  | stopped
  deriving DecidableEq

structure Frame where
  place : Place
  node : Node
  index : Nat
  rest : List Node

namespace Frame

def weight (frame : Frame) : Nat := 2 * Node.sizes frame.rest + 1

end Frame

def weight : List Frame → Nat
  | [] => 0
  | frame :: frames => frame.weight + weight frames

theorem weight_close (place : Place) (node : Node) (index : Nat) (frames : List Frame) :
    weight frames < weight (⟨place, node, index, []⟩ :: frames) := by
  simp [weight, Frame.weight, Node.sizes]

theorem weight_next (place : Place) (node : Node) (index : Nat) (child : Node) (rest : List Node)
    (frames : List Frame) :
    weight (⟨place, node, index + 1, rest⟩ :: frames) <
      weight (⟨place, node, index, child :: rest⟩ :: frames) := by
  have := child.size_pos
  simp only [weight, Frame.weight, Node.sizes]
  omega

theorem weight_open (place : Place) (node : Node) (index : Nat) (loc : Location) (shape : Branch)
    (children rest : List Node) (frames : List Frame) :
    weight (⟨index :: place, .branch loc shape children, 0, children⟩ ::
        ⟨place, node, index + 1, rest⟩ :: frames) <
      weight (⟨place, node, index, .branch loc shape children :: rest⟩ :: frames) := by
  simp only [weight, Frame.weight, Node.sizes, Node.size]
  omega

section

variable {m : Type → Type u} [Monad m]

def resume (visit : Visit → m Signal) : List Frame → m Outcome
  | [] => pure .completed
  | ⟨place, node, _, []⟩ :: frames => do
    match ← visit ⟨place, node, false⟩ with
    | .stop => pure .stopped
    | _ => resume visit frames
  | ⟨place, node, index, child :: rest⟩ :: frames => do
    let signal ← visit ⟨index :: place, child, true⟩
    match signal, child with
    | .stop, _ => pure .stopped
    | .next, .branch loc shape children =>
      resume visit (⟨index :: place, .branch loc shape children, 0, children⟩ ::
        ⟨place, node, index + 1, rest⟩ :: frames)
    | _, _ => resume visit (⟨place, node, index + 1, rest⟩ :: frames)
termination_by frames => weight frames
decreasing_by
  · exact weight_close place node _ frames
  · exact weight_open place node index loc shape children rest frames
  · exact weight_next place node index _ rest frames

@[simp] theorem resume_nil (visit : Visit → m Signal) : resume visit [] = pure .completed := by
  rw [resume]

theorem resume_close (visit : Visit → m Signal) (place : Place) (node : Node) (index : Nat)
    (frames : List Frame) :
    resume visit (⟨place, node, index, []⟩ :: frames) = (do
      match ← visit ⟨place, node, false⟩ with
      | .stop => pure .stopped
      | _ => resume visit frames) := by
  rw [resume]

theorem resume_leaf (visit : Visit → m Signal) (place : Place) (node : Node) (index : Nat)
    (loc : Location) (content : Leaf) (rest : List Node) (frames : List Frame) :
    resume visit (⟨place, node, index, .leaf loc content :: rest⟩ :: frames) = (do
      match ← visit ⟨index :: place, .leaf loc content, true⟩ with
      | .stop => pure .stopped
      | _ => resume visit (⟨place, node, index + 1, rest⟩ :: frames)) := by
  rw [resume]
  congr 1
  funext signal
  cases signal <;> rfl

theorem resume_branch (visit : Visit → m Signal) (place : Place) (node : Node) (index : Nat)
    (loc : Location) (shape : Branch) (children rest : List Node) (frames : List Frame) :
    resume visit (⟨place, node, index, .branch loc shape children :: rest⟩ :: frames) = (do
      match ← visit ⟨index :: place, .branch loc shape children, true⟩ with
      | .stop => pure .stopped
      | .skipChildren => resume visit (⟨place, node, index + 1, rest⟩ :: frames)
      | .next =>
        resume visit (⟨index :: place, .branch loc shape children, 0, children⟩ ::
          ⟨place, node, index + 1, rest⟩ :: frames)) := by
  rw [resume]
  congr 1
  funext signal
  cases signal <;> rfl

def walk (visit : Visit → m Signal) (place : Place) (root : Node) : m Outcome := do
  match ← visit ⟨place, root, true⟩, root with
  | .stop, _ => pure .stopped
  | .next, .branch loc shape children =>
    resume visit [⟨place, .branch loc shape children, 0, children⟩]
  | _, _ => pure .completed

end

/-- A failure keeps what the renderer remembers and loses what it has written. -/
abbrev RenderM (σ : Type) := ExceptT RenderError (StateM σ)

structure Renderer (σ : Type) where
  header : Node → RenderM σ String
  visit : Visit → RenderM σ (String × Signal)
  footer : Node → RenderM σ String

namespace Renderer

variable {σ : Type} (r : Renderer σ)

def write (v : Visit) : StateT String (RenderM σ) Signal := do
  let (text, signal) ← r.visit v
  modify (· ++ text)
  return signal

def render (place : Place) (root : Node) : RenderM σ String := do
  let header ← r.header root
  let (_, body) ← (walk r.write place root).run header
  let footer ← r.footer root
  return body ++ footer

end Renderer

end MarkdownOutline
