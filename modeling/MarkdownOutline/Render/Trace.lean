import MarkdownOutline.Render.Script

namespace MarkdownOutline

namespace Trace

def label (v : Visit) : String :=
  let sign := if v.entering then "+" else "-"
  match v.node with
  | .leaf _ (.text content) => sign ++ content
  | node => sign ++ node.kind

def renderer {σ : Type} : Renderer σ where
  header _ := return "[header]"
  visit v := return (label v ++ " ", .next)
  footer _ := return "[footer]"

def record (script : Script) (v : Visit) : ExceptT String (StateM (Array String)) Signal := do
  let number := (← get).size
  modify (·.push (label v))
  match script.lookup number with
  | none => return .next
  | some (.signal signal) => return signal
  | some (.fail reason) => throw reason

end Trace

structure Parts where
  header : String
  body : List (Visit × String)
  footer : String

def textOf (parts : List (Visit × String)) : String := String.join (parts.map Prod.snd)

def Parts.text (parts : Parts) : String := parts.header ++ textOf parts.body ++ parts.footer

namespace Renderer

variable {σ : Type} (r : Renderer σ)

def writePart (v : Visit) : StateT (List (Visit × String)) (RenderM σ) Signal := do
  let (text, signal) ← r.visit v
  modify (· ++ [(v, text)])
  return signal

/-- Renders like `render`, and tells apart what the header, each visit and the footer write. -/
def parts (place : Place) (root : Node) : RenderM σ Parts := do
  let header ← r.header root
  let (_, body) ← (walk r.writePart place root).run []
  let footer ← r.footer root
  return ⟨header, body, footer⟩

end Renderer

end MarkdownOutline
