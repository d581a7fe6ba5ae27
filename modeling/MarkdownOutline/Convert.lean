import MarkdownOutline.Block.Read
import MarkdownOutline.Html.Renderer
import MarkdownOutline.Outline.Collect

namespace MarkdownOutline

inductive Failure where
  | encoding
  | parse (cause : ParseError)
  | outline (cause : OutlineError)
  | render (cause : RenderError)
  | highlighter (reason : String)
  /-- No scope is left to close. -/
  | noScope
  | unknownName (name : String)

structure Page where
  outline : String
  body : String
  deriving DecidableEq

def Source.text? (source : Source) : Except Failure String :=
  match source.read? with
  | some content => .ok content
  | none => .error .encoding

def Source.parse (source : Source) (settings : Settings) (file : Option String) :
    Except Failure Node := do
  let text ← source.text?
  match MarkdownOutline.parse settings file text with
  | .ok root => return root
  | .error e => throw (.parse e)

section

variable {σ : Type} (r : Renderer σ) (place : Place)

def bodyOf (root : Node) : StateM σ (Except Failure String) := do
  match ← (r.render place root).run with
  | .ok text => return .ok text
  | .error e => return .error (.render e)

/-- The outline of a document, made only if the source asks for one. -/
def outlineOf (source : Source) (root : Node) : StateM σ (Except Failure String × Node) := do
  match source.text? with
  | .error e => return (.error e, root)
  | .ok text =>
    if Source.hasMarker text then
      match ← Outline.render r place root with
      | (.ok text, root) => return (.ok text, root)
      | (.error e, root) => return (.error (.outline e), root)
    else return (.ok "", root)

/-- The outline is made first, so that the headings of the body have its anchors. -/
def toHtml (settings : Settings) (file : Option String) (source : Source) :
    StateM σ (Except Failure Page) := do
  match source.parse settings file with
  | .error e => return .error e
  | .ok root =>
    match ← outlineOf r place source root with
    | (.error e, _) => return .error e
    | (.ok outline, root) => return (← bodyOf r place root).map fun body => ⟨outline, body⟩

end

structure Processor where
  settings : Settings := {}
  options : Html.Options := {}

namespace Processor

variable (p : Processor) (place : Place)

/-- Only the highlighters outlive a rendering. -/
def fresh {α : Type} (x : StateM Html.State α) : StateM Highlight.Registry α := fun registry =>
  let (a, s) := x { registry }
  (a, s.registry)

def parse (file : Option String) (source : Source) : Except Failure Node :=
  source.parse p.settings file

def toHtml (file : Option String) (source : Source) :
    StateM Highlight.Registry (Except Failure Page) :=
  fresh (MarkdownOutline.toHtml (Html.renderer p.options) place p.settings file source)

def body (source : Source) : StateM Highlight.Registry (Except Failure String) := do
  return (← p.toHtml place none source).map Page.body

def outline (source : Source) : StateM Highlight.Registry (Except Failure String) := do
  match p.parse none source with
  | .error e => return .error e
  | .ok root => return (← fresh (outlineOf (Html.renderer p.options) place source root)).1

end Processor

end MarkdownOutline
