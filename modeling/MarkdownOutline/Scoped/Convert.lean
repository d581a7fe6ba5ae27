import MarkdownOutline.Convert
import MarkdownOutline.Scoped.Block

namespace MarkdownOutline

def Source.parseScoped (source : Source) (config : Option Settings) (file : Option String) :
    ExceptT Failure ScopeM Node := do
  let text ← ExceptT.mk (pure source.text?)
  (Scoped.parse config file text).adapt Failure.parse

namespace Scoped

section

variable {σ : Type} (r : Renderer σ) (place : Place) (config : Option Settings)

def outline (file : Option String) (source : Source) : StateT Scope (StateM σ) (Except Failure String) := do
  match ← modifyGet (source.parseScoped config file).run.run with
  | .error e => return .error e
  | .ok root => return (← outlineOf r place source root).1

def toHtml (file : Option String) (source : Source) : StateT Scope (StateM σ) (Except Failure Page) := do
  match ← modifyGet (source.parseScoped config file).run.run with
  | .error e => return .error e
  | .ok root =>
    match ← outlineOf r place source root with
    | (.error e, _) => return .error e
    | (.ok outline, root) => return (← bodyOf r place root).map fun body => ⟨outline, body⟩

end

end Scoped

namespace Processor

variable (p : Processor) (place : Place)

def parseScoped (file : Option String) (source : Source) : ExceptT Failure ScopeM Node :=
  source.parseScoped (some p.settings) file

def freshScoped {α : Type} (x : StateT Scope (StateM Html.State) α) : StateT Scope (StateM Highlight.Registry) α :=
  fun scope => fresh (x.run scope)

def toHtmlScoped (file : Option String) (source : Source) :
    StateT Scope (StateM Highlight.Registry) (Except Failure Page) :=
  freshScoped (Scoped.toHtml (Html.renderer p.options) place (some p.settings) file source)

def bodyScoped (source : Source) : StateT Scope (StateM Highlight.Registry) (Except Failure String) := do
  return (← p.toHtmlScoped place none source).map Page.body

def outlineScoped (source : Source) : StateT Scope (StateM Highlight.Registry) (Except Failure String) :=
  freshScoped (Scoped.outline (Html.renderer p.options) place (some p.settings) none source)

end Processor

end MarkdownOutline
