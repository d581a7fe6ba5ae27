import MarkdownOutline.Render.Script
import MarkdownOutline.Scoped.Convert
import MarkdownOutline.Text.Buffer

namespace MarkdownOutline.Session

abbrev Table (α : Type) := List (String × α)

def Table.put {α : Type} (table : Table α) (name : String) (a : α) : Table α := (name, a) :: table

/-- A tree, and the number that tells it from all other trees of the session. -/
structure Document where
  root : Node
  number : Nat

def Document.place (d : Document) : Place := [d.number]

structure Tool where
  renderer : Renderer (Steered Html.State)
  state : Steered Html.State

def Tool.new (renderer : Renderer Html.State) (script : Script) : Tool :=
  ⟨renderer.steer script, ⟨0, {}⟩⟩

def Tool.plain : Tool := Tool.new (Html.renderer {}) []

structure State where
  scope : Scope := {}
  registry : Highlight.Registry := {}
  documents : Table Document := []
  sources : Table Source := []
  tools : Table Tool := []
  processors : Table Processor := []
  buffers : Table Text.Buffer := []
  trees : Nat := 0

inductive Action where
  | setConfig (settings : Settings)
  | resetConfig
  | getConfig
  | pushConfig (settings : Settings)
  | popConfig
  | parse (doc : String) (source : Source) (config : Option Settings) (file : Option String)
  | tree (doc : String) (root : Node)
  | dump (doc : String)
  | plainText (doc : String)
  | headingIds (doc : String)
  | toHtml (source : Source) (config : Option Settings) (tool : Option String)
  | makeTool (name : String) (tool : Tool)
  | render (doc : String) (tool : Option String)
  | outline (doc : String) (tool : Option String)
  | collect (doc : String) (tool : Option String)
  | outlineIfAsked (doc : String) (tool : Option String) (source : Option Source)
  | makeProcessor (name : String) (processor : Processor)
  | process (name : String) (source : Source)
  | header (doc tool buffer : String)
  | footer (doc tool buffer : String)
  | visit (doc tool buffer : String) (path : List Nat) (entering : Bool)
  | setHighlighter (highlighter : Option Highlight.Highlighter)
  | offerPackage (highlighter : Option Highlight.Highlighter)
  | getHighlighter
  | highlight (code language : String)

/-- A fresh context begins with the default settings, and those outside are in force again after
it. All else is shared, the open scopes too: one opened outside may be left inside. -/
inductive Step where
  | act (action : Action)
  | inFreshContext (steps : List Step)

inductive Answer where
  | done
  | config (settings : Settings)
  | blocks (count : Nat)
  | listing (rows : List (Row × Option String))
  | text (content : String)
  | ids (ids : List (Option String))
  | page (page : Page)
  | body (text : String)
  | outline (text : String)
  | entries (entries : List Outline.Entry)
  | buffer (content : Text.Buffer) (signal : Option Signal)
  | highlighter (label : Option String)
  | html (content : Option String)
  | failed (failure : Failure)
  | all (answers : List Answer)

abbrev SessionM := ExceptT Failure (StateM State)

mutual

def headingIds : Node → List (Option String)
  | .leaf .. => []
  | .branch _ shape children =>
    match shape with
    | .heading h => h.id :: headingIdsAll children
    | _ => headingIdsAll children

def headingIdsAll : List Node → List (Option String)
  | [] => []
  | node :: rest => headingIds node ++ headingIdsAll rest

end

def named {α : Type} (table : State → Table α) (name : String) : SessionM α := do
  match (table (← get)).lookup name with
  | some a => return a
  | none => throw (.unknownName name)

def document (name : String) : SessionM Document := named State.documents name

def newNumber : SessionM Nat := do
  modify fun s => { s with trees := s.trees + 1 }
  return (← get).trees

def putDocument (name : String) (d : Document) : SessionM Unit :=
  modify fun s => { s with documents := s.documents.put name d }

def withScope {α : Type} (use : Scope → SessionM (α × Scope)) : SessionM α := do
  let (a, scope) ← use (← get).scope
  modify fun s => { s with scope }
  return a

def withTool {α : Type} (name : Option String)
    (use : Renderer (Steered Html.State) → StateM (Steered Html.State) α) : SessionM α := do
  let tool ← match name with
    | none => pure Tool.plain
    | some name => named State.tools name
  let base := { tool.state.base with registry := (← get).registry }
  let (a, state) := use tool.renderer { tool.state with base }
  modify fun s => { s with registry := state.base.registry }
  match name with
  | none => return a
  | some name =>
    modify fun s => { s with tools := s.tools.put name { tool with state } }
    return a

def withRegistry {α : Type} (use : StateM Highlight.Registry α) : SessionM α := do
  let (a, registry) := use (← get).registry
  modify fun s => { s with registry }
  return a

def orFail {α : Type} (result : Except Failure α) : SessionM α := ExceptT.mk (pure result)

def orRenderError {α : Type} (result : Except RenderError α) : SessionM α :=
  match result with
  | .ok a => return a
  | .error e => throw (.render e)

def orOutlineError {α : Type} (result : Except OutlineError α) : SessionM α :=
  match result with
  | .ok a => return a
  | .error e => throw (.outline e)

def writeTo (name : String) (text : String) : SessionM Text.Buffer := do
  let buffer := (((← get).buffers.lookup name).getD {}).append text
  modify fun s => { s with buffers := s.buffers.put name buffer }
  return buffer

def setScope (scope : Scope) : SessionM Answer := do
  modify fun s => { s with scope }
  return .config scope.current

def withOutline {α : Type} (doc : String) (tool : Option String)
    (make : Renderer (Steered Html.State) → Place → Node → StateM (Steered Html.State) (α × Node)) :
    SessionM α := do
  let d ← document doc
  let (result, root) ← withTool tool fun r => make r d.place d.root
  putDocument doc { d with root }
  return result

def perform : Action → SessionM Answer
  | .setConfig settings => do setScope ((← get).scope.put settings)
  | .resetConfig => do setScope ((← get).scope.put .default)
  | .getConfig => do return .config (← get).scope.current
  | .pushConfig settings => do setScope ((← get).scope.enter settings)
  | .popConfig => do
    match (← get).scope.leave? with
    | some scope => setScope scope
    | none => throw .noScope
  | .parse doc source config file => do
    let root ← orFail (← withScope fun scope => return (source.parseScoped config file).run.run scope)
    putDocument doc ⟨root, ← newNumber⟩
    modify fun s => { s with sources := s.sources.put doc source }
    return .blocks root.children.length
  | .tree doc root => do
    putDocument doc ⟨root, ← newNumber⟩
    return .done
  | .dump doc => do return .listing (← orRenderError (listing [(← document doc).root]))
  | .plainText doc => do return .text (← document doc).root.plainText
  | .headingIds doc => do return .ids (headingIds (← document doc).root)
  | .toHtml source config tool => do
    let place := [← newNumber]
    let page ← withScope fun scope =>
      withTool tool fun r => (Scoped.toHtml r place config none source).run scope
    return .page (← orFail page)
  | .makeTool name tool => do
    modify fun s => { s with tools := s.tools.put name tool }
    return .done
  | .render doc tool => do
    let d ← document doc
    return .body (← orFail (← withTool tool fun r => bodyOf r d.place d.root))
  | .outline doc tool => do
    return .outline (← orOutlineError (← withOutline doc tool Outline.render))
  | .collect doc tool => do
    return .entries (← orOutlineError (← withOutline doc tool Outline.entries))
  | .outlineIfAsked doc tool source => do
    let source ← match source with
      | some source => pure source
      | none => named State.sources doc
    let make := fun r place root => outlineOf r place source root
    return .outline (← orFail (← withOutline doc tool make))
  | .makeProcessor name processor => do
    modify fun s => { s with processors := s.processors.put name processor }
    return .done
  | .process name source => do
    let p ← named State.processors name
    let place := [← newNumber]
    let page ← withScope fun scope => withRegistry ((p.toHtmlScoped place none source).run scope)
    return .page (← orFail page)
  | .header doc tool buffer => do
    let d ← document doc
    let text ← orRenderError (← withTool (some tool) fun r => (r.header d.root).run)
    return .buffer (← writeTo buffer text) none
  | .footer doc tool buffer => do
    let d ← document doc
    let text ← orRenderError (← withTool (some tool) fun r => (r.footer d.root).run)
    return .buffer (← writeTo buffer text) none
  | .visit doc tool buffer path entering => do
    let d ← document doc
    match d.root.descendant? path with
    | none => throw (.unknownName doc)
    | some node =>
      let v : Visit := ⟨path.reverse ++ d.place, node, entering⟩
      let (text, signal) ← orRenderError (← withTool (some tool) fun r => (r.visit v).run)
      return .buffer (← writeTo buffer text) (some signal)
  | .setHighlighter h => do
    withRegistry (modify (·.choose h))
    return .done
  | .offerPackage h => do
    withRegistry (modify (·.offer h))
    return .done
  | .getHighlighter => do
    let chosen ← withRegistry (modifyGet fun r => (r.load.chosen, r.load))
    return .highlighter (chosen.map (·.label))
  | .highlight code language => do
    match ← withRegistry (modifyGet fun r => r.highlight code language) with
    | .ok html => return .html html
    | .error reason => throw (.highlighter reason)

def answer (action : Action) : StateM State Answer := do
  match ← (perform action).run with
  | .ok a => return a
  | .error e => return .failed e

mutual

def run : Step → StateM State Answer
  | .act action => answer action
  | .inFreshContext steps => do
    let outside := (← get).scope.current
    modify fun s => { s with scope := s.scope.put .default }
    let answers ← runAll steps
    modify fun s => { s with scope := s.scope.put outside }
    return .all answers

def runAll : List Step → StateM State (List Answer)
  | [] => return []
  | step :: rest => do
    let a ← run step
    return a :: (← runAll rest)

end

end MarkdownOutline.Session
