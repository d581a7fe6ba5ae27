import MarkdownOutline.Proofs.Scoped.Convert
import MarkdownOutline.Session

namespace MarkdownOutline

namespace Session

section

variable {α β : Type}

def Keeps (x : SessionM α) : Prop := ∀ s, (x.run.run s).2.scope = s.scope

namespace Keeps

theorem pure (a : α) : Keeps (Pure.pure a) := fun _ => rfl

theorem throw (e : Failure) : Keeps (throw e : SessionM α) := fun _ => rfl

theorem get : Keeps (get : SessionM State) := fun _ => rfl

theorem lift (x : Except Failure α) : Keeps (orFail x) := fun _ => rfl

theorem bind {x : SessionM α} {f : α → SessionM β} (h : Keeps x) (hf : ∀ a, Keeps (f a)) :
    Keeps (x >>= f) := by
  intro s
  have hx := h s
  rw [run_bind]
  rcases hrun : x.run.run s with ⟨_ | a, t⟩
  · rwa [hrun] at hx
  · rw [hrun] at hx
    exact (hf a t).trans hx

end Keeps

theorem keeps_named (table : State → Table α) (name : String) : Keeps (named table name) := by
  refine Keeps.get.bind fun s => ?_
  split
  · exact .pure _
  · exact .throw _

theorem keeps_document (name : String) : Keeps (document name) := keeps_named _ name

theorem keeps_newNumber : Keeps newNumber := fun _ => rfl

theorem keeps_putDocument (name : String) (d : Document) : Keeps (putDocument name d) := fun _ => rfl

theorem keeps_withTool (name : Option String)
    (use : Renderer (Steered Html.State) → StateM (Steered Html.State) α) : Keeps (withTool name use) := by
  cases name with
  | none => exact fun _ => rfl
  | some name =>
      refine (keeps_named State.tools name).bind fun tool => ?_
      exact fun _ => rfl

theorem keeps_withRegistry (use : StateM Highlight.Registry α) : Keeps (withRegistry use) := fun _ => rfl

theorem keeps_orRenderError (result : Except RenderError α) : Keeps (orRenderError result) := by
  cases result with
  | ok a => exact .pure a
  | error e => exact .throw _

theorem keeps_orOutlineError (result : Except OutlineError α) : Keeps (orOutlineError result) := by
  cases result with
  | ok a => exact .pure a
  | error e => exact .throw _

theorem keeps_writeTo (name text : String) : Keeps (writeTo name text) := fun _ => rfl

theorem keeps_withOutline (doc : String) (tool : Option String)
    (make : Renderer (Steered Html.State) → Place → Node → StateM (Steered Html.State) (α × Node)) :
    Keeps (withOutline doc tool make) :=
  (keeps_document doc).bind fun _ => (keeps_withTool tool _).bind fun _ =>
    (keeps_putDocument doc _).bind fun _ => .pure _

theorem ensures_withTool {p : α → Prop} (name : Option String)
    {use : Renderer (Steered Html.State) → StateM (Steered Html.State) α} (h : ∀ r s, p (use r s).1) :
    Ensures (withTool name use) p := by
  intro s a ha
  cases name with
  | none =>
      cases ha
      exact h _ _
  | some name =>
      rw [withTool, run_bind] at ha
      split at ha
      · cases ha
        exact h _ _
      · cases ha

theorem keeps_withScope {use : Scope → SessionM (α × Scope)} (h : ∀ scope, Keeps (use scope))
    (hscope : ∀ scope, Ensures (use scope) fun a => a.2 = scope) : Keeps (withScope use) := by
  intro s
  have huse := h s.scope s
  have hleft := hscope s.scope s
  have hrun : (withScope use).run.run s = match (use s.scope).run.run s with
      | (.ok (a, scope), t) => (.ok a, { t with scope })
      | (.error e, t) => (.error e, t) := by
    rw [withScope, run_bind, run_get]
    simp only [run_bind]
    rcases (use s.scope).run.run s with ⟨_ | ⟨a, scope⟩, t⟩ <;> rfl
  rw [hrun]
  rcases hused : (use s.scope).run.run s with ⟨_ | ⟨a, scope⟩, t⟩
  · rwa [hused] at huse
  · rw [hused] at hleft
    exact hleft _ rfl

def Action.nests : Action → Bool
  | .pushConfig _ | .popConfig => true
  | _ => false

def Action.sets : Action → Bool
  | .setConfig _ | .resetConfig => true
  | _ => false

theorem keeps_parse (doc : String) (source : Source) (config : Option Settings) (file : Option String) :
    Keeps (perform (.parse doc source config file)) := by
  have hscope scope : Ensures (Pure.pure ((source.parseScoped config file).run.run scope) : SessionM _)
      fun a => a.2 = scope := by
    rw [run_parseScoped]
    exact Ensures.pure rfl
  refine (keeps_withScope (fun scope => .pure _) hscope).bind fun result => (Keeps.lift result).bind fun root => ?_
  refine keeps_newNumber.bind fun number => (keeps_putDocument doc _).bind fun _ => ?_
  exact fun _ => rfl

theorem keeps_toHtml (source : Source) (config : Option Settings) (tool : Option String) :
    Keeps (perform (.toHtml source config tool)) := by
  refine keeps_newNumber.bind fun number => ?_
  have hscope scope : Ensures
      (withTool tool fun r => (Scoped.toHtml r [number] config none source).run scope)
      fun a => a.2 = scope := by
    refine ensures_withTool tool fun r s => ?_
    rw [Scoped.run_toHtml]
    rfl
  refine (keeps_withScope (fun scope => keeps_withTool tool _) hscope).bind fun page => ?_
  exact (Keeps.lift page).bind fun page => .pure _

theorem keeps_process (name : String) (source : Source) : Keeps (perform (.process name source)) := by
  refine (keeps_named State.processors name).bind fun p => keeps_newNumber.bind fun number => ?_
  have hscope scope : Ensures (withRegistry ((p.toHtmlScoped [number] none source).run scope))
      fun a => a.2 = scope := by
    rw [Processor.run_toHtmlScoped]
    intro s a ha
    cases ha
    rfl
  refine (keeps_withScope (fun scope => keeps_withRegistry _) hscope).bind fun page => ?_
  exact (Keeps.lift page).bind fun page => .pure _

theorem keeps_visit (doc tool buffer : String) (path : List Nat) (entering : Bool) :
    Keeps (perform (.visit doc tool buffer path entering)) := by
  refine (keeps_document doc).bind fun d => ?_
  split
  · exact .throw _
  · refine (keeps_withTool _ _).bind fun result => (keeps_orRenderError result).bind fun written => ?_
    exact (keeps_writeTo buffer _).bind fun _ => .pure _

theorem keeps_outlineIfAsked (doc : String) (tool : Option String) (source : Option Source) :
    Keeps (perform (.outlineIfAsked doc tool source)) := by
  have hmake source : Keeps (withOutline doc tool fun r place root => outlineOf r place source root) :=
    keeps_withOutline doc tool _
  cases source with
  | some source => exact (hmake source).bind fun result => (Keeps.lift result).bind fun _ => .pure _
  | none =>
      exact (keeps_named State.sources doc).bind fun source =>
        (hmake source).bind fun result => (Keeps.lift result).bind fun _ => .pure _

theorem keeps_perform {action : Action} (hnests : action.nests = false) (hsets : action.sets = false) :
    Keeps (perform action) := by
  cases action with
  | setConfig | resetConfig => cases hsets
  | pushConfig | popConfig => cases hnests
  | getConfig | makeTool | makeProcessor | setHighlighter | offerPackage | getHighlighter => exact fun _ => rfl
  | parse doc source config file => exact keeps_parse doc source config file
  | toHtml source config tool => exact keeps_toHtml source config tool
  | process name source => exact keeps_process name source
  | visit doc tool buffer path entering => exact keeps_visit doc tool buffer path entering
  | outlineIfAsked doc tool source => exact keeps_outlineIfAsked doc tool source
  | tree => exact keeps_newNumber.bind fun _ => (keeps_putDocument _ _).bind fun _ => .pure _
  | dump => exact (keeps_document _).bind fun _ => (keeps_orRenderError _).bind fun _ => .pure _
  | plainText | headingIds => exact (keeps_document _).bind fun _ => .pure _
  | render =>
      exact (keeps_document _).bind fun _ => (keeps_withTool _ _).bind fun result =>
        (Keeps.lift result).bind fun _ => .pure _
  | outline | collect =>
      exact (keeps_withOutline _ _ _).bind fun result => (keeps_orOutlineError result).bind fun _ => .pure _
  | header | footer =>
      exact (keeps_document _).bind fun _ => (keeps_withTool _ _).bind fun result =>
        (keeps_orRenderError result).bind fun _ => (keeps_writeTo _ _).bind fun _ => .pure _
  | highlight =>
      refine (keeps_withRegistry _).bind fun result => ?_
      split
      · exact .pure _
      · exact .throw _

/-- No action but those for the purpose enters a scope or leaves one. -/
theorem saved_perform {action : Action} (h : action.nests = false) (s : State) :
    ((perform action).run.run s).2.scope.saved = s.scope.saved := by
  cases hsets : action.sets with
  | false => rw [keeps_perform h hsets s]
  | true =>
      cases action with
      | setConfig | resetConfig => rfl
      | _ => cases hsets

/-- Actions in blocks that have settings of their own, with failures that are raised and caught. -/
inductive Code where
  | act (action : Action) (h : action.nests = false)
  | fail (failure : Failure)
  /-- Goes on behind a failure inside. -/
  | attempt (body : List Code)
  | block (settings : Settings) (body : List Code)

mutual

/-- A failure ends all code around it up to an attempt, and every block that it ends leaves its scope. -/
def Code.run : Code → SessionM Unit
  | .act action _ => do
    let _ ← perform action
  | .fail failure => throw failure
  | .attempt body => do
    let _ ← ExceptT.lift (Code.runAll body).run
  | .block settings body => do
    let _ ← perform (.pushConfig settings)
    let result ← ExceptT.lift (Code.runAll body).run
    let _ ← perform .popConfig
    orFail result

def Code.runAll : List Code → SessionM Unit
  | [] => return
  | code :: rest => do
    code.run
    Code.runAll rest

end

theorem run_popConfig {s : State} {scope : Scope} (h : s.scope.leave? = some scope) :
    (perform .popConfig).run.run s = (.ok (.config scope.current), { s with scope }) := by
  rw [perform, run_bind, run_get]
  simp only [h]
  rfl

/-- If its body leaves the scopes around it, a block does what its body does, and undoes what that does to
the settings. -/
theorem run_block {settings : Settings} {body : List Code} {s : State}
    (h : ∀ s, ((Code.runAll body).run.run s).2.scope.saved = s.scope.saved) :
    (Code.block settings body).run.run.run s =
      (((Code.runAll body).run.run { s with scope := s.scope.enter settings }).1,
        { ((Code.runAll body).run.run { s with scope := s.scope.enter settings }).2 with scope := s.scope }) := by
  have hsaved := h { s with scope := s.scope.enter settings }
  rcases hbody : (Code.runAll body).run.run { s with scope := s.scope.enter settings } with ⟨result, t⟩
  rw [hbody] at hsaved
  -- What is on top of the saved settings is what the block itself has put there.
  have hleave : t.scope.leave? = some s.scope := by
    rw [Scope.leave?, hsaved]
    rfl
  have hpush : (perform (.pushConfig settings)).run.run s =
      (.ok (.config settings), { s with scope := s.scope.enter settings }) := rfl
  rw [Code.run, run_bind_of_ok hpush]
  refine (run_bind_of_ok (run_liftM hbody) _).trans ?_
  rw [run_bind_of_ok (run_popConfig hleave)]
  rfl

mutual

/-- The scopes around some code are the same behind it. -/
theorem saved_run (code : Code) (s : State) : (code.run.run.run s).2.scope.saved = s.scope.saved := by
  cases code with
  | act action h =>
      have hsaved := saved_perform h s
      rw [Code.run, run_bind]
      rcases hrun : (perform action).run.run s with ⟨_ | answer, t⟩
      · rwa [hrun] at hsaved
      · rwa [hrun] at hsaved
  | fail failure => rfl
  | attempt body => exact saved_runAll body s
  | block settings body => rw [run_block (saved_runAll body)]

theorem saved_runAll (body : List Code) (s : State) :
    ((Code.runAll body).run.run s).2.scope.saved = s.scope.saved := by
  cases body with
  | nil => rfl
  | cons code rest =>
      have hcode := saved_run code s
      rw [Code.runAll, run_bind]
      rcases hrun : code.run.run.run s with ⟨_ | _, t⟩
      · rwa [hrun] at hcode
      · rw [hrun] at hcode
        exact (saved_runAll rest t).trans hcode

end

end

end Session

/-- Settings that are given decide alone, in whatever scope a source is read or converted, and the scope
stays as it is, also after a failure. A block ends as its body does, with a failure or without, and
leaves the scope as it was at the beginning. -/
theorem settings_scoped :
    (∀ (config : Option Settings) (file : Option String) (source : Source) (scope : Scope),
      (source.parseScoped config file).run.run scope =
        (source.parse (config.getD scope.current) file, scope)) ∧
    (∀ (σ : Type) (r : Renderer σ) (place : Place) (config : Option Settings) (file : Option String)
        (source : Source) (scope : Scope),
      (Scoped.toHtml r place config file source).run scope =
        (fun page => (page, scope)) <$> toHtml r place (config.getD scope.current) file source) ∧
    (∀ (p : Processor) (place : Place) (file : Option String) (source : Source) (scope : Scope),
      (p.parseScoped file source).run.run scope = (p.parse file source, scope) ∧
      (p.toHtmlScoped place file source).run scope =
        (fun page => (page, scope)) <$> p.toHtml place file source ∧
      (p.bodyScoped place source).run scope = (fun body => (body, scope)) <$> p.body place source ∧
      (p.outlineScoped place source).run scope =
        (fun outline => (outline, scope)) <$> p.outline place source) ∧
    ∀ (settings : Settings) (body : List Session.Code) (s : Session.State),
      (Session.Code.block settings body).run.run.run s =
        (((Session.Code.runAll body).run.run { s with scope := s.scope.enter settings }).1,
          { ((Session.Code.runAll body).run.run { s with scope := s.scope.enter settings }).2 with
            scope := s.scope }) := by
  refine ⟨fun config file source scope => run_parseScoped config file scope source,
    fun σ r place config file source scope => Scoped.run_toHtml config file scope r place source, ?_, ?_⟩
  · intro p place file source scope
    exact ⟨p.run_parseScoped scope source file, p.run_toHtmlScoped place scope source file,
      p.run_bodyScoped place scope source, p.run_outlineScoped place scope source⟩
  · intro settings body s
    exact Session.run_block (Session.saved_runAll body)

end MarkdownOutline
