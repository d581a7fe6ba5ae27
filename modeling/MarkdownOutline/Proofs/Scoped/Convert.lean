import MarkdownOutline.Proofs.Scoped.Read
import MarkdownOutline.Scoped.Convert

namespace MarkdownOutline

section

variable {ε α : Type} {scope : Scope} {s : Settings}

theorem ScopeM.run_within {x : ExceptT ε ScopeM α} {result : Except ε α}
    (h : x.run.run (scope.enter s) = (result, scope.enter s)) :
    (within s x).run.run scope = (result, scope) := by
  change (let (result, t) := x.run.run (scope.enter s); (result, t.leave?.getD t)) = _
  rw [h]
  rfl

end

section

variable (config : Option Settings) (file : Option String) (scope : Scope)

theorem Scoped.run_parse (source : String) : (Scoped.parse config file source).run.run scope =
    (MarkdownOutline.parse (config.getD scope.current) file source, scope) := by
  rw [Scoped.parse, run_bind_of_ok (run_liftM (ScopeM.run_settings scope))]
  exact run_bind_of_follows (ScopeM.run_within (Block.run_readWithin file _ _ _ _)) fun blocks => rfl

theorem run_parseScoped (source : Source) : (source.parseScoped config file).run.run scope =
    (source.parse (config.getD scope.current) file, scope) := by
  rw [Source.parseScoped, Source.parse]
  cases source.text? with
  | error e => rfl
  | ok text =>
      change (Except.mapError Failure.parse <$> (Scoped.parse config file text).run).run scope = _
      rw [StateT.run_map, Scoped.run_parse]
      simp only [bind, Except.bind]
      cases MarkdownOutline.parse (config.getD scope.current) file text <;> rfl

variable {σ : Type} (r : Renderer σ) (place : Place)

theorem run_modifyGet_bind {α β : Type} {f : Scope → α × Scope} {a : α} (h : f scope = (a, scope))
    (g : α → StateT Scope (StateM σ) β) : (modifyGet f >>= g).run scope = (g a).run scope := by
  rw [StateT.run_bind, StateT.run_modifyGet, h, pure_bind]

theorem Scoped.run_toHtml (source : Source) :
    (Scoped.toHtml r place config file source).run scope =
      (fun page => (page, scope)) <$> MarkdownOutline.toHtml r place (config.getD scope.current) file source := by
  rw [Scoped.toHtml, run_modifyGet_bind _ (run_parseScoped config file scope source), MarkdownOutline.toHtml]
  cases source.parse (config.getD scope.current) file with
  | error e => rfl
  | ok root =>
      simp only [StateT.run_bind, StateT.run_monadLift, map_bind, bind_assoc, pure_bind]
      refine bind_congr fun outlined => ?_
      rcases outlined with ⟨_ | outline, marked⟩
      · rfl
      · simp only [StateT.run_bind, StateT.run_monadLift, map_bind, bind_assoc, pure_bind, StateT.run_pure, map_pure]
        rfl

theorem Scoped.run_outline (source : Source) :
    (Scoped.outline r place config file source).run scope = (do
      match source.parse (config.getD scope.current) file with
      | .error e => return (.error e, scope)
      | .ok root => return ((← outlineOf r place source root).1, scope)) := by
  rw [Scoped.outline, run_modifyGet_bind _ (run_parseScoped config file scope source)]
  cases source.parse (config.getD scope.current) file with
  | error e => rfl
  | ok root =>
      simp only [StateT.run_bind, StateT.run_monadLift, bind_assoc, pure_bind, StateT.run_pure]
      rfl

end

namespace Processor

section

variable (p : Processor) (place : Place) (scope : Scope) (source : Source)

theorem run_parseScoped (file : Option String) :
    (p.parseScoped file source).run.run scope = (p.parse file source, scope) :=
  MarkdownOutline.run_parseScoped (some p.settings) file scope source

theorem run_toHtmlScoped (file : Option String) : (p.toHtmlScoped place file source).run scope =
    (fun page => (page, scope)) <$> p.toHtml place file source := by
  funext registry
  change fresh ((Scoped.toHtml _ place (some p.settings) file source).run scope) registry = _
  rw [Scoped.run_toHtml]
  rfl

theorem run_bodyScoped : (p.bodyScoped place source).run scope =
    (fun body => (body, scope)) <$> p.body place source := by
  rw [bodyScoped, StateT.run_bind, run_toHtmlScoped, body]
  simp

theorem run_outlineScoped : (p.outlineScoped place source).run scope =
    (fun outline => (outline, scope)) <$> p.outline place source := by
  funext registry
  change fresh ((Scoped.outline _ place (some p.settings) none source).run scope) registry = _
  rw [Scoped.run_outline, outline, parse, Option.getD_some]
  cases source.parse p.settings none <;> rfl

end

end Processor

end MarkdownOutline
