namespace MarkdownOutline

structure Settings where
  titleBlock : Bool := true
  headingIds : Bool := true
  strikethrough : Bool := true
  autolinks : Bool := true
  inlineHtml : Bool := true
  deriving DecidableEq

namespace Settings

def default : Settings := {}

def set (s : Settings) (key : String) (value : Bool) : Settings :=
  match key with
  | "title_block" => { s with titleBlock := value }
  | "heading_ids" => { s with headingIds := value }
  | "strikethrough" => { s with strikethrough := value }
  | "autolinks" => { s with autolinks := value }
  | "inline_html" => { s with inlineHtml := value }
  | _ => s

def ofEntries (entries : List (String × Bool)) : Settings :=
  entries.foldl (fun s entry => s.set entry.1 entry.2) default

def entries (s : Settings) : List (String × Bool) :=
  [("title_block", s.titleBlock), ("heading_ids", s.headingIds),
   ("strikethrough", s.strikethrough), ("autolinks", s.autolinks), ("inline_html", s.inlineHtml)]

end Settings

/-- The settings in force, and those that each open scope puts back when it is left. -/
structure Scope where
  current : Settings := {}
  saved : List Settings := []
  deriving DecidableEq

namespace Scope

def enter (scope : Scope) (s : Settings) : Scope := ⟨s, scope.current :: scope.saved⟩

def leave? (scope : Scope) : Option Scope :=
  match scope.saved with
  | [] => none
  | s :: rest => some ⟨s, rest⟩

def put (scope : Scope) (s : Settings) : Scope := { scope with current := s }

end Scope

abbrev ScopeM := StateM Scope

namespace ScopeM

def settings : ScopeM Settings := do return (← get).current

theorem run_settings (scope : Scope) : settings.run scope = (scope.current, scope) := rfl

def within {ε α : Type} (s : Settings) (x : ExceptT ε ScopeM α) : ExceptT ε ScopeM α := ExceptT.mk do
  modify fun scope => scope.enter s
  let result ← x.run
  modify fun scope => scope.leave?.getD scope
  return result

end ScopeM

end MarkdownOutline
