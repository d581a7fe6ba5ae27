import MarkdownOutline.Document.Walk

namespace MarkdownOutline

inductive Directive where
  | signal (signal : Signal)
  | fail (reason : String)
  deriving DecidableEq

abbrev Script := List (Nat × Directive)

structure Steered (σ : Type) where
  visits : Nat := 0
  base : σ

namespace Renderer

variable {σ : Type}

def lift {α : Type} (x : RenderM σ α) : RenderM (Steered σ) α := fun s =>
  let (result, base) := x s.base
  (result, { s with base })

/-- The same renderer with the signals of a script. A visit that the script fails does no work. -/
def steer (script : Script) (r : Renderer σ) : Renderer (Steered σ) where
  header root := lift (r.header root)
  footer root := lift (r.footer root)
  visit v := do
    let number := (← get).visits
    modify fun s => { s with visits := number + 1 }
    match script.lookup number with
    | none => lift (r.visit v)
    | some (.signal signal) => return ((← lift (r.visit v)).1, signal)
    | some (.fail reason) => throw (.failed reason)

end Renderer

end MarkdownOutline
