namespace MarkdownOutline.Highlight

/-- Whether a language is known, and the markup of some code in it, which may be declined. Both
functions may fail. -/
structure Highlighter where
  label : String
  supports : String → Except String Bool
  paint : String → String → Except String (Option String)

structure Registry where
  chosen : Option Highlighter := none
  package : Option Highlighter := none
  tried : Bool := false

namespace Registry

def choose (r : Registry) (h : Option Highlighter) : Registry := { r with chosen := h }

def offer (r : Registry) (h : Option Highlighter) : Registry := { r with package := h }

def load (r : Registry) : Registry :=
  if r.chosen.isSome || r.tried then r else { r with chosen := r.package, tried := true }

def highlight (r : Registry) (code language : String) : Except String (Option String) × Registry :=
  let r := r.load
  let painted := match r.chosen with
    | none => .ok none
    | some h => do if ← h.supports language then h.paint code language else return none
  (painted, r)

theorem load_load (r : Registry) : r.load.load = r.load := by
  unfold load
  split
  · simp_all
  · simp

theorem chosen_load (r : Registry) (h : r.chosen.isSome = true) : r.load = r := by
  simp [load, h]

end Registry

end MarkdownOutline.Highlight
