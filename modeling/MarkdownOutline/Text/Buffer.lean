namespace MarkdownOutline.Text

/-- The parts are kept newest first. -/
structure Buffer where
  parts : List String := []
  length : Nat := 0

namespace Buffer

def append (b : Buffer) (s : String) : Buffer :=
  if s.isEmpty then b else ⟨s :: b.parts, b.length + s.length⟩

def build (b : Buffer) : String := String.join b.parts.reverse

def isEmpty (b : Buffer) : Bool := b.length == 0

def states (b : Buffer) : List String → List Buffer
  | [] => []
  | s :: rest => b.append s :: states (b.append s) rest

end Buffer

end MarkdownOutline.Text
