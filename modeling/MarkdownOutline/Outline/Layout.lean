import MarkdownOutline.Error

namespace MarkdownOutline.Outline

structure Entry where
  level : Int
  anchor : String
  html : String
  deriving DecidableEq

def listOpen : String := "\n<ul>\n<li>"

def listClose : String := "</li>\n</ul>"

def itemBreak : String := "</li>\n\n<li>"

def repeated (n : Nat) (s : String) : String := String.join (List.replicate n s)

/-- A jump over several levels opens or closes as many lists. -/
def between (current depth : Nat) : String :=
  if current < depth then repeated (depth - current) listOpen
  else repeated (current - depth) listClose ++ itemBreak

def Entry.link (e : Entry) : String := "<a href=\"#" ++ e.anchor ++ "\">" ++ e.html ++ "</a>"

def minLevel? (entries : List Entry) : Option Int := (entries.map Entry.level).min?

def writeFrom (minimum : Int) (current : Nat) : List Entry → Except OutlineError String
  | [] => .ok (repeated current listClose)
  | e :: rest =>
    if e.level < minimum then .error (.aboveMinimum e.level minimum)
    else do
      let depth := (e.level - minimum + 1).toNat
      return between current depth ++ e.link ++ (← writeFrom minimum depth rest)

def layout (entries : List Entry) (minimum : Option Int) : Except OutlineError String :=
  match minimum.or (minLevel? entries) with
  | none => .ok ""
  | some minimum => if entries.isEmpty then .ok "" else writeFrom minimum 0 entries

end MarkdownOutline.Outline
