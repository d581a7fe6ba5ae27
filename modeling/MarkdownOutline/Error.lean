import MarkdownOutline.Text.Slug

namespace MarkdownOutline

structure ParseError where
  reason : String
  line : Option Int := none
  column : Option Int := none
  file : Option String := none
  deriving DecidableEq

namespace ParseError

def position (e : ParseError) : String :=
  let file := match e.file with
    | none | some "" => ""
    | some file => file ++ ":"
  match e.line, e.column with
  | none, _ => file
  | some line, none => file ++ toString line ++ ":"
  | some line, some column => file ++ toString line ++ ":" ++ toString column ++ ":"

def message (e : ParseError) : String :=
  let position := e.position
  if position.isEmpty then e.reason
  else String.ofList (Text.trimRight (· = ':') position.toList) ++ " " ++ e.reason

end ParseError

inductive RenderError where
  | noMarkup (kind : String)
  /-- A branch is left while none is open. -/
  | nothingOpen
  /-- A code block's info is white space only. -/
  | blankInfo
  /-- A paragraph follows a tight item without children. -/
  | emptyItem
  /-- A page takes its title from the children of a root that can have none. -/
  | childlessRoot (kind : String)
  | numeral (cause : Text.CharRef.NumeralTooLong)
  | slug (cause : Text.Slug.SlugError)
  | failed (reason : String)
  deriving DecidableEq

def numeralMessage (e : Text.CharRef.NumeralTooLong) : String :=
  "Exceeds the limit (" ++ toString Text.maxDigits ++
    " digits) for integer string conversion: value has " ++ toString e.digits ++
    " digits; use sys.set_int_max_str_digits() to increase the limit"

def slugMessage : Text.Slug.SlugError → String
  | .numeral cause => numeralMessage cause
  | .separator cause => cause.message

def RenderError.message : RenderError → String
  | noMarkup kind => "No HTML markup for node type " ++ kind
  | nothingOpen => "pop from empty list"
  | blankInfo => "list index out of range"
  | emptyItem => "tuple index out of range"
  | childlessRoot kind => "'" ++ kind ++ "' object has no attribute 'children'"
  | numeral cause => numeralMessage cause
  | slug cause => slugMessage cause
  | failed reason => reason

inductive OutlineError where
  | levelBelowOne (level : Int)
  | aboveMinimum (level minimum : Int)
  | render (cause : RenderError)
  deriving DecidableEq

def OutlineError.message : OutlineError → String
  | levelBelowOne level => "heading level must be >= 1, got " ++ toString level
  | aboveMinimum level minimum =>
    "heading level " ++ toString level ++ " is above the minimum level " ++ toString minimum
  | render cause => cause.message

end MarkdownOutline
