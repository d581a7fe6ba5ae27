import MarkdownOutline.Text.Category
import MarkdownOutline.Text.Identifier
import MarkdownOutline.Text.Printable

namespace MarkdownOutline.Text.Separator

inductive Part where
  | text (cs : List Char)
  | replaced
  deriving DecidableEq

inductive Fault where
  | danglingBackslash
  | badEscape (c : Char)
  | octalTooLarge (digits : List Char)
  | missingAngle
  | missingName
  | unterminatedName
  | badName (name : List Char)
  | noGroup (index : Nat)
  | unknownName (name : List Char)
  deriving DecidableEq

structure TemplateError where
  template : List Char
  fault : Fault
  position : Nat
  deriving DecidableEq

def hexDigits (n : Nat) : Nat → List Char
  | 0 => []
  | count + 1 => hexDigits (n / 16) count ++ [Nat.digitChar (n % 16)]

def codeEscape (c : Char) : List Char :=
  if c.toNat < 0x100 then '\\' :: 'x' :: hexDigits c.toNat 2
  else if c.toNat < 0x10000 then '\\' :: 'u' :: hexDigits c.toNat 4
  else '\\' :: 'U' :: hexDigits c.toNat 8

def quotedChar (quote c : Char) : List Char :=
  if c = quote || c = '\\' then ['\\', c]
  else if c = '\n' then ['\\', 'n']
  else if c = '\r' then ['\\', 'r']
  else if c = '\t' then ['\\', 't']
  else if isPrintable c then [c]
  else codeEscape c

def quoted (name : List Char) : String :=
  let quote := if name.contains '\'' && !name.contains '"' then '"' else '\''
  String.ofList (quote :: name.flatMap (quotedChar quote) ++ [quote])

def Fault.message : Fault → String
  | .danglingBackslash => "bad escape (end of pattern)"
  | .badEscape c => "bad escape \\" ++ String.singleton c
  | .octalTooLarge digits =>
    "octal escape value \\" ++ String.ofList digits ++ " outside of range 0-0o377"
  | .missingAngle => "missing <"
  | .missingName => "missing group name"
  | .unterminatedName => "missing >, unterminated name"
  | .badName name => "bad character in group name " ++ quoted name
  | .noGroup index => "invalid group reference " ++ toString index
  | .unknownName name => "unknown group name " ++ quoted name

/-- Unknown names are reported without their position. -/
def TemplateError.message (e : TemplateError) : String :=
  match e.fault with
  | .unknownName _ => e.fault.message
  | _ =>
    let before := e.template.take e.position
    let located := e.fault.message ++ " at position " ++ toString e.position
    if e.template.contains '\n' then
      located ++ " (line " ++ toString (before.count '\n' + 1) ++ ", column " ++
        toString ((before.reverse.takeWhile (· != '\n')).length + 1) ++ ")"
    else located

inductive Token where
  | plain (c : Char)
  | escape (c : Char)
  deriving DecidableEq

def Token.chars : Token → List Char
  | .plain c => [c]
  | .escape c => ['\\', c]

/-- A backslash at the very end is reported before any fault of the token in front of it. -/
structure Template where
  tokens : List Token
  dangling : Bool

def Template.cons (t : Token) (template : Template) : Template :=
  { template with tokens := t :: template.tokens }

def Template.ofChars : List Char → Template
  | [] => ⟨[], false⟩
  | ['\\'] => ⟨[], true⟩
  | '\\' :: c :: cs => Template.cons (.escape c) (Template.ofChars cs)
  | c :: cs => Template.cons (.plain c) (Template.ofChars cs)

def width (tokens : List Token) : Nat := (tokens.flatMap Token.chars).length

def controlEscape? : Char → Option Char
  | 'a' => some '\x07'
  | 'b' => some '\x08'
  | 'f' => some '\x0C'
  | 'n' => some '\n'
  | 'r' => some '\r'
  | 't' => some '\t'
  | 'v' => some '\x0B'
  | '\\' => some '\\'
  | _ => none

def isOctal (c : Char) : Bool := '0' ≤ c && c ≤ '7'

def isAsciiDigit (c : Char) : Bool := '0' ≤ c && c ≤ '9'

def plainChar? : List Token → Option Char
  | .plain c :: _ => some c
  | _ => none

def nextIs (p : Char → Bool) (tokens : List Token) : Bool := (plainChar? tokens).any p

def octalValue (digits : List Char) : Nat :=
  digits.foldl (fun n c => 8 * n + (c.toNat - '0'.toNat)) 0

def groupedDigits? : List Char → Option (List Char)
  | [] => none
  | [c] => if isDigit c then some [c] else none
  | c :: '_' :: cs => if isDigit c then (groupedDigits? cs).map (c :: ·) else none
  | c :: cs => if isDigit c then (groupedDigits? cs).map (c :: ·) else none

/-- White space that may stand around a number: U+001C to U+001F may not. -/
def isNumberMargin (c : Char) : Bool := isBlank c && !(0x1C ≤ c.toNat && c.toNat ≤ 0x1F)

def groupIndex? (name : List Char) : Option Nat :=
  let read (negative : Bool) (cs : List Char) : Option Nat :=
    match groupedDigits? cs with
    | some digits =>
      if maxDigits < digits.length || (negative && numeral digits != 0) then none
      else some (numeral digits)
    | none => none
  match trim isNumberMargin name with
  | '-' :: cs => read true cs
  | '+' :: cs => read false cs
  | cs => read false cs

section

variable (template : List Char)

/-- A fault seen when `rest` is still to come, `back` characters before it. -/
def fault (rest : List Token) (dangling : Bool) (back : Nat) (f : Fault) : TemplateError :=
  if rest.isEmpty && dangling then ⟨template, .danglingBackslash, template.length - 1⟩
  else ⟨template, f, template.length - width rest - (if dangling then 1 else 0) - back⟩

def nameUpToAngle : List Token → Option (List Char × List Token)
  | [] => none
  | .plain '>' :: rest => some ([], rest)
  | t :: rest => (nameUpToAngle rest).map fun found => (t.chars ++ found.1, found.2)

/-- The number of tokens that the name behind `\g` takes. -/
def groupName (dangling : Bool) (tokens : List Token) : Except TemplateError Nat :=
  match tokens with
  | .plain '<' :: rest =>
    match nameUpToAngle rest with
    | none =>
      let size := width rest
      .error (fault template [] dangling size
        (if size = 0 then .missingName else .unterminatedName))
    | some ([], after) => .error (fault template after dangling 1 .missingName)
    | some (name, after) =>
      if isIdentifier name then .error (fault template after dangling 0 (.unknownName name))
      else match groupIndex? name with
        | none => .error (fault template after dangling (name.length + 1) (.badName name))
        | some 0 => .ok (rest.length - after.length + 1)
        | some index => .error (fault template after dangling (name.length + 1) (.noGroup index))
  | _ => .error (fault template tokens dangling 0 .missingAngle)

def readEscape (dangling : Bool) (c : Char) (rest : List Token) :
    Except TemplateError (Part × Nat) :=
  if c = 'g' then do return (.replaced, ← groupName template dangling rest)
  else if c = '0' then
    let more := ((rest.take 2).takeWhile fun t => nextIs isOctal [t]).flatMap Token.chars
    .ok (.text [Char.ofNat (octalValue more % 256)], more.length)
  else if isAsciiDigit c then
    match plainChar? rest with
    | some d =>
      if isAsciiDigit d then
        let after := rest.drop 1
        match plainChar? after with
        | some e =>
          if isOctal c && isOctal d && isOctal e then
            let value := octalValue [c, d, e]
            if 0o377 < value then
              .error (fault template (after.drop 1) dangling 4 (.octalTooLarge [c, d, e]))
            else .ok (.text [Char.ofNat value], 2)
          else .error (fault template after dangling 2 (.noGroup (numeral [c, d])))
        | none => .error (fault template after dangling 2 (.noGroup (numeral [c, d])))
      else .error (fault template rest dangling 1 (.noGroup (numeral [c])))
    | none => .error (fault template rest dangling 1 (.noGroup (numeral [c])))
  else match controlEscape? c with
    | some control => .ok (.text [control], 0)
    | none =>
      if c.isAlpha then .error (fault template rest dangling 2 (.badEscape c))
      else .ok (.text ['\\', c], 0)

def readTokens (dangling : Bool) (tokens : List Token) : Except TemplateError (List Part) :=
  match tokens with
  | [] =>
    if dangling then .error (fault template [] dangling 0 .danglingBackslash) else .ok []
  | .plain c :: rest => do return .text [c] :: (← readTokens dangling rest)
  | .escape c :: rest => do
    let (part, taken) ← readEscape template dangling c rest
    return part :: (← readTokens dangling (rest.drop taken))
termination_by tokens.length
decreasing_by all_goals simp only [List.length_drop, List.length_cons]; omega

end

/-- A separator is plain text in which a backslash begins an escape: `\n` and its like, octal codes, and
`\g<0>` for the text that the separator replaces. -/
def parse (template : List Char) : Except TemplateError (List Part) :=
  if template.contains '\\' then
    let read := Template.ofChars template
    readTokens template read.dangling read.tokens
  else .ok [.text template]

def fill (parts : List Part) (run : List Char) : List Char :=
  parts.flatMap fun
    | .text cs => cs
    | .replaced => run

end MarkdownOutline.Text.Separator
