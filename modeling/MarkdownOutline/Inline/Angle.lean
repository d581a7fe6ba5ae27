import MarkdownOutline.Text.Category
import MarkdownOutline.Text.Word

namespace MarkdownOutline.Inline

open Text

def isSchemeChar (c : Char) : Bool := c.isAlphanum || c = '+' || c = '.' || c = '-'

def isAddressChar (c : Char) : Bool := !(isBlank c || c = '<' || c = '>')

def autolink? (cs : List Char) : Option (List Char) :=
  let address := cs.takeWhile isAddressChar
  match address with
  | c :: rest =>
    let scheme := rest.takeWhile isSchemeChar
    if c.isAlpha && 1 ≤ scheme.length && scheme.length ≤ 31 &&
        (rest.drop scheme.length).head? == some ':' &&
        (cs.drop address.length).head? == some '>' then
      some address
    else none
  | [] => none

def mailMarks : List Char := ".!#$%&'*+/=?^_\x60\x7b|\x7d~-".toList

def isMailChar (c : Char) : Bool := c.isAlphanum || mailMarks.contains c

def isHostChar (c : Char) : Bool := c.isAlphanum || c = '-'

def isHostRest : List Char → Bool
  | [] => true
  | '.' :: c :: cs => isHostChar c && isHostRest cs
  | c :: cs => isHostChar c && isHostRest cs

/-- A host name; only its first label must begin and end with a letter or digit. -/
def isHost (cs : List Char) : Bool :=
  let first := cs.takeWhile isHostChar
  first.head?.any Char.isAlphanum && first.getLast?.any Char.isAlphanum &&
    isHostRest (cs.drop first.length)

def mailAddress? (cs : List Char) : Option (List Char) :=
  let name := cs.takeWhile isMailChar
  match cs.drop name.length with
  | '@' :: rest =>
    let host := rest.takeWhile (· != '>')
    if 1 ≤ name.length && isHost host && (rest.drop host.length).head? == some '>' then
      some (name ++ '@' :: host)
    else none
  | _ => none

def isTagNameChar (c : Char) : Bool := c.isAlphanum || c = '-'

def isAttributeStart (c : Char) : Bool := c.isAlpha || c = '_' || c = ':'

def isAttributeChar (c : Char) : Bool := isWord c || c = '.' || c = ':' || c = '-'

def isBareValueChar (c : Char) : Bool :=
  !(isBlank c || c = '"' || c = '\'' || c = '=' || c = '<' || c = '>' || c = '\x60')

def skipBlank (cs : List Char) : List Char := cs.dropWhile isBlank

def afterQuote? (quote : Char) (cs : List Char) : Option (List Char) :=
  match cs.dropWhile (· != quote) with
  | [] => none
  | _ :: rest => some rest

def afterValue? : List Char → Option (List Char)
  | [] => none
  | c :: cs =>
    if c = '"' || c = '\'' then afterQuote? c cs
    else if isBareValueChar c then some (cs.dropWhile isBareValueChar)
    else none

def afterAssignment (cs : List Char) : List Char :=
  match skipBlank cs with
  | '=' :: value => (afterValue? (skipBlank value)).getD cs
  | _ => cs

def attributeLength? (cs : List Char) : Option Nat :=
  match skipBlank cs with
  | [] => none
  | c :: rest =>
    if isAttributeStart c then
      some (cs.length - (afterAssignment (rest.dropWhile isAttributeChar)).length)
    else none

def afterAttributes (cs : List Char) : List Char :=
  match cs with
  | [] => []
  | c :: rest =>
    if isBlank c then
      match attributeLength? rest with
      | some size => afterAttributes (rest.drop size)
      | none => c :: rest
    else c :: rest
termination_by cs.length
decreasing_by simp only [List.length_drop, List.length_cons]; omega

def afterAngle? : List Char → Option (List Char)
  | '>' :: rest => some rest
  | _ => none

def afterTagName? : List Char → Option (List Char)
  | [] => none
  | c :: cs => if c.isAlpha then some (cs.dropWhile isTagNameChar) else none

def afterOpenTag? (cs : List Char) : Option (List Char) := do
  let rest ← afterTagName? cs
  match skipBlank (afterAttributes rest) with
  | '/' :: rest => afterAngle? rest
  | rest => afterAngle? rest

def afterCloseTag? : List Char → Option (List Char)
  | '/' :: cs => do afterAngle? (skipBlank (← afterTagName? cs))
  | _ => none

/-- A comment ends at its first double hyphen, which an angle bracket must follow. -/
def afterHyphens? : List Char → Option (List Char)
  | [] => none
  | '-' :: '-' :: rest => afterAngle? rest
  | _ :: rest => afterHyphens? rest

def afterComment? : List Char → Option (List Char)
  | '!' :: '-' :: '-' :: rest => afterHyphens? rest
  | _ => none

def tagLength? (cs : List Char) : Option Nat :=
  ((afterOpenTag? cs).or ((afterCloseTag? cs).or (afterComment? cs))).map fun rest =>
    cs.length - rest.length

end MarkdownOutline.Inline
