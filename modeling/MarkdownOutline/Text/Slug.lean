import MarkdownOutline.Text.Case
import MarkdownOutline.Text.CharRef
import MarkdownOutline.Text.Separator
import MarkdownOutline.Text.Word

namespace MarkdownOutline.Text.Slug

inductive SlugError where
  | numeral (cause : CharRef.NumeralTooLong)
  | separator (cause : Separator.TemplateError)
  deriving DecidableEq

def isGap (c : Char) : Bool := c = '-' || isBlank c

def isKept (c : Char) : Bool := isWord c || isGap c

def replaceGaps (fill : List Char → List Char) (cs : List Char) : List Char :=
  match cs with
  | [] => []
  | c :: rest =>
    if isGap c then fill (c :: rest.takeWhile isGap) ++ replaceGaps fill (rest.dropWhile isGap)
    else c :: replaceGaps fill rest
termination_by cs.length
decreasing_by
  · have := (List.dropWhile_suffix (l := rest) isGap).length_le
    simp only [List.length_cons]; omega
  · simp

def ofDecoded (separator : List Char) (parts : List Separator.Part) (cs : List Char) : List Char :=
  let words := (trim isBlank (lower cs)).filter isKept
  trim separator.contains (replaceGaps (Separator.fill parts) words)

def ofChars (separator cs : List Char) : Except SlugError (List Char) :=
  match cs with
  | [] => .ok []
  | _ =>
    match CharRef.decode cs with
    | .error e => .error (.numeral e)
    | .ok decoded =>
      match Separator.parse separator with
      | .error e => .error (.separator e)
      | .ok parts => .ok (ofDecoded separator parts decoded)

end Slug

def slug (text : String) (separator : String := "-") : Except Slug.SlugError String :=
  (Slug.ofChars separator.toList text.toList).map String.ofList

end MarkdownOutline.Text
