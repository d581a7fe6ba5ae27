import MarkdownOutline.Text.Lines

namespace MarkdownOutline

inductive Source where
  | text (content : String)
  | bytes (content : ByteArray)

namespace Source

def read? : Source → Option String
  | text content => some content
  | bytes content => String.fromUTF8? content

def marker : List Char := "[TOC]".toList

def afterMarker? : List Char → Option (List Char)
  | [] => none
  | c :: cs =>
    if marker.isPrefixOf (c :: cs) then some ((c :: cs).drop marker.length) else afterMarker? cs

def hasMarker (s : String) : Bool := (afterMarker? s.toList).isSome

def dropNewline : List Char → List Char
  | '\n' :: cs => cs
  | cs => cs

def cutMarker (cs : List Char) : List Char :=
  match afterMarker? cs with
  | some rest => dropNewline rest
  | none => cs

def prepareChars (cs : List Char) : List Char := cutMarker (Text.foldNewlines cs)

def prepare (s : String) : String := String.ofList (prepareChars s.toList)

def normalize (s : String) : String := String.ofList (Text.foldNewlines s.toList)

end Source

end MarkdownOutline
