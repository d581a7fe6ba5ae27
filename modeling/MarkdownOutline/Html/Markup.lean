import MarkdownOutline.Text.Escape

namespace MarkdownOutline.Html

open Text

structure Attribute where
  name : String
  value : String
  deriving DecidableEq

inductive Markup where
  | start (tag : String) (attributes : List Attribute)
  | finish (tag : String)
  /-- A tag that closes itself. -/
  | single (tag : String) (attributes : List Attribute)
  | text (content : String)
  /-- Markup from outside, which is not escaped. -/
  | raw (html : String)
  deriving DecidableEq

namespace Markup

def writeAttribute (a : Attribute) : String :=
  " " ++ a.name ++ "=\"" ++ escapeHtml a.value ++ "\""

def writeAttributes (as : List Attribute) : String := String.join (as.map writeAttribute)

def write : Markup → String
  | start tag attributes => "<" ++ tag ++ writeAttributes attributes ++ ">"
  | finish tag => "</" ++ tag ++ ">"
  | single tag attributes => "<" ++ tag ++ writeAttributes attributes ++ " />"
  | text content => escapeHtml content
  | raw html => html

def newline : Markup := text "\n"

end Markup

def write (markup : List Markup) : String := String.join (markup.map Markup.write)

def optional (name : String) : Option String → List Attribute
  | none | some "" => []
  | some value => [⟨name, value⟩]

end MarkdownOutline.Html
