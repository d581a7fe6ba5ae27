import Std.Data.HashSet
import MarkdownOutline.Document.Listing
import MarkdownOutline.Document.Node
import MarkdownOutline.Document.Walk
import MarkdownOutline.Highlight
import MarkdownOutline.Html.Markup
import MarkdownOutline.Text.Escape

namespace MarkdownOutline.Html

open Text Markup

structure Options where
  completePage : Bool := false
  title : Option String := none
  css : Option String := none
  highlight : Bool := false
  autoHeadingIds : Bool := false
  slugify : String → Except Slug.SlugError String := fun text => slug text

structure Opened where
  place : Place
  shape : Branch
  size : Nat

structure State where
  registry : Highlight.Registry := {}
  containers : List Opened := []
  slugs : Std.HashSet String := {}

abbrev HtmlM := RenderM State

def encodeUrl (url : String) : Except RenderError String :=
  match CharRef.decode url.toList with
  | .ok cs => .ok (String.ofList (percentEncode cs))
  | .error e => .error (.numeral e)

def numbered (slug : String) (n : Nat) : String :=
  if n = 0 then slug else slug ++ "-" ++ toString n

def freshSlug (used : Std.HashSet String) (slug : String) : String :=
  let first := (List.range (used.size + 1)).find? fun n => !used.contains (numbered slug n)
  numbered slug (first.getD 0)

def uniqueSlug (o : Options) (text : String) : HtmlM String := do
  match o.slugify text with
  | .error e => throw (.slug e)
  | .ok slug =>
    let fresh := freshSlug (← get).slugs (if slug.isEmpty then "section" else slug)
    modify fun s => { s with slugs := s.slugs.insert fresh }
    return fresh

/-- The assigned identifier, or else the explicit one; an empty one counts as none only if
assigned. -/
def anchor? (h : Heading) : Option String :=
  match h.id with
  | none | some "" => h.explicitId
  | id => id

def dropNewlines (s : String) : String := String.ofList (trimRight (· = '\n') s.toList)

/-- A failing highlighter is as good as none. -/
def highlighted? (code language : String) : HtmlM (Option String) := do
  let (painted, registry) := (← get).registry.highlight code language
  modify fun s => { s with registry }
  match painted with
  | .ok html => return html
  | .error _ => return none

def plainCode (code : String) (language : Option String) : List Markup :=
  let attributes := optional "class" (language.map fun l => "language-" ++ l)
  [start "pre" [], start "code" attributes, text code, finish "code", finish "pre", newline]

def codeBlock (o : Options) (code : String) (info : Option String) : HtmlM (List Markup) := do
  let language ← ExceptT.mk (pure (language? info))
  match (if o.highlight then language else none) with
  | none => return plainCode code language
  | some l =>
    match ← highlighted? code l with
    | some html => return [raw (dropNewlines html), newline]
    | none => return plainCode code language

def leaf (o : Options) : Leaf → HtmlM (List Markup)
  | .text content => return [text content]
  | .codeSpan code => return [start "code" [], text code, finish "code"]
  | .codeBlock code info _ => codeBlock o code info
  | .thematicBreak => return [single "hr" [], newline]
  | .htmlBlock html => return [raw (dropNewlines html), newline]
  | .htmlInline html => return [raw html]
  | .image url alt title => do
    let src ← ExceptT.mk (pure (encodeUrl url))
    return [single "img" ([⟨"src", src⟩, ⟨"alt", alt⟩] ++ optional "title" title)]
  | .lineBreak => return [single "br" [], newline]
  | .softBreak => return [newline]
  | .other kind => throw (.noMarkup kind)

def headingTag (h : Heading) : String := "h" ++ toString h.level

def tightItem? : List Opened → Option Opened
  | item :: list :: _ =>
    match item.shape, list.shape with
    | .listItem, .list _ _ true => some item
    | _, _ => none
  | _ => none

def inTightList : List Opened → Bool
  | ⟨_, .list _ _ tight, _⟩ :: _ => tight
  | _ => false

def isParagraph : Node → Bool
  | .branch _ .paragraph _ => true
  | _ => false

def listTag (ordered : Bool) : String := if ordered then "ol" else "ul"

def enter (o : Options) (containers : List Opened) (node : Node) (shape : Branch)
    (children : List Node) : HtmlM (List Markup) :=
  match shape with
  | .document => return []
  | .heading h => do
    if h.isTitle then return [start "h1" [⟨"class", "title"⟩]]
    let anchor ← match anchor? h with
      | none => if o.autoHeadingIds then some <$> uniqueSlug o node.plainText else pure none
      | anchor => pure anchor
    return [start (headingTag h) (optional "id" anchor)]
  | .paragraph => return if (tightItem? containers).isSome then [] else [start "p" []]
  | .blockQuote => return [start "blockquote" [], newline]
  | .list ordered number _ =>
    let attributes := if ordered && number != 1 then [⟨"start", toString number⟩] else []
    return [start (listTag ordered) attributes, newline]
  | .listItem =>
    let inline := inTightList containers && children.head?.any isParagraph
    return start "li" [] :: (if children.isEmpty || inline then [] else [newline])
  | .emphasis => return [start "em" []]
  | .strong => return [start "strong" []]
  | .strikethrough => return [start "del" []]
  | .link url title => do
    let href ← ExceptT.mk (pure (encodeUrl url))
    return [start "a" (⟨"href", href⟩ :: optional "title" title)]
  | .other kind => throw (.noMarkup kind)

/-- The markup behind a paragraph. Inside a tight item a newline parts it from what follows. -/
def leaveParagraph (containers : List Opened) (place : Place) : Except RenderError (List Markup) :=
  match tightItem? containers with
  | none => .ok [finish "p", newline]
  | some item =>
    match item.size with
    | 0 => .error .emptyItem
    | last + 1 => .ok (if place = last :: item.place then [] else [newline])

def leave (containers : List Opened) (place : Place) (shape : Branch) : HtmlM (List Markup) :=
  match shape with
  | .document => return []
  | .heading h => return [finish (if h.isTitle then "h1" else headingTag h), newline]
  | .paragraph => ExceptT.mk (pure (leaveParagraph containers place))
  | .blockQuote => return [finish "blockquote", newline]
  | .list ordered _ _ => return [finish (listTag ordered), newline]
  | .listItem => return [finish "li", newline]
  | .emphasis => return [finish "em"]
  | .strong => return [finish "strong"]
  | .strikethrough => return [finish "del"]
  | .link .. => return [finish "a"]
  | .other kind => throw (.noMarkup kind)

/-- A branch counts as open from the end of its first visit to the beginning of its second. -/
def visit (o : Options) (v : Visit) : HtmlM (List Markup) := do
  match v.node with
  | .leaf _ content => leaf o content
  | .branch loc shape children =>
    if v.entering then
      let markup ← enter o (← get).containers (.branch loc shape children) shape children
      modify fun s => { s with containers := ⟨v.place, shape, children.length⟩ :: s.containers }
      return markup
    else
      match (← get).containers with
      | [] => throw .nothingOpen
      | _ :: outer =>
        modify fun s => { s with containers := outer }
        leave outer v.place shape

def isTitle (node : Node) : Bool := node.heading?.any (·.isTitle)

def titleText (root : Node) : Except RenderError String :=
  match root with
  | .leaf _ content => .error (.childlessRoot content.kind)
  | .branch _ _ children => .ok (((children.find? isTitle).map Node.plainText).getD "")

def pageStart (title : String) (css : Option String) : List Markup :=
  [raw "<!DOCTYPE html>\n", start "html" [], newline, start "head" [], newline, text "  ",
    start "title" [], text title, finish "title", newline, text "  ",
    start "meta" [⟨"charset", "utf-8"⟩], newline] ++
  (match css with
    | none | some "" => []
    | some href =>
      [text "  ", start "link" [⟨"rel", "stylesheet"⟩, ⟨"type", "text/css"⟩, ⟨"href", href⟩],
        newline]) ++
  [finish "head", newline, start "body" [], text "\n\n"]

def pageEnd : List Markup := [newline, finish "body", newline, finish "html", newline]

/-- Nothing that earlier renderings left behind stays. -/
def header (o : Options) (root : Node) : HtmlM (List Markup) := do
  modify fun s => { s with containers := [], slugs := {} }
  if o.completePage then
    let title ← match o.title with
      | some title => pure title
      | none => ExceptT.mk (pure (titleText root))
    return pageStart title o.css
  else return []

def renderer (o : Options) : Renderer State where
  header root := return write (← header o root)
  visit v := return (write (← visit o v), .next)
  footer _ := return write (if o.completePage then pageEnd else [])

end MarkdownOutline.Html
