import MarkdownOutline.Html.Renderer

namespace MarkdownOutline.Html

open Text Markup

/-- What a node looks like depends on the two branches around it and on whether it is the last child. -/
structure Around where
  parent : Option Branch := none
  grandparent : Option Branch := none

namespace Around

def inside (a : Around) (shape : Branch) : Around := ⟨some shape, a.parent⟩

def isTightItem (a : Around) : Bool :=
  match a.parent, a.grandparent with
  | some .listItem, some (.list _ _ true) => true
  | _, _ => false

def isTightList (a : Around) : Bool :=
  match a.parent with
  | some (.list _ _ true) => true
  | _ => false

end Around

section

variable (o : Options)

def headingOpening (h : Heading) (text : String) : HtmlM Markup := do
  if h.isTitle then return start "h1" [⟨"class", "title"⟩]
  match anchor? h, o.autoHeadingIds with
  | none, true => return start (headingTag h) (optional "id" (some (← uniqueSlug o text)))
  | anchor, _ => return start (headingTag h) (optional "id" anchor)

def opening (a : Around) (shape : Branch) (children : List Node) : HtmlM (List Markup) :=
  match shape with
  | .document => return []
  | .heading h => return [← headingOpening o h (plainTexts children)]
  | .paragraph => return if a.isTightItem then [] else [start "p" []]
  | .blockQuote => return [start "blockquote" [], newline]
  | .list true number _ =>
    return [start "ol" (if number = 1 then [] else [⟨"start", toString number⟩]), newline]
  | .list false _ _ => return [start "ul" [], newline]
  | .listItem =>
    match children with
    | [] => return [start "li" []]
    | child :: _ =>
      return if a.isTightList && isParagraph child then [start "li" []]
        else [start "li" [], newline]
  | .emphasis => return [start "em" []]
  | .strong => return [start "strong" []]
  | .strikethrough => return [start "del" []]
  | .link url title => do
    let href ← ExceptT.mk (pure (encodeUrl url))
    return [start "a" (⟨"href", href⟩ :: optional "title" title)]
  | .other kind => throw (.noMarkup kind)

def closing (a : Around) (last : Bool) (shape : Branch) : HtmlM (List Markup) :=
  match shape with
  | .document => return []
  | .heading h => return [finish (if h.isTitle then "h1" else headingTag h), newline]
  | .paragraph =>
    return if a.isTightItem then (if last then [] else [newline]) else [finish "p", newline]
  | .blockQuote => return [finish "blockquote", newline]
  | .list true _ _ => return [finish "ol", newline]
  | .list false _ _ => return [finish "ul", newline]
  | .listItem => return [finish "li", newline]
  | .emphasis => return [finish "em"]
  | .strong => return [finish "strong"]
  | .strikethrough => return [finish "del"]
  | .link .. => return [finish "a"]
  | .other kind => throw (.noMarkup kind)

mutual

def tree (a : Around) (last : Bool) : Node → HtmlM (List Markup)
  | .leaf _ content => leaf o content
  | .branch _ shape children => do
    let front ← opening o a shape children
    let inner ← trees (a.inside shape) children
    let back ← closing a last shape
    return front ++ inner ++ back

def trees (a : Around) : List Node → HtmlM (List Markup)
  | [] => return []
  | child :: rest => do
    let markup ← tree a rest.isEmpty child
    return markup ++ (← trees a rest)

end

def page (root : Node) : HtmlM String := do
  let front ← header o root
  let body ← tree o {} true root
  return write front ++ write body ++ write (if o.completePage then pageEnd else [])

end

end MarkdownOutline.Html
