import MarkdownOutline.Proofs.Html.Recursive
import MarkdownOutline.Proofs.Html.Split

namespace MarkdownOutline

def isSet : Option String → Bool
  | none | some "" => false
  | some _ => true

def bareIfSet (value : Option String) : Option String := if isSet value then some "set" else none

def Leaf.bare : Leaf → Leaf
  | text _ => text ""
  | codeSpan _ => codeSpan ""
  | codeBlock _ info _ => codeBlock "" (bareIfSet info) true
  | image _ _ title => image "" "" (bareIfSet title)
  | content => content

/-- An explicit anchor that is empty still keeps a slug away. -/
def Heading.bare (h : Heading) : Heading :=
  { level := h.level, isTitle := h.isTitle, id := bareIfSet h.id,
    explicitId := if isSet h.explicitId then some "set" else h.explicitId }

def Branch.bare : Branch → Branch
  | heading h => heading h.bare
  | link _ title => link "" (bareIfSet title)
  | shape => shape

mutual

/-- A tree without its texts and places in the source: which nodes it has, the numbers and flags
of its headings and lists, and which optional texts are set. -/
def Node.bare : Node → Node
  | .leaf _ content => .leaf ⟨1, 1, none, none⟩ content.bare
  | .branch _ shape children => .branch ⟨1, 1, none, none⟩ shape.bare (Node.bareAll children)

def Node.bareAll : List Node → List Node
  | [] => []
  | child :: rest => child.bare :: Node.bareAll rest

end

namespace Html

def Attribute.blank (a : Attribute) : Attribute := { a with value := "" }

def Tag.blank : Tag → Tag
  | start name attributes => start name (attributes.map Attribute.blank)
  | single name attributes => single name (attributes.map Attribute.blank)
  | doctype => doctype
  | finish name => finish name

def blanks (names : List String) : List Attribute := names.map fun name => ⟨name, ""⟩

def ifSet (name : String) (value : Option String) : List String := if isSet value then [name] else []

def element (name : String) (names : List String) (inner : List Tag) : List Tag :=
  .start name (blanks names) :: (inner ++ [.finish name])

def leafTags : Leaf → List Tag
  | .codeSpan _ => element "code" [] []
  | .codeBlock _ info _ => element "pre" [] (element "code" (ifSet "class" info) [])
  | .thematicBreak => [.single "hr" []]
  | .image _ _ title => [.single "img" (blanks (["src", "alt"] ++ ifSet "title" title))]
  | .lineBreak => [.single "br" []]
  | _ => []

section

variable (o : Options)

def headingNames (h : Heading) : List String :=
  if h.isTitle then ["class"]
  else if (anchor? h).isNone && o.autoHeadingIds then ["id"]
  else ifSet "id" (anchor? h)

def branchTag? (a : Around) : Branch → Option (String × List String)
  | .document => none
  | .heading h => some (if h.isTitle then "h1" else headingTag h, headingNames o h)
  | .paragraph => if a.isTightItem then none else some ("p", [])
  | .blockQuote => some ("blockquote", [])
  | .list true number _ => some ("ol", if number = 1 then [] else ["start"])
  | .list false _ _ => some ("ul", [])
  | .listItem => some ("li", [])
  | .emphasis => some ("em", [])
  | .strong => some ("strong", [])
  | .strikethrough => some ("del", [])
  | .link _ title => some ("a", "href" :: ifSet "title" title)
  | .other _ => none

def front : Option (String × List String) → List Tag
  | none => []
  | some (name, names) => [.start name (blanks names)]

def back : Option (String × List String) → List Tag
  | none => []
  | some (name, _) => [.finish name]

mutual

def treeTags (a : Around) : Node → List Tag
  | .leaf _ content => leafTags content
  | .branch _ shape children =>
    front (branchTag? o a shape) ++ treesTags (a.inside shape) children ++ back (branchTag? o a shape)

def treesTags (a : Around) : List Node → List Tag
  | [] => []
  | child :: rest => treeTags a child ++ treesTags a rest

end

def headTags : List Tag :=
  element "title" [] [] ++ .start "meta" (blanks ["charset"]) ::
    if isSet o.css then [.start "link" (blanks ["rel", "type", "href"])] else []

def pageTags (root : Node) : List Tag :=
  if o.completePage then
    .doctype :: element "html" [] (element "head" [] (headTags o) ++ element "body" [] (treeTags o {} root))
  else treeTags o {} root

end

theorem isSet_some (text : String) : isSet (some text) = (text != "") := by
  by_cases h : text = ""
  · subst h
    rfl
  · simp [isSet, h]

@[simp] theorem isSet_bareIfSet (value : Option String) : isSet (bareIfSet value) = isSet value := by
  rw [bareIfSet]
  split
  · exact (‹isSet value = true›).symm
  · exact (Bool.eq_false_iff.2 ‹_›).symm

def Around.bare (a : Around) : Around := ⟨a.parent.map Branch.bare, a.grandparent.map Branch.bare⟩

theorem isTightItem_bare (a : Around) : a.bare.isTightItem = a.isTightItem := by
  rcases a with ⟨_ | parent, _ | grandparent⟩
  · rfl
  · rfl
  · cases parent <;> rfl
  · cases parent <;> cases grandparent <;> rfl

theorem leafTags_bare (content : Leaf) : leafTags content.bare = leafTags content := by
  cases content with
  | codeBlock code info fenced => simp [Leaf.bare, leafTags, ifSet]
  | image url alt title => simp [Leaf.bare, leafTags, ifSet]
  | _ => rfl

theorem anchor?_eq (h : Heading) : anchor? h = if isSet h.id then h.id else h.explicitId := by
  rw [anchor?]
  cases h.id with
  | none => rfl
  | some text =>
      by_cases htext : text = ""
      · subst htext
        rfl
      · simp [isSet_some, htext]

theorem isNone_of_isSet {value : Option String} (h : isSet value = true) : value.isNone = false := by
  cases value with
  | none => cases h
  | some text => rfl

theorem anchor?_bare (h : Heading) :
    (anchor? h.bare).isNone = (anchor? h).isNone ∧ isSet (anchor? h.bare) = isSet (anchor? h) := by
  simp only [anchor?_eq, Heading.bare, isSet_bareIfSet]
  cases hid : isSet h.id with
  | true => simpa [isNone_of_isSet hid, bareIfSet, hid] using isSet_some "set"
  | false =>
      cases hexplicit : isSet h.explicitId with
      | true => simpa [isNone_of_isSet hexplicit, hexplicit] using isSet_some "set"
      | false => simp [hexplicit]

theorem headingNames_bare (o : Options) (h : Heading) : headingNames o h.bare = headingNames o h := by
  simp only [headingNames, ifSet, anchor?_bare]
  rfl

theorem branchTag?_bare (o : Options) (a : Around) (shape : Branch) :
    branchTag? o a.bare shape.bare = branchTag? o a shape := by
  cases shape with
  | heading h =>
      simp only [Branch.bare, branchTag?, headingNames_bare]
      rfl
  | paragraph => simp [Branch.bare, branchTag?, isTightItem_bare]
  | list ordered number tight => cases ordered <;> rfl
  | link url title => simp [Branch.bare, branchTag?, ifSet]
  | _ => rfl

mutual

theorem treeTags_bare (o : Options) (a : Around) (node : Node) :
    treeTags o a.bare node.bare = treeTags o a node := by
  cases node with
  | leaf loc content => exact leafTags_bare content
  | branch loc shape children =>
      simp only [Node.bare, treeTags, branchTag?_bare]
      rw [← treesTags_bare o (a.inside shape) children]
      rfl

theorem treesTags_bare (o : Options) (a : Around) (children : List Node) :
    treesTags o a.bare (Node.bareAll children) = treesTags o a children := by
  cases children with
  | nil => rfl
  | cons child rest => simp only [Node.bareAll, treesTags, treeTags_bare, treesTags_bare]

end

theorem pageTags_eq_of_bare (o : Options) {root other : Node} (h : root.bare = other.bare) :
    pageTags o root = pageTags o other := by
  have htree : treeTags o {} root = treeTags o {} other := by
    rw [← treeTags_bare, h, treeTags_bare]
  rw [pageTags, pageTags, htree]

def Tag.IsAlone : Tag → Prop
  | start name _ => name ∈ openNames
  | finish _ => False
  | doctype | single .. => True

/-- Every start tag is closed by an end tag of its name, and what they enclose is balanced too. -/
inductive Balanced : List Tag → Prop
  | nil : Balanced []
  | alone {tag : Tag} {rest : List Tag} : tag.IsAlone → Balanced rest → Balanced (tag :: rest)
  | pair {name : String} {attributes : List Attribute} {inner rest : List Tag} :
    IsPaired name → Balanced inner → Balanced rest →
      Balanced (.start name attributes :: (inner ++ .finish name :: rest))

namespace Balanced

theorem append {ts us : List Tag} (ht : Balanced ts) (hu : Balanced us) : Balanced (ts ++ us) := by
  induction ht with
  | nil => exact hu
  | alone h _ ih => exact .alone h ih
  | pair hname hinner _ _ ih =>
      rw [List.cons_append, List.append_assoc, List.cons_append]
      exact .pair hname hinner ih

theorem element {name : String} (names : List String) {inner : List Tag} (hname : IsPaired name)
    (h : Balanced inner) : Balanced (element name names inner) := .pair hname h .nil

theorem of_blank {ts : List Tag} (h : Balanced (ts.map Tag.blank)) : Balanced ts := by
  generalize hus : ts.map Tag.blank = us at h
  induction h generalizing ts with
  | nil =>
      rw [List.map_eq_nil_iff.1 hus]
      exact .nil
  | alone halone _ ih =>
      obtain ⟨t, rest, rfl, rfl, hrest⟩ := List.map_eq_cons_iff.1 hus
      refine .alone ?_ (ih hrest)
      cases t <;> exact halone
  | pair hname _ _ ihinner ihrest =>
      obtain ⟨t, more, rfl, ht, hmore⟩ := List.map_eq_cons_iff.1 hus
      obtain ⟨inner, back, rfl, hinner, hback⟩ := List.map_eq_append_iff.1 hmore
      obtain ⟨u, rest, rfl, hu, hrest⟩ := List.map_eq_cons_iff.1 hback
      cases t <;> cases ht
      cases u <;> cases hu
      exact .pair hname (ihinner hinner) (ihrest hrest)

end Balanced

theorem isPaired_of_branchTag? {o : Options} {a : Around} {shape : Branch} {name : String}
    {names : List String} (h : branchTag? o a shape = some (name, names)) : IsPaired name := by
  cases shape with
  | document | other kind => cases h
  | heading heading =>
      cases h
      split
      · exact .inr ⟨1, rfl⟩
      · exact .inr ⟨heading.level, rfl⟩
  | paragraph =>
      rw [branchTag?] at h
      split at h
      · cases h
      · cases h
        exact .inl (by decide)
  | list ordered number tight =>
      cases ordered <;> cases h <;> exact .inl (by decide)
  | _ =>
      cases h
      exact .inl (by decide)

theorem balanced_leafTags (content : Leaf) : Balanced (leafTags content) := by
  cases content with
  | codeSpan code => exact .element _ (.inl (by decide)) .nil
  | codeBlock code info fenced =>
      exact .element _ (.inl (by decide)) (.element _ (.inl (by decide)) .nil)
  | thematicBreak | lineBreak => exact .alone trivial .nil
  | image url alt title => exact .alone trivial .nil
  | _ => exact .nil

theorem Balanced.branch {o : Options} {a : Around} {shape : Branch} {inner : List Tag}
    (h : Balanced inner) :
    Balanced (front (branchTag? o a shape) ++ inner ++ back (branchTag? o a shape)) := by
  cases htag : branchTag? o a shape with
  | none => simpa [front, back] using h
  | some tag => exact .pair (isPaired_of_branchTag? htag) h .nil

mutual

theorem balanced_treeTags (o : Options) (a : Around) (node : Node) : Balanced (treeTags o a node) := by
  cases node with
  | leaf loc content => exact balanced_leafTags content
  | branch loc shape children => exact (balanced_treesTags o (a.inside shape) children).branch

theorem balanced_treesTags (o : Options) (a : Around) (children : List Node) :
    Balanced (treesTags o a children) := by
  cases children with
  | nil => exact .nil
  | cons child rest => exact (balanced_treeTags o a child).append (balanced_treesTags o a rest)

end

theorem balanced_headTags (o : Options) : Balanced (headTags o) := by
  have hopen {name : String} (h : name ∈ openNames) (names : List String) :
      (Tag.start name (blanks names)).IsAlone := h
  refine .append (.element _ (.inl (by decide)) .nil) (.alone (hopen (by decide) _) ?_)
  split
  · exact .alone (hopen (by decide) _) .nil
  · exact .nil

theorem balanced_pageTags (o : Options) (root : Node) : Balanced (pageTags o root) := by
  rw [pageTags]
  split
  · refine .alone trivial (.element _ (.inl (by decide)) (.append ?_ ?_))
    · exact .element _ (.inl (by decide)) (balanced_headTags o)
    · exact .element _ (.inl (by decide)) (balanced_treeTags o {} root)
  · exact balanced_treeTags o {} root

end Html

end MarkdownOutline
