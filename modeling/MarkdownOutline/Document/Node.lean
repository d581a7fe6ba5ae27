namespace MarkdownOutline

structure Location where
  line : Int
  column : Int
  endLine : Option Int := none
  file : Option String := none
  deriving DecidableEq

namespace Location

def through (loc : Location) (last : Int) : Location := { loc with endLine := some last }

/-- A file without a name is not shown. -/
def text (loc : Location) : String :=
  let position := toString loc.line ++ ":" ++ toString loc.column
  match loc.file with
  | none | some "" => position
  | some file => file ++ ":" ++ position

end Location

inductive HeadingStyle where
  | atx
  | setext
  | title
  deriving DecidableEq

/-- The anchor `id` is assigned by an outline, `explicitId` is written in the source. -/
structure Heading where
  level : Int := 1
  isTitle : Bool := false
  id : Option String := none
  explicitId : Option String := none
  style : HeadingStyle := .atx
  deriving DecidableEq

inductive Leaf where
  | text (content : String)
  | codeSpan (code : String)
  | codeBlock (code : String) (info : Option String) (fenced : Bool)
  | thematicBreak
  | htmlBlock (html : String)
  | htmlInline (html : String)
  | image (url alt : String) (title : Option String)
  | lineBreak
  | softBreak
  /-- A kind of leaf that has no markup. -/
  | other (kind : String)
  deriving DecidableEq

inductive Branch where
  | document
  | heading (heading : Heading)
  | paragraph
  | blockQuote
  | list (ordered : Bool) (start : Int) (tight : Bool)
  | listItem
  | emphasis
  | strong
  | strikethrough
  | link (url : String) (title : Option String)
  /-- A kind of branch that has no markup. -/
  | other (kind : String)
  deriving DecidableEq

inductive Node where
  | leaf (loc : Location) (content : Leaf)
  | branch (loc : Location) (shape : Branch) (children : List Node)

mutual

def Node.decEq : (a b : Node) → Decidable (a = b)
  | .leaf l c, .leaf l' c' => decidable_of_iff (l = l' ∧ c = c') (by simp)
  | .branch l s ns, .branch l' s' ns' =>
    match Node.decEqAll ns ns' with
    | isTrue h => decidable_of_iff (l = l' ∧ s = s') (by simp [h])
    | isFalse h => isFalse (by simp [h])
  | .leaf .., .branch .. => isFalse (by simp)
  | .branch .., .leaf .. => isFalse (by simp)

def Node.decEqAll : (as bs : List Node) → Decidable (as = bs)
  | [], [] => isTrue rfl
  | a :: as, b :: bs =>
    match Node.decEq a b with
    | isTrue h =>
      match Node.decEqAll as bs with
      | isTrue hs => isTrue (by rw [h, hs])
      | isFalse hs => isFalse (by simp [hs])
    | isFalse h => isFalse (by simp [h])
  | [], _ :: _ => isFalse (by simp)
  | _ :: _, [] => isFalse (by simp)

end

instance : DecidableEq Node := Node.decEq

instance : Inhabited Node := ⟨.leaf ⟨1, 1, none, none⟩ (.text "")⟩

namespace Leaf

def kind : Leaf → String
  | text _ => "Text"
  | codeSpan _ => "CodeSpan"
  | codeBlock .. => "CodeBlock"
  | thematicBreak => "ThematicBreak"
  | htmlBlock _ => "HtmlBlock"
  | htmlInline _ => "HtmlInline"
  | image .. => "Image"
  | lineBreak => "LineBreak"
  | softBreak => "SoftBreak"
  | other kind => kind

end Leaf

namespace Branch

def kind : Branch → String
  | document => "Document"
  | heading _ => "Heading"
  | paragraph => "Paragraph"
  | blockQuote => "BlockQuote"
  | list .. => "List"
  | listItem => "ListItem"
  | emphasis => "Emphasis"
  | strong => "Strong"
  | strikethrough => "Strikethrough"
  | link .. => "Link"
  | other kind => kind

end Branch

namespace Node

def loc : Node → Location
  | leaf loc _ => loc
  | branch loc _ _ => loc

def kind : Node → String
  | leaf _ content => content.kind
  | branch _ shape _ => shape.kind

def children : Node → List Node
  | leaf .. => []
  | branch _ _ children => children

def isBranch : Node → Bool
  | leaf .. => false
  | branch .. => true

def heading? : Node → Option Heading
  | branch _ (.heading heading) _ => some heading
  | _ => none

def descendant? (node : Node) : List Nat → Option Node
  | [] => some node
  | i :: path => (node.children[i]?).bind fun child => child.descendant? path

end Node

mutual

def Node.size : Node → Nat
  | .leaf .. => 1
  | .branch _ _ children => Node.sizes children + 1

def Node.sizes : List Node → Nat
  | [] => 0
  | node :: rest => node.size + Node.sizes rest

end

theorem Node.size_pos (node : Node) : 0 < node.size := by
  cases node <;> simp [Node.size]

def Leaf.plainText : Leaf → String
  | text content => content
  | codeSpan code => code
  | image _ alt _ => alt
  | lineBreak | softBreak => " "
  | _ => ""

mutual

def Node.plainText : Node → String
  | .leaf _ content => content.plainText
  | .branch _ _ children => plainTexts children

def plainTexts : List Node → String
  | [] => ""
  | node :: rest => node.plainText ++ plainTexts rest

end

@[simp] theorem plainTexts_nil : plainTexts [] = "" := rfl

@[simp] theorem plainTexts_cons (node : Node) (rest : List Node) :
    plainTexts (node :: rest) = node.plainText ++ plainTexts rest := rfl

end MarkdownOutline
