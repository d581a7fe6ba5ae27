import MarkdownOutline.Document.Node
import MarkdownOutline.Error
import MarkdownOutline.Text.Category

namespace MarkdownOutline

open Text

inductive Content where
  | leaf (content : Leaf)
  | branch (shape : Branch)
  deriving DecidableEq

structure Row where
  depth : Nat
  loc : Location
  content : Content
  deriving DecidableEq

namespace Row

def node (row : Row) (children : List Node) : Node :=
  match row.content with
  | .leaf content => .leaf row.loc content
  | .branch shape => .branch row.loc shape children

def kind (row : Row) : String :=
  match row.content with
  | .leaf content => content.kind
  | .branch shape => shape.kind

end Row

mutual

def Node.rows (depth : Nat) : Node → List Row
  | .leaf loc content => [⟨depth, loc, .leaf content⟩]
  | .branch loc shape children => ⟨depth, loc, .branch shape⟩ :: Node.rowsAll (depth + 1) children

def Node.rowsAll (depth : Nat) : List Node → List Row
  | [] => []
  | node :: rest => node.rows depth ++ Node.rowsAll depth rest

end

/-- Puts a row in front of finished trees; those that are deeper become its children. -/
def addRow (row : Row) (trees : List (Nat × Node)) : List (Nat × Node) :=
  let deeper := fun tree : Nat × Node => row.depth < tree.1
  (row.depth, row.node ((trees.takeWhile deeper).map Prod.snd)) :: trees.dropWhile deeper

def forest (rows : List Row) : List Node := (rows.foldr addRow []).map Prod.snd

/-- The language of a code block is the first word of its info. -/
def language? (info : Option String) : Except RenderError (Option String) :=
  match info with
  | none | some "" => .ok none
  | some info =>
    match firstWord? info.toList with
    | none => .error .blankInfo
    | some word => .ok (some (String.ofList word))

def Row.language? (row : Row) : Except RenderError (Option String) :=
  match row.content with
  | .leaf (.codeBlock _ info _) => MarkdownOutline.language? info
  | _ => .ok none

def listing (nodes : List Node) : Except RenderError (List (Row × Option String)) :=
  (Node.rowsAll 0 nodes).mapM fun row => do return (row, ← row.language?)

end MarkdownOutline
