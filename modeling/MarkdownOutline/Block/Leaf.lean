import MarkdownOutline.Text.Category
import MarkdownOutline.Text.Lines

namespace MarkdownOutline.Block

open Text

abbrev Line := List Char

def isBlankLine (line : Line) : Bool := line.all isBlank

def isSpace (c : Char) : Bool := c = ' '

def indentOf (line : Line) : Nat := (line.takeWhile isSpace).length

def codeIndent : Nat := 4

def unindent? (line : Line) : Option Line :=
  if indentOf line < codeIndent then some (line.dropWhile isSpace) else none

def dropTrailingBlank (lines : List Line) : List Line :=
  (lines.reverse.dropWhile isBlankLine).reverse

/-- An empty last line is what a final line ending leaves. -/
def dropEmptyLast (lines : List Line) : List Line :=
  if lines.getLast? == some [] then lines.dropLast else lines

def maxLevel : Nat := 6

def dropClosingHashes (content : Line) : Line :=
  let before := (content.reverse.dropWhile (· = '#'))
  if before.length = content.length then content
  else match before with
    | [] => []
    | c :: _ => if c = ' ' then (before.dropWhile isSpace).reverse else content

def atx? (line : Line) : Option (Nat × Line) := do
  let content ← unindent? line
  let level := (content.takeWhile (· = '#')).length
  let rest := content.drop level
  if 1 ≤ level && level ≤ maxLevel && (rest.isEmpty || rest.head? == some ' ') then
    return (level, trim isBlank (dropClosingHashes (trim isSpace rest)))
  else none

def idMarks : List Char := ['_', ':', '.', '-']

def isIdChar (c : Char) : Bool := c.isAlphanum || idMarks.contains c

def splitId (text : Line) : Line × Option Line :=
  match text.reverse with
  | '}' :: rest =>
    let id := rest.takeWhile isIdChar
    match rest.drop id.length with
    | '#' :: '{' :: before =>
      if id.isEmpty then (text, none) else ((before.dropWhile isBlank).reverse, some id.reverse)
    | _ => (text, none)
  | _ => (text, none)

def isRuleMark (c : Char) : Bool := c = '-' || c = '*' || c = '_'

def isThematic (line : Line) : Bool :=
  match unindent? line with
  | some (c :: rest) =>
    isRuleMark c && rest.all (fun d => d = c || d = ' ') && 3 ≤ (c :: rest).count c
  | _ => false

def underline? (line : Line) : Option Nat :=
  match unindent? line with
  | some (c :: rest) =>
    if (c = '=' || c = '-') && (rest.dropWhile (· = c)).all isSpace then
      some (if c = '=' then 1 else 2)
    else none
  | _ => none

def titleLine? : Line → Option Line
  | '%' :: rest => some (trim isBlank rest)
  | _ => none

def titleText (parts : List Line) : Line :=
  List.intercalate [' '] (parts.filter fun part => !part.isEmpty)

structure Fence where
  indent : Nat
  mark : Char
  size : Nat
  info : Line
  deriving DecidableEq

def minFence : Nat := 3

/-- The info of a backtick fence holds no backtick, or it would be a code span. -/
def fence? (line : Line) : Option Fence := do
  let content ← unindent? line
  match content with
  | [] => none
  | mark :: _ =>
    let size := (content.takeWhile (· = mark)).length
    let info := content.drop size
    if (mark = '`' || mark = '~') && minFence ≤ size && !(mark = '`' && info.contains '`') then
      some ⟨indentOf line, mark, size, info⟩
    else none

def isFence (line : Line) : Bool := (fence? line).isSome

namespace Fence

def isClosedBy (fence : Fence) (line : Line) : Bool :=
  match unindent? line with
  | none => false
  | some content =>
    let size := (content.takeWhile (· = fence.mark)).length
    fence.size ≤ size && (content.drop size).all isSpace

/-- The code lines, each less the fence's indent, and the number of lines with the closing fence. -/
def body (fence : Fence) : List Line → List Line × Nat
  | [] => ([], 0)
  | line :: rest =>
    if fence.isClosedBy line then ([], 1)
    else
      let (code, taken) := fence.body rest
      (line.drop (min fence.indent (indentOf line)) :: code, taken + 1)

def info? (fence : Fence) : Option Line :=
  let info := trim isBlank fence.info
  if info.isEmpty then none else some info

end Fence

def codeText (lines : List Line) : Line := lines.flatMap (· ++ ['\n'])

def isCodeLine (line : Line) : Bool := isBlankLine line || codeIndent ≤ indentOf line

def indentedCode (lines : List Line) : Line :=
  codeText (dropTrailingBlank (lines.map (List.drop codeIndent)))

def foldLetter (c : Char) : Char :=
  if c = 'ſ' then 's'
  else if c = '\u212A' then 'k'
  else if c = 'ı' || c = 'İ' then 'i'
  else c.toLower

def isTagLetter (c : Char) : Bool := (foldLetter c).isLower

def blockTags : List String :=
  ["address", "article", "aside", "blockquote", "body", "center", "details", "dialog", "dd", "div",
   "dl", "dt", "fieldset", "figcaption", "figure", "footer", "form", "h1", "h2", "h3", "h4", "h5",
   "h6", "head", "header", "hr", "html", "iframe", "legend", "li", "link", "main", "menu", "nav",
   "ol", "p", "pre", "section", "script", "style", "summary", "table", "tbody", "td", "tfoot", "th",
   "thead", "title", "tr", "ul"]

def endsTagName (c : Char) : Bool := isBlank c || c = '/' || c = '>'

def startsWithBlockTag (cs : Line) : Bool :=
  blockTags.contains (String.ofList ((cs.takeWhile fun c => !endsTagName c).map foldLetter))

def isHtmlStart (line : Line) : Bool :=
  match unindent? line with
  | some ('<' :: '!' :: '-' :: '-' :: _) => true
  | some ('<' :: '?' :: _) => true
  | some ('<' :: '!' :: c :: _) => isTagLetter c
  | some ('<' :: '/' :: rest) => startsWithBlockTag rest
  | some ('<' :: rest) => startsWithBlockTag rest
  | _ => false

end MarkdownOutline.Block
