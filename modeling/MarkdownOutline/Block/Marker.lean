import MarkdownOutline.Block.Leaf
import MarkdownOutline.Text.Category

namespace MarkdownOutline.Block

open Text

def unquote? (line : Line) : Option Line := do
  match ← unindent? line with
  | '>' :: ' ' :: rest => some rest
  | '>' :: rest => some rest
  | _ => none

inductive Bullet where
  | mark (c : Char)
  | ordered (delimiter : Char)
  deriving DecidableEq

def Bullet.isOrdered : Bullet → Bool
  | mark _ => false
  | ordered _ => true

/-- A list marker with the column of the item's content and the content of the first line. -/
structure Marker where
  bullet : Bullet
  number : Nat
  column : Nat
  content : Line
  deriving DecidableEq

def maxMarkerDigits : Nat := 9

def isListMark (c : Char) : Bool := c = '-' || c = '+' || c = '*'

def isDelimiter (c : Char) : Bool := c = '.' || c = ')'

/-- A bullet with its number, its width, and what follows. -/
def bullet? (cs : Line) : Option (Bullet × Nat × Nat × Line) :=
  match cs with
  | [] => none
  | c :: rest =>
    if isListMark c then some (.mark c, 1, 1, rest)
    else
      let digits := cs.takeWhile isDigit
      match cs.drop digits.length with
      | d :: rest =>
        if isDelimiter d && 1 ≤ digits.length && digits.length ≤ maxMarkerDigits then
          some (.ordered d, numeral digits, digits.length + 1, rest)
        else none
      | [] => none

/-- More than four spaces behind a marker are one space and the indent of code. -/
def marker? (line : Line) : Option Marker := do
  let (bullet, number, width, rest) ← bullet? (← unindent? line)
  let spaces := indentOf rest
  let start := indentOf line + width
  if rest.isEmpty then some ⟨bullet, number, start + 1, []⟩
  else if spaces = 0 then none
  else if codeIndent < spaces then some ⟨bullet, number, start + 1, rest.drop 1⟩
  else
    let content := rest.drop spaces
    some ⟨bullet, number, start + (if content.isEmpty then 1 else spaces), content⟩

/-- Whether a line interrupts a paragraph. A list does so only with content, and from number one. -/
def startsBlock (line : Line) : Bool :=
  (atx? line).isSome || isThematic line || isFence line || (unquote? line).isSome ||
    isHtmlStart line || (marker? line).any fun m => !isBlankLine m.content && m.number == 1

/-- The lines of a quote behind its first, without their marks. An unmarked line goes on with a
paragraph if no blank line is in front of it. -/
def quoteTail (afterText : Bool) : List Line → List Line
  | [] => []
  | line :: rest =>
    match unquote? line with
    | some inner => inner :: quoteTail (!isBlankLine inner) rest
    | none =>
      if !isBlankLine line && afterText && !startsBlock line then line :: quoteTail true rest
      else []

def itemTail (column : Nat) (afterText : Bool) : List Line → List Line
  | [] => []
  | line :: rest =>
    if isBlankLine line then [] :: itemTail column false rest
    else if column ≤ indentOf line then
      let inner := line.drop column
      inner :: itemTail column (!isBlankLine inner) rest
    else if afterText && !startsBlock line && (marker? line).isNone then
      trim isBlank line :: itemTail column true rest
    else []

def sibling? (bullet : Bullet) (line : Line) : Option Marker :=
  match marker? line with
  | some m => if m.bullet = bullet && !isThematic line then some m else none
  | none => none

def opensBlock (lines : List Line) : Bool :=
  (lines.find? fun line => !isBlankLine line).any fun line =>
    indentOf line < 2 && (marker? line).isNone

/-- The blocks are not read for this: lines that look like fences are counted, open ones or not. -/
def gapIn (inFence : Bool) : List Line → Bool
  | [] => false
  | line :: rest =>
    if isFence line then gapIn (!inFence) rest
    else if !inFence && isBlankLine line && opensBlock rest then true
    else gapIn inFence rest

def hasGap : List Line → Bool
  | [] => false
  | first :: rest => gapIn (isFence first) rest

def paragraphTail : List Line → List Line × Option Nat
  | [] => ([], none)
  | line :: rest =>
    if isBlankLine line then ([], none)
    else match underline? line with
      | some level => ([], some level)
      | none =>
        if startsBlock line then ([], none)
        else
          let (lines, level) := paragraphTail rest
          (trimLeft isBlank line :: lines, level)

end MarkdownOutline.Block
