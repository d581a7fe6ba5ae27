import MarkdownOutline.Document.Node
import MarkdownOutline.Inline.Angle
import MarkdownOutline.Inline.Link
import MarkdownOutline.Inline.Nest
import MarkdownOutline.Settings
import MarkdownOutline.Text.CharRef

namespace MarkdownOutline.Inline

open Text

section

open Text.CharRef

def endsAt (cs : List Char) (size : Nat) : Bool := (cs.drop size).head? == some ';'

/-- The text of a reference whose ampersand stands in front of `cs`, and the number of characters of
`cs` that it takes. An unknown name is its own text. -/
def entity? (cs : List Char) : Option (List Char × Nat) :=
  match cs with
  | '#' :: rest =>
    let digits := rest.takeWhile isDecimal
    if 1 ≤ digits.length && digits.length ≤ 7 && endsAt rest digits.length then
      some (ofNumber (valueOf 10 digits), digits.length + 2)
    else match rest with
      | x :: rest =>
        let digits := rest.takeWhile isHex
        if (x = 'x' || x = 'X') && 1 ≤ digits.length && digits.length ≤ 6 &&
            endsAt rest digits.length then
          some (ofNumber (valueOf 16 digits), digits.length + 3)
        else none
      | [] => none
  | c :: rest =>
    let name := rest.takeWhile Char.isAlphanum
    if c.isAlpha && 1 ≤ name.length && name.length ≤ 31 && endsAt rest name.length then
      some (ofWord (c :: name ++ [';']), name.length + 2)
    else none
  | [] => none

end

/-- The settings, the location of all nodes, and the reader of labels; without a reader, links and
images are plain text. -/
structure Context where
  settings : Settings
  loc : Location
  label : Option (List Char → List Node)

inductive Found where
  | text (cs : List Char)
  | piece (piece : Piece)
  /-- A newline, which breaks the line hard behind two spaces and else softly. -/
  | newline

structure Step where
  found : Found
  taken : Nat

def isIndent (c : Char) : Bool := c = ' ' || c = '\t'

def indentLength (cs : List Char) : Nat := (cs.takeWhile isIndent).length

section

variable (ctx : Context)

def leafStep (content : Leaf) (taken : Nat) : Step :=
  ⟨.piece (.node (.leaf ctx.loc content)), taken⟩

def escapeStep (rest : List Char) : Step :=
  match rest with
  | '\n' :: rest => leafStep ctx .lineBreak (1 + indentLength rest)
  | c :: _ => if isAsciiPunctuation c then ⟨.text [c], 1⟩ else ⟨.text ['\\'], 0⟩
  | [] => ⟨.text ['\\'], 0⟩

def codeStep (rest : List Char) : Step :=
  match codeSpan? rest with
  | some (code, taken) => leafStep ctx (.codeSpan (String.ofList code)) taken
  | none =>
    let more := countLeading '`' rest
    ⟨.text (List.replicate (more + 1) '`'), more⟩

def runStep (before : Option Char) (mark : Char) (rest : List Char) : Step :=
  let more := countLeading mark rest
  ⟨.piece (.run (Run.between mark (more + 1) before (rest.drop more).head?)), more⟩

def readLink? (rest : List Char) : Option (Reference × List Node × Nat) := do
  let label ← ctx.label
  let (reference, taken) ← link? rest
  return (reference, label reference.label, taken)

def linkStep (rest : List Char) : Step :=
  match readLink? ctx rest with
  | some (reference, children, taken) =>
    let shape := Branch.link (String.ofList reference.target.url)
      (reference.target.title.map String.ofList)
    ⟨.piece (.node (.branch ctx.loc shape children)), taken⟩
  | none => ⟨.text ['['], 0⟩

def imageStep (rest : List Char) : Step :=
  match readLink? ctx rest.tail with
  | some (reference, children, taken) =>
    let content := Leaf.image (String.ofList reference.target.url) (plainTexts children)
      (reference.target.title.map String.ofList)
    leafStep ctx content (taken + 1)
  | none => ⟨.text ['!', '['], 1⟩

def autolinkStep (url label : List Char) : Step :=
  let text := Node.leaf ctx.loc (.text (String.ofList label))
  ⟨.piece (.node (.branch ctx.loc (.link (String.ofList url) none) [text])), label.length + 1⟩

def readAutolink? (rest : List Char) : Option Step :=
  match autolink? rest with
  | some url => some (autolinkStep ctx url url)
  | none => (mailAddress? rest).map fun address =>
    autolinkStep ctx ("mailto:".toList ++ address) address

def readTag? (rest : List Char) : Option Step :=
  (tagLength? rest).map fun size =>
    leafStep ctx (.htmlInline (String.ofList ('<' :: rest.take size))) size

def angleStep (rest : List Char) : Step :=
  let address := if ctx.settings.autolinks then readAutolink? ctx rest else none
  let tag := if ctx.settings.inlineHtml then readTag? ctx rest else none
  (address.or tag).getD ⟨.text ['<'], 0⟩

def entityStep (rest : List Char) : Step :=
  match entity? rest with
  | some (cs, taken) => ⟨.text cs, taken⟩
  | none => ⟨.text ['&'], 0⟩

def step (before : Option Char) (c : Char) (rest : List Char) : Step :=
  if c = '\\' then escapeStep ctx rest
  else if c = '`' then codeStep ctx rest
  else if c = '*' || c = '_' || (c = '~' && ctx.settings.strikethrough) then runStep before c rest
  else if c = '!' && rest.head? == some '[' then imageStep ctx rest
  else if c = '[' then linkStep ctx rest
  else if c = '<' then angleStep ctx rest
  else if c = '&' then entityStep rest
  else if c = '\n' then ⟨.newline, indentLength rest⟩
  else ⟨.text [c], 0⟩

/-- Pending text is kept backwards. -/
def flush : Option (List Char) → List Piece
  | none => []
  | some cs => [.text cs.reverse]

def newlinePieces (pending : Option (List Char)) : List Piece :=
  let cs := pending.getD []
  let stripped := cs.dropWhile (· = ' ')
  let content := if stripped.length + 2 ≤ cs.length then Leaf.lineBreak else .softBreak
  flush (if stripped.isEmpty then none else some stripped) ++ [.node (.leaf ctx.loc content)]

def scanFrom (before : Option Char) (pending : Option (List Char)) (cs : List Char) : List Piece :=
  match cs with
  | [] => flush pending
  | c :: rest =>
    let s := step ctx before c rest
    let last := some ((rest.take s.taken).getLastD c)
    match s.found with
    | .text text => scanFrom last (some (text.reverse ++ pending.getD [])) (rest.drop s.taken)
    | .piece piece => flush pending ++ piece :: scanFrom last none (rest.drop s.taken)
    | .newline => newlinePieces ctx pending ++ scanFrom last none (rest.drop s.taken)
termination_by cs.length
decreasing_by all_goals simp only [List.length_drop, List.length_cons]; omega

def scan (cs : List Char) : List Piece := scanFrom ctx none none cs

end

def maxLabelNesting : Nat := 32

section

variable (settings : Settings) (loc : Location)

/-- Reads text in which labels may nest `room` deep. -/
def readWithin : Nat → List Char → List Node
  | 0, cs => assemble loc (scan ⟨settings, loc, none⟩ cs)
  | room + 1, cs => assemble loc (scan ⟨settings, loc, some (readWithin room)⟩ cs)

def readAt (depth : Int) (cs : List Char) : List Node :=
  readWithin settings loc (maxLabelNesting - depth).toNat cs

def read (cs : List Char) : List Node := readWithin settings loc maxLabelNesting cs

end

end MarkdownOutline.Inline
