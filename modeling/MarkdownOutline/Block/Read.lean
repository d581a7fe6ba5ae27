import MarkdownOutline.Block.Marker
import MarkdownOutline.Error
import MarkdownOutline.Inline.Read
import MarkdownOutline.Source

namespace MarkdownOutline.Block

open Text

abbrev Reader := Int → List Line → Except ParseError (List Node)

def maxNesting : Nat := 64

def tooDeep (file : Option String) (line : Int) : ParseError where
  reason := "container nesting deeper than " ++ toString maxNesting ++ " levels"
  line := some line
  file := file

structure Context where
  settings : Settings
  file : Option String
  inner : Reader

structure Taken where
  node : Node
  more : Nat

section

variable (ctx : Context)

def Context.at (line : Int) : Location := { line, column := 1, file := ctx.file }

def Context.span (line : Int) (more : Nat) : Location := (ctx.at line).through (line + more)

def headingNode (loc : Location) (heading : Heading) (text : Line) : Node :=
  .branch loc (.heading heading) (Inline.read ctx.settings loc text)

def atxNode (line : Int) (level : Nat) (content : Line) : Node :=
  let (text, id) := if ctx.settings.headingIds then splitId content else (content, none)
  headingNode ctx (ctx.at line) { level, explicitId := id.map String.ofList } text

def fenceBlock (line : Int) (fence : Fence) (rest : List Line) : Taken :=
  let (code, more) := fence.body rest
  let content := Leaf.codeBlock (String.ofList (codeText code)) (fence.info?.map String.ofList) true
  ⟨.leaf (ctx.span line more) content, more⟩

def indentedBlock (line : Int) (first : Line) (rest : List Line) : Taken :=
  let tail := rest.takeWhile isCodeLine
  let code := String.ofList (indentedCode (first :: tail))
  ⟨.leaf (ctx.span line tail.length) (.codeBlock code none false), tail.length⟩

def htmlBlock (line : Int) (first : Line) (rest : List Line) : Taken :=
  let tail := rest.takeWhile fun l => !isBlankLine l
  let html := String.ofList (joinLines (first :: tail))
  ⟨.leaf (ctx.span line tail.length) (.htmlBlock html), tail.length⟩

def paragraphBlock (line : Int) (first : Line) (rest : List Line) : Taken :=
  let (tail, level) := paragraphTail rest
  let text := joinLines (trimLeft isBlank first :: tail)
  match level with
  | some level =>
    let loc := ctx.span line (tail.length + 1)
    ⟨headingNode ctx loc { level, style := .setext } (trim isBlank text), tail.length + 1⟩
  | none =>
    let loc := ctx.span line tail.length
    ⟨.branch loc .paragraph (Inline.read ctx.settings loc (trimRight isBlank text)), tail.length⟩

def quoteBlock (line : Int) (first : Line) (rest : List Line) : Except ParseError Taken := do
  let tail := quoteTail (!isBlankLine first) rest
  let children ← ctx.inner line (first :: tail)
  return ⟨.branch (ctx.span line tail.length) .blockQuote children, tail.length⟩

structure Items where
  nodes : List Node := []
  lines : Nat := 0
  loose : Bool := false

def readItems (bullet : Bullet) (line : Int) (lines : List Line) : Except ParseError Items :=
  match lines with
  | [] => return {}
  | first :: rest =>
    match sibling? bullet first with
    | none => return {}
    | some m => do
      let tail := itemTail m.column (!isBlankLine m.content) rest
      let kept := dropTrailingBlank (m.content :: tail)
      let trailing := tail.length + 1 - kept.length
      let after := rest.drop tail.length
      let children ← ctx.inner line kept
      let last := line + tail.length - trailing
      let item := Node.branch ((ctx.at line).through last) .listItem children
      let apart := 0 < trailing && (after.head?.bind marker?).any fun next => next.bullet = bullet
      let items ← readItems bullet (line + tail.length + 1) after
      let loose := apart || hasGap kept || items.loose
      return ⟨item :: items.nodes, tail.length + 1 + items.lines, loose⟩
termination_by lines.length
decreasing_by simp only [List.length_drop, List.length_cons]; omega

def listBlock (line : Int) (m : Marker) (lines : List Line) : Except ParseError Taken := do
  let items ← readItems ctx m.bullet line lines
  let ordered := m.bullet.isOrdered
  let shape := Branch.list ordered (if ordered then m.number else 1) (!items.loose)
  let more := items.lines - 1
  return ⟨.branch (ctx.span line more) shape items.nodes, more⟩

def readBlock (line : Int) (first : Line) (rest : List Line) : Except ParseError Taken :=
  match fence? first with
  | some fence => return fenceBlock ctx line fence rest
  | none =>
  match atx? first with
  | some (level, content) => return ⟨atxNode ctx line level content, 0⟩
  | none =>
  if isThematic first then return ⟨.leaf (ctx.at line) .thematicBreak, 0⟩
  else match unquote? first with
  | some inner => quoteBlock ctx line inner rest
  | none =>
  match marker? first with
  | some m => listBlock ctx line m (first :: rest)
  | none =>
  if codeIndent ≤ indentOf first then return indentedBlock ctx line first rest
  else if isHtmlStart first then return htmlBlock ctx line first rest
  else return paragraphBlock ctx line first rest

def readBlocks (line : Int) (lines : List Line) : Except ParseError (List Node) :=
  match lines with
  | [] => return []
  | first :: rest =>
    if isBlankLine first then readBlocks (line + 1) rest
    else do
      let block ← readBlock ctx line first rest
      let blocks ← readBlocks (line + 1 + block.more) (rest.drop block.more)
      return block.node :: blocks
termination_by lines.length
decreasing_by all_goals simp only [List.length_drop, List.length_cons]; omega

/-- Like `readBlocks`, with the title block that lines with percent signs make at the start. -/
def readTitled (line : Int) (lines : List Line) : Except ParseError (List Node) :=
  let parts := (lines.map titleLine?).takeWhile Option.isSome
  if parts.isEmpty then readBlocks ctx line lines
  else do
    let more := parts.length - 1
    let heading : Heading := { isTitle := true, style := .title }
    let title := headingNode ctx (ctx.span line more) heading (titleText (parts.filterMap id))
    let blocks ← readBlocks ctx (line + parts.length) (lines.drop parts.length)
    return title :: blocks

end

section

variable (settings : Settings) (file : Option String)

/-- Reads lines in which containers may nest `room` deep, their own level included. Only the
outermost level has a title block. -/
def readWithin : Nat → Reader
  | 0, line, _ => throw (tooDeep file line)
  | room + 1, line, lines =>
    let ctx : Context := ⟨settings, file, readWithin room⟩
    let lines := dropEmptyLast lines
    if room = maxNesting && settings.titleBlock then readTitled ctx line lines
    else readBlocks ctx line lines

def readAt (offset depth : Int) (text : List Char) : Except ParseError (List Node) :=
  readWithin settings file (maxNesting + 1 - depth).toNat (offset + 1)
    ((splitLines text).map fun line => expandTabs line)

def read (text : List Char) : Except ParseError (List Node) := readAt settings file 0 0 text

end

end MarkdownOutline.Block

namespace MarkdownOutline

def parse (settings : Settings) (file : Option String) (source : String) :
    Except ParseError Node := do
  let text := Source.prepareChars source.toList
  let blocks ← Block.read settings file text
  let last := text.count '\n' + 1
  let loc : Location := { line := 1, column := 1, endLine := some last, file }
  return .branch loc .document blocks

end MarkdownOutline
