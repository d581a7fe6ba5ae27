import MarkdownOutline.Block.Read
import MarkdownOutline.Scoped.Inline

namespace MarkdownOutline.Scoped

abbrev ReadM := ExceptT ParseError ScopeM

namespace Block

open Text MarkdownOutline.Block

abbrev Reader := Int → List Line → ReadM (List Node)

structure Context where
  settings : Settings
  file : Option String
  inner : Reader

def Context.flat (ctx : Context) : MarkdownOutline.Block.Context :=
  ⟨ctx.settings, ctx.file, MarkdownOutline.Block.readWithin ctx.settings ctx.file 0⟩

def headingNode (loc : Location) (heading : Heading) (text : Line) : ScopeM Node := do
  return .branch loc (.heading heading) (← Inline.read loc text)

section

variable (ctx : Context)

def atxNode (line : Int) (level : Nat) (content : Line) : ScopeM Node :=
  let (text, id) := if ctx.settings.headingIds then splitId content else (content, none)
  headingNode (ctx.flat.at line) { level, explicitId := id.map String.ofList } text

def paragraphBlock (line : Int) (first : Line) (rest : List Line) : ScopeM Taken :=
  let (tail, level) := paragraphTail rest
  let text := joinLines (trimLeft isBlank first :: tail)
  match level with
  | some level => do
    let loc := ctx.flat.span line (tail.length + 1)
    return ⟨← headingNode loc { level, style := .setext } (trim isBlank text), tail.length + 1⟩
  | none => do
    let loc := ctx.flat.span line tail.length
    return ⟨.branch loc .paragraph (← Inline.read loc (trimRight isBlank text)), tail.length⟩

def quoteBlock (line : Int) (first : Line) (rest : List Line) : ReadM Taken := do
  let tail := quoteTail (!isBlankLine first) rest
  let children ← ctx.inner line (first :: tail)
  return ⟨.branch (ctx.flat.span line tail.length) .blockQuote children, tail.length⟩

def readItems (bullet : Bullet) (line : Int) (lines : List Line) : ReadM Items :=
  match lines with
  | [] => return {}
  | first :: rest =>
    match sibling? bullet first with
    | none => return {}
    | some m => do
      let tail := itemTail m.column (!isBlankLine m.content) rest
      let kept := dropTrailingBlank (m.content :: tail)
      let trailing := tail.length + 1 - kept.length
      let after := rest.drop tail.length
      let children ← ctx.inner line kept
      let last := line + tail.length - trailing
      let item := Node.branch ((ctx.flat.at line).through last) .listItem children
      let apart := 0 < trailing && (after.head?.bind marker?).any fun next => next.bullet = bullet
      let items ← readItems bullet (line + tail.length + 1) after
      let loose := apart || hasGap kept || items.loose
      return ⟨item :: items.nodes, tail.length + 1 + items.lines, loose⟩
termination_by lines.length
decreasing_by simp only [List.length_drop, List.length_cons]; omega

def listBlock (line : Int) (m : Marker) (lines : List Line) : ReadM Taken := do
  let items ← readItems ctx m.bullet line lines
  let ordered := m.bullet.isOrdered
  let shape := Branch.list ordered (if ordered then m.number else 1) (!items.loose)
  let more := items.lines - 1
  return ⟨.branch (ctx.flat.span line more) shape items.nodes, more⟩

def readBlock (line : Int) (first : Line) (rest : List Line) : ReadM Taken :=
  match fence? first with
  | some fence => return fenceBlock ctx.flat line fence rest
  | none =>
  match atx? first with
  | some (level, content) => do return ⟨← atxNode ctx line level content, 0⟩
  | none =>
  if isThematic first then return ⟨.leaf (ctx.flat.at line) .thematicBreak, 0⟩
  else match unquote? first with
  | some inner => quoteBlock ctx line inner rest
  | none =>
  match marker? first with
  | some m => listBlock ctx line m (first :: rest)
  | none =>
  if codeIndent ≤ indentOf first then return indentedBlock ctx.flat line first rest
  else if isHtmlStart first then return htmlBlock ctx.flat line first rest
  else paragraphBlock ctx line first rest

def readBlocks (line : Int) (lines : List Line) : ReadM (List Node) :=
  match lines with
  | [] => return []
  | first :: rest =>
    if isBlankLine first then readBlocks (line + 1) rest
    else do
      let block ← readBlock ctx line first rest
      let blocks ← readBlocks (line + 1 + block.more) (rest.drop block.more)
      return block.node :: blocks
termination_by lines.length
decreasing_by all_goals simp only [List.length_drop, List.length_cons]; omega

def readTitled (line : Int) (lines : List Line) : ReadM (List Node) :=
  let parts := (lines.map titleLine?).takeWhile Option.isSome
  if parts.isEmpty then readBlocks ctx line lines
  else do
    let more := parts.length - 1
    let heading : Heading := { isTitle := true, style := .title }
    let title ← headingNode (ctx.flat.span line more) heading (titleText (parts.filterMap id))
    let blocks ← readBlocks ctx (line + parts.length) (lines.drop parts.length)
    return title :: blocks

end

section

variable (file : Option String)

def readWithin : Nat → Reader
  | 0, line, _ => throw (tooDeep file line)
  | room + 1, line, lines => do
    let settings ← ScopeM.settings
    let ctx : Context := ⟨settings, file, readWithin room⟩
    let lines := dropEmptyLast lines
    if room = maxNesting && settings.titleBlock then readTitled ctx line lines
    else readBlocks ctx line lines

def read (text : List Char) : ReadM (List Node) :=
  readWithin file (maxNesting + 1) 1 ((splitLines text).map fun line => expandTabs line)

end

end Block

def parse (config : Option Settings) (file : Option String) (source : String) : ReadM Node := do
  let text := Source.prepareChars source.toList
  let settings ← ScopeM.settings
  let blocks ← ScopeM.within (config.getD settings) (Block.read file text)
  let last := text.count '\n' + 1
  let loc : Location := { line := 1, column := 1, endLine := some last, file }
  return .branch loc .document blocks

end MarkdownOutline.Scoped
