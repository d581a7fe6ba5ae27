import MarkdownOutline.Text.Category

namespace MarkdownOutline.Inline

open Text

def countLeading (c : Char) (cs : List Char) : Nat := (cs.takeWhile (· = c)).length

def beforeRun? (size : Nat) (cs : List Char) : Option (List Char) :=
  match cs with
  | [] => none
  | c :: rest =>
    if c = '`' then
      let more := countLeading '`' rest
      if more + 1 = size then some []
      else (beforeRun? size (rest.drop more)).map (List.replicate (more + 1) '`' ++ ·)
    else (beforeRun? size rest).map (c :: ·)
termination_by cs.length
decreasing_by all_goals simp only [List.length_drop, List.length_cons]; omega

/-- Newlines become spaces; one space goes from each end if both have one and there is more than
spaces. -/
def codeOf (cs : List Char) : List Char :=
  let cs := cs.map fun c => if c = '\n' then ' ' else c
  if 2 < cs.length && cs.head? == some ' ' && cs.getLast? == some ' ' && cs.any (· != ' ') then
    cs.tail.dropLast
  else cs

def codeSpan? (cs : List Char) : Option (List Char × Nat) :=
  let more := countLeading '`' cs
  (beforeRun? (more + 1) (cs.drop more)).map fun text =>
    (codeOf text, more + text.length + (more + 1))

/-- The distance to the first place where `size` backticks stand. -/
def toBackticks? (size : Nat) : List Char → Option Nat
  | [] => none
  | c :: cs =>
    if (List.replicate size '`').isPrefixOf (c :: cs) then some 0
    else (toBackticks? size cs).map (· + 1)

/-- How many characters a backtick in front of `cs` hides from the search for brackets: its run, and
all up to the end of the next run of that length, if there is one. -/
def hiddenByBacktick (cs : List Char) : Nat :=
  let more := countLeading '`' cs
  match toBackticks? (more + 1) (cs.drop more) with
  | some distance => more + distance + (more + 1)
  | none => more

/-- The distance to the bracket that closes the innermost of `depth + 1` open ones and all of them.
-/
def toClosingBracket? (depth : Nat) (cs : List Char) : Option Nat :=
  match cs with
  | [] => none
  | c :: rest =>
    if c = '\\' then (toClosingBracket? depth (rest.drop 1)).map (· + 2)
    else if c = '`' then
      let hidden := hiddenByBacktick rest
      (toClosingBracket? depth (rest.drop hidden)).map (· + (hidden + 1))
    else if c = '[' then (toClosingBracket? (depth + 1) rest).map (· + 1)
    else if c = ']' then
      match depth with
      | 0 => some 0
      | depth + 1 => (toClosingBracket? depth rest).map (· + 1)
    else (toClosingBracket? depth rest).map (· + 1)
termination_by cs.length
decreasing_by all_goals simp only [List.length_drop, List.length_cons]; omega

structure Target where
  url : List Char
  title : Option (List Char)
  deriving DecidableEq

def unescape : List Char → List Char
  | [] => []
  | '\\' :: c :: cs =>
    if isAsciiPunctuation c then c :: unescape cs else '\\' :: unescape (c :: cs)
  | c :: cs => c :: unescape cs

def isLinkSpace (c : Char) : Bool := c = ' ' || c = '\t' || c = '\n'

def skipLinkSpace (cs : List Char) : List Char := cs.dropWhile isLinkSpace

def bareLength (depth : Nat) : List Char → Nat
  | [] => 0
  | '\\' :: _ :: cs => bareLength depth cs + 2
  | c :: cs =>
    if isBlank c then 0
    else if c = '(' then bareLength (depth + 1) cs + 1
    else if c = ')' then
      match depth with
      | 0 => 0
      | depth + 1 => bareLength depth cs + 1
    else bareLength depth cs + 1

def destination? : List Char → Option (List Char × List Char)
  | '<' :: cs =>
    let url := cs.takeWhile (· != '>')
    if url.contains '\n' then none
    else match cs.drop url.length with
      | _ :: rest => some (url, rest)
      | [] => none
  | cs =>
    let size := bareLength 0 cs
    some (cs.take size, cs.drop size)

def titleLength? (closer : Char) : List Char → Option Nat
  | [] | ['\\'] => none
  | '\\' :: _ :: cs => (titleLength? closer cs).map (· + 2)
  | c :: cs => if c = closer then some 0 else (titleLength? closer cs).map (· + 1)

def titleCloser? : Char → Option Char
  | '"' => some '"'
  | '\'' => some '\''
  | '(' => some ')'
  | _ => none

/-- The title behind a destination, if space and a quote begin one, and what follows; `none` if the
title does not end. -/
def title? (cs : List Char) : Option (Option (List Char) × List Char) :=
  match skipLinkSpace cs with
  | [] => some (none, [])
  | c :: rest =>
    match (if rest.length + 1 < cs.length then titleCloser? c else none) with
    | none => some (none, c :: rest)
    | some closer =>
      (titleLength? closer rest).map fun size =>
        (some (unescape (rest.take size)), rest.drop (size + 1))

def target? (cs : List Char) : Option (Target × Nat) :=
  match cs with
  | '(' :: inner => do
    let (url, rest) ← destination? (skipLinkSpace inner)
    let (title, rest) ← title? rest
    match skipLinkSpace rest with
    | ')' :: after => some (⟨unescape url, title⟩, cs.length - after.length)
    | _ => none
  | _ => none

structure Reference where
  label : List Char
  target : Target

def link? (cs : List Char) : Option (Reference × Nat) := do
  let size ← toClosingBracket? 0 cs
  let (target, taken) ← target? (cs.drop (size + 1))
  return (⟨cs.take size, target⟩, size + 1 + taken)

end MarkdownOutline.Inline
