import MarkdownOutline.Inline.Read

namespace MarkdownOutline.Scoped.Inline

open MarkdownOutline.Inline

abbrev Reader := List Char → ScopeM (List Node)

def reference? (c : Char) (rest : List Char) : Option Reference :=
  if c = '[' then (link? rest).map Prod.fst
  else if c = '!' && rest.head? == some '[' then (link? rest.tail).map Prod.fst
  else none

section

variable (settings : Settings) (loc : Location) (label : Option Reader)

/-- The label of the link or image at `c`, without which both are plain text. -/
def readLabel? (c : Char) (rest : List Char) : ScopeM (Option (List Node)) :=
  match label, reference? c rest with
  | some reader, some reference => do return some (← reader reference.label)
  | _, _ => return none

def step (before : Option Char) (c : Char) (rest : List Char) : ScopeM Step := do
  let children ← readLabel? label c rest
  return MarkdownOutline.Inline.step ⟨settings, loc, children.map fun nodes _ => nodes⟩ before c rest

def scanFrom (before : Option Char) (pending : Option (List Char)) (cs : List Char) :
    ScopeM (List Piece) :=
  match cs with
  | [] => return flush pending
  | c :: rest => do
    let s ← step settings loc label before c rest
    let last := some ((rest.take s.taken).getLastD c)
    match s.found with
    | .text text => scanFrom last (some (text.reverse ++ pending.getD [])) (rest.drop s.taken)
    | .piece piece =>
      let more ← scanFrom last none (rest.drop s.taken)
      return flush pending ++ piece :: more
    | .newline =>
      let more ← scanFrom last none (rest.drop s.taken)
      return newlinePieces ⟨settings, loc, none⟩ pending ++ more
termination_by cs.length
decreasing_by all_goals simp only [List.length_drop, List.length_cons]; omega

end

section

variable (loc : Location)

def readWith (label : Option Reader) (cs : List Char) : ScopeM (List Node) := do
  let pieces ← scanFrom (← ScopeM.settings) loc label none none cs
  return assemble loc pieces

def readWithin : Nat → Reader
  | 0 => readWith loc none
  | room + 1 => readWith loc (some (readWithin room))

def read : Reader := readWithin loc maxLabelNesting

end

end MarkdownOutline.Scoped.Inline
