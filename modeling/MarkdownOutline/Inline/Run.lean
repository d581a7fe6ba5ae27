import MarkdownOutline.Document.Node
import MarkdownOutline.Text.Category

namespace MarkdownOutline.Inline

open Text

inductive Bond where
  | emphasis
  | strong
  | strikethrough
  deriving DecidableEq

namespace Bond

def width : Bond → Nat
  | emphasis => 1
  | strong | strikethrough => 2

def branch : Bond → Branch
  | emphasis => .emphasis
  | strong => .strong
  | strikethrough => .strikethrough

theorem width_pos (bond : Bond) : 0 < bond.width := by
  cases bond <;> decide

end Bond

/-- A run with the bonds that it opens, the outermost first, and the number of those that it
closes. -/
structure Run where
  mark : Char
  length : Nat
  canOpen : Bool
  canClose : Bool
  left : Nat := length
  opens : List Bond := []
  closes : Nat := 0
  deriving DecidableEq

structure Flanks where
  left : Bool
  right : Bool

/-- A side without a character counts as white space. -/
def flanks (before after : Option Char) : Flanks where
  left := !after.all isBlank &&
    (!after.any isPunctuation || before.all isBlank || before.any isPunctuation)
  right := !before.all isBlank &&
    (!before.any isPunctuation || after.all isBlank || after.any isPunctuation)

/-- Low lines inside a word neither open nor close. -/
def Run.between (mark : Char) (length : Nat) (before after : Option Char) : Run :=
  let f := flanks before after
  if mark = '_' then
    { mark, length
      canOpen := f.left && (!f.right || before.any isPunctuation)
      canClose := f.right && (!f.left || after.any isPunctuation) }
  else { mark, length, canOpen := f.left, canClose := f.right }

namespace Run

/-- The rule of three: runs that may do both pair only if their lengths do not add up to a multiple
of three, unless both are multiples themselves. -/
def fits (opener closer : Run) : Bool :=
  closer.mark = '~' || !(opener.canClose || closer.canOpen) ||
    (opener.length + closer.length) % 3 != 0 ||
    (opener.length % 3 == 0 && closer.length % 3 == 0)

def bond? (opener closer : Run) : Option Bond :=
  let both := 2 ≤ opener.left && 2 ≤ closer.left
  if closer.mark = '~' then (if both then some .strikethrough else none)
  else if both then some .strong
  else some .emphasis

def openBond (run : Run) (bond : Bond) : Run :=
  { run with left := run.left - bond.width, opens := bond :: run.opens }

def closeBond (run : Run) (bond : Bond) : Run :=
  { run with left := run.left - bond.width, closes := run.closes + 1 }

theorem left_closeBond_lt (run : Run) (bond : Bond) (h : run.left ≠ 0) :
    (run.closeBond bond).left < run.left := by
  have := bond.width_pos
  simp only [closeBond]
  omega

end Run

end MarkdownOutline.Inline
