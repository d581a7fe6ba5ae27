import MarkdownOutline.Text.Case.Table

namespace MarkdownOutline.Text

def otherCase (runs : List CaseRun) (long : List (Nat × List Nat)) (c : Char) : List Char :=
  match long.lookup c.toNat with
  | some codes => codes.map Char.ofNat
  | none =>
    match runs.find? (·.contains c.toNat) with
    | some r => [Char.ofNat ((c.toNat : Int) + r.shift).toNat]
    | none => [c]

def lowerChar (c : Char) : List Char := otherCase lowerRuns longLower c

def upperChar (c : Char) : List Char := otherCase upperRuns longUpper c

def isCaseIgnorable (c : Char) : Bool := caseIgnorableRanges.contains c

def isCased (c : Char) : Bool := casedRanges.contains c

def startsCased (cs : List Char) : Bool :=
  match cs.dropWhile isCaseIgnorable with
  | [] => false
  | c :: _ => isCased c

def lowerSigma (afterCased : Bool) (rest : List Char) : Char :=
  if afterCased && !startsCased rest then 'ς' else 'σ'

def lowerFrom (afterCased : Bool) : List Char → List Char
  | [] => []
  | c :: cs =>
    let lowered := if c = 'Σ' then [lowerSigma afterCased cs] else lowerChar c
    lowered ++ lowerFrom (if isCaseIgnorable c then afterCased else isCased c) cs

def lower (cs : List Char) : List Char := lowerFrom false cs

def upper (cs : List Char) : List Char := cs.flatMap upperChar

def upperCase (s : String) : String := String.ofList (upper s.toList)

end MarkdownOutline.Text
