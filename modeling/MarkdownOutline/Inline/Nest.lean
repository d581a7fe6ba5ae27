import MarkdownOutline.Inline.Pairing

namespace MarkdownOutline.Inline

inductive Piece where
  | text (cs : List Char)
  | node (node : Node)
  | run (run : Run)

def Piece.run? : Piece → Option Run
  | .run r => some r
  | _ => none

def withRuns : List Piece → List Run → List Piece
  | [], _ => []
  | .run _ :: pieces, run :: runs => .run run :: withRuns pieces runs
  | piece :: pieces, runs => piece :: withRuns pieces runs

inductive Part where
  | text (cs : List Char)
  | node (node : Node)

def joinTexts : List Part → List Part
  | [] => []
  | .text cs :: parts =>
    match joinTexts parts with
    | .text more :: rest => .text (cs ++ more) :: rest
    | rest => .text cs :: rest
  | part :: parts => part :: joinTexts parts

/-- What has been built: the finished parts and, innermost first, the open bonds with their parts.
Parts are kept newest first. -/
structure Nest where
  base : List Part := []
  bonds : List (Bond × List Part) := []

section

variable (loc : Location)

def Part.toNode : Part → Node
  | .text cs => .leaf loc (.text (String.ofList cs))
  | .node n => n

def nodes (parts : List Part) : List Node := (joinTexts parts).map fun part => part.toNode loc

namespace Nest

def add (nest : Nest) (part : Part) : Nest :=
  match nest.bonds with
  | [] => { nest with base := part :: nest.base }
  | (bond, parts) :: outer => { nest with bonds := (bond, part :: parts) :: outer }

def enter (nest : Nest) (bond : Bond) : Nest := { nest with bonds := (bond, []) :: nest.bonds }

def leave (nest : Nest) : Nest :=
  match nest.bonds with
  | [] => nest
  | (bond, parts) :: outer =>
    add { nest with bonds := outer } (.node (.branch loc bond.branch (nodes loc parts.reverse)))

def addRun (nest : Nest) (run : Run) : Nest :=
  let nest := run.closes.repeat (leave loc) nest
  let nest := if run.left = 0 then nest else nest.add (.text (List.replicate run.left run.mark))
  run.opens.foldl enter nest

def addPiece (nest : Nest) : Piece → Nest
  | .text cs => nest.add (.text cs)
  | .node node => nest.add (.node node)
  | .run run => nest.addRun loc run

end Nest

def assemble (pieces : List Piece) : List Node :=
  let paired := withRuns pieces (pairRuns (pieces.filterMap Piece.run?))
  nodes loc (paired.foldl (Nest.addPiece loc) {}).base.reverse

end

end MarkdownOutline.Inline
