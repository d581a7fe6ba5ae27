import MarkdownOutline.Inline.Run

namespace MarkdownOutline.Inline

/-- The runs met so far, and for each mark the positions of those that may still open, the nearest first.
A pair cuts off every run between its two. -/
structure Pairing where
  runs : Array Run := #[]
  stars : List Nat := []
  lines : List Nat := []
  tildes : List Nat := []

namespace Pairing

def waiting (p : Pairing) (mark : Char) : List Nat :=
  if mark = '*' then p.stars else if mark = '_' then p.lines else p.tildes

def setWaiting (p : Pairing) (mark : Char) (stack : List Nat) : Pairing :=
  if mark = '*' then { p with stars := stack }
  else if mark = '_' then { p with lines := stack }
  else { p with tildes := stack }

def cut (p : Pairing) (i : Nat) : Pairing :=
  let upTo := List.dropWhile (i < ·)
  { p with stars := upTo p.stars, lines := upTo p.lines, tildes := upTo p.tildes }

def opener? (p : Pairing) (closer : Run) : Option (Nat × Run) :=
  (p.waiting closer.mark).findSome? fun i =>
    (p.runs[i]?).bind fun run => if run.fits closer then some (i, run) else none

def join (p : Pairing) (i : Nat) (opener : Run) (bond : Bond) : Pairing :=
  let opened := opener.openBond bond
  let p := { p.cut i with runs := p.runs.setIfInBounds i opened }
  if opened.left = 0 then p.setWaiting opener.mark (p.waiting opener.mark).tail else p

def close (p : Pairing) (closer : Run) : Pairing × Run :=
  if closer.left = 0 then (p, closer)
  else match p.opener? closer with
    | none => (p, closer)
    | some (i, opener) =>
      match opener.bond? closer with
      | none => (p, closer)
      | some bond => close (p.join i opener bond) (closer.closeBond bond)
termination_by closer.left
decreasing_by exact closer.left_closeBond_lt bond ‹_›

def wait (p : Pairing) (run : Run) : Pairing :=
  let i := p.runs.size
  let p := { p with runs := p.runs.push run }
  if run.left ≠ 0 && run.canOpen then p.setWaiting run.mark (i :: p.waiting run.mark) else p

def add (p : Pairing) (run : Run) : Pairing :=
  if run.canClose then
    let (p, run) := p.close run
    p.wait run
  else p.wait run

end Pairing

def pairRuns (runs : List Run) : List Run := (runs.foldl Pairing.add {}).runs.toList

end MarkdownOutline.Inline
