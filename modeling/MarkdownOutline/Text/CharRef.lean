import MarkdownOutline.Text.Category
import MarkdownOutline.Text.CharRef.LowerAL
import MarkdownOutline.Text.CharRef.LowerMZ
import MarkdownOutline.Text.CharRef.Upper

namespace MarkdownOutline.Text.CharRef

def namesFrom : Char → NameTable
  | 'A' => upperANames
  | 'B' => upperBNames
  | 'C' => upperCNames
  | 'D' => upperDNames
  | 'E' => upperENames
  | 'F' => upperFNames
  | 'G' => upperGNames
  | 'H' => upperHNames
  | 'I' => upperINames
  | 'J' => upperJNames
  | 'K' => upperKNames
  | 'L' => upperLNames
  | 'M' => upperMNames
  | 'N' => upperNNames
  | 'O' => upperONames
  | 'P' => upperPNames
  | 'Q' => upperQNames
  | 'R' => upperRNames
  | 'S' => upperSNames
  | 'T' => upperTNames
  | 'U' => upperUNames
  | 'V' => upperVNames
  | 'W' => upperWNames
  | 'X' => upperXNames
  | 'Y' => upperYNames
  | 'Z' => upperZNames
  | 'a' => lowerANames
  | 'b' => lowerBNames
  | 'c' => lowerCNames
  | 'd' => lowerDNames
  | 'e' => lowerENames
  | 'f' => lowerFNames
  | 'g' => lowerGNames
  | 'h' => lowerHNames
  | 'i' => lowerINames
  | 'j' => lowerJNames
  | 'k' => lowerKNames
  | 'l' => lowerLNames
  | 'm' => lowerMNames
  | 'n' => lowerNNames
  | 'o' => lowerONames
  | 'p' => lowerPNames
  | 'q' => lowerQNames
  | 'r' => lowerRNames
  | 's' => lowerSNames
  | 't' => lowerTNames
  | 'u' => lowerUNames
  | 'v' => lowerVNames
  | 'w' => lowerWNames
  | 'x' => lowerXNames
  | 'y' => lowerYNames
  | 'z' => lowerZNames
  | _ => []

def lookup (name : List Char) : Option (List Char) :=
  match name with
  | [] => none
  | c :: _ => ((namesFrom c).lookup (String.ofList name)).map String.toList

def remapped : List (Nat × Nat) :=
  [(0x0, 0xFFFD), (0xD, 0xD), (0x80, 0x20AC), (0x81, 0x81), (0x82, 0x201A), (0x83, 0x192),
   (0x84, 0x201E), (0x85, 0x2026), (0x86, 0x2020), (0x87, 0x2021), (0x88, 0x2C6),
   (0x89, 0x2030), (0x8A, 0x160), (0x8B, 0x2039), (0x8C, 0x152), (0x8D, 0x8D), (0x8E, 0x17D),
   (0x8F, 0x8F), (0x90, 0x90), (0x91, 0x2018), (0x92, 0x2019), (0x93, 0x201C), (0x94, 0x201D),
   (0x95, 0x2022), (0x96, 0x2013), (0x97, 0x2014), (0x98, 0x2DC), (0x99, 0x2122), (0x9A, 0x161),
   (0x9B, 0x203A), (0x9C, 0x153), (0x9D, 0x9D), (0x9E, 0x17E), (0x9F, 0x178)]

/-- Numbers of control characters and noncharacters, which denote nothing. -/
def isVoid (n : Nat) : Bool :=
  (1 ≤ n && n ≤ 0x8) || n == 0xB || (0xE ≤ n && n ≤ 0x1F) || (0x7F ≤ n && n ≤ 0x9F) ||
    (0xFDD0 ≤ n && n ≤ 0xFDEF) || 0xFFFE ≤ n % 0x10000

def ofNumber (n : Nat) : List Char :=
  match remapped.lookup n with
  | some m => [Char.ofNat m]
  | none =>
    if (0xD800 ≤ n && n ≤ 0xDFFF) || 0x10FFFF < n then ['\uFFFD']
    else if isVoid n then []
    else [Char.ofNat n]

/-- Reads the longest known name of at most `size` and at least two characters. -/
def ofLongestName (word : List Char) : Nat → Option (List Char)
  | 0 | 1 => none
  | size + 1 =>
    match lookup (word.take (size + 1)) with
    | some text => some (text ++ word.drop (size + 1))
    | none => ofLongestName word size

/-- A known name is also read without its `;`, even where it is only the beginning of a longer word; any
other word stays as it is. -/
def ofWord (word : List Char) : List Char :=
  match lookup word with
  | some text => text
  | none => (ofLongestName word (word.length - 1)).getD ('&' :: word)

/-- A decimal reference of so many digits, more than `maxDigits`, is not read. -/
structure NumeralTooLong where
  digits : Nat
  deriving DecidableEq

def isDecimal (c : Char) : Bool := '0' ≤ c && c ≤ '9'

def hexValue? (c : Char) : Option Nat :=
  if '0' ≤ c && c ≤ '9' then some (c.toNat - '0'.toNat)
  else if 'a' ≤ c && c ≤ 'f' then some (c.toNat - 'a'.toNat + 10)
  else if 'A' ≤ c && c ≤ 'F' then some (c.toNat - 'A'.toNat + 10)
  else none

def isHex (c : Char) : Bool := (hexValue? c).isSome

def valueOf (base : Nat) (digits : List Char) : Nat :=
  digits.foldl (fun n c => base * n + (hexValue? c).getD 0) 0

def isNameChar (c : Char) : Bool :=
  !(c = '\t' || c = '\n' || c = '\x0C' || c = ' ' || c = '<' || c = '&' || c = '#' || c = ';')

def maxNameLength : Nat := 32

inductive Reference where
  | decimal (digits : List Char)
  | hex (digits : List Char)
  | word (cs : List Char)
  deriving DecidableEq

def Reference.decode : Reference → Except NumeralTooLong (List Char)
  | .decimal digits =>
    if maxDigits < digits.length then .error ⟨digits.length⟩ else .ok (ofNumber (valueOf 10 digits))
  | .hex digits => .ok (ofNumber (valueOf 16 digits))
  | .word cs => .ok (ofWord cs)

def semicolon : List Char → Nat
  | ';' :: _ => 1
  | _ => 0

/-- The reference that follows an ampersand, with the number of characters that it takes. -/
def reference? (cs : List Char) : Option (Reference × Nat) :=
  match cs with
  | '#' :: rest =>
    let digits := rest.takeWhile isDecimal
    let size := digits.length
    if 0 < size then some (.decimal digits, 1 + size + semicolon (rest.drop size))
    else match rest with
      | x :: rest =>
        let digits := rest.takeWhile isHex
        let size := digits.length
        if (x = 'x' || x = 'X') && 0 < size then
          some (.hex digits, 2 + size + semicolon (rest.drop size))
        else none
      | [] => none
  | _ =>
    let name := (cs.take maxNameLength).takeWhile isNameChar
    let size := name.length
    if 0 < size then
      let taken := size + semicolon (cs.drop size)
      some (.word (cs.take taken), taken)
    else none

def decode (cs : List Char) : Except NumeralTooLong (List Char) :=
  match cs with
  | [] => .ok []
  | c :: rest =>
    if c = '&' then
      match reference? rest with
      | some (reference, taken) => do
        let text ← reference.decode
        return text ++ (← decode (rest.drop taken))
      | none => do return c :: (← decode rest)
    else do return c :: (← decode rest)
termination_by cs.length
decreasing_by all_goals simp only [List.length_drop, List.length_cons]; omega

end MarkdownOutline.Text.CharRef
