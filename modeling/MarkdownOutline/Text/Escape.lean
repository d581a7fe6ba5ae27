namespace MarkdownOutline.Text

def escapeChar : Char → List Char
  | '&' => "&amp;".toList
  | '<' => "&lt;".toList
  | '>' => "&gt;".toList
  | '"' => "&quot;".toList
  | c => [c]

def escapeChars (cs : List Char) : List Char := cs.flatMap escapeChar

def escapeHtml (s : String) : String := String.ofList (escapeChars s.toList)

@[simp] theorem escapeChars_nil : escapeChars [] = [] := rfl

theorem escapeChars_append (as bs : List Char) :
    escapeChars (as ++ bs) = escapeChars as ++ escapeChars bs := by
  simp [escapeChars]

def urlMarks : List Char := "_.-~/:?#[]@!$&'()*+,;=%".toList

def isUrlSafe (c : Char) : Bool := c.isAlphanum || urlMarks.contains c

def upperHexDigit (n : Nat) : Char :=
  Char.ofNat (if n < 10 then '0'.toNat + n else 'A'.toNat + (n - 10))

def percentByte (b : UInt8) : List Char :=
  ['%', upperHexDigit (b.toNat / 16), upperHexDigit (b.toNat % 16)]

def percentChar (c : Char) : List Char :=
  if isUrlSafe c then [c] else (String.utf8EncodeChar c).flatMap percentByte

def percentEncode (cs : List Char) : List Char := cs.flatMap percentChar

theorem percentEncode_append (as bs : List Char) :
    percentEncode (as ++ bs) = percentEncode as ++ percentEncode bs := by
  simp [percentEncode]

end MarkdownOutline.Text
