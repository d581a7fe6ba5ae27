import MarkdownOutline.Source
import MarkdownOutline.Text.Category

namespace MarkdownOutline.Text

theorem ne_of_isAsciiPunctuation {c d : Char} (hc : isAsciiPunctuation c = false)
    (hd : isAsciiPunctuation d = true) : c ≠ d := by
  rintro rfl
  rw [hc] at hd
  cases hd

theorem ne_of_isBlank {c d : Char} (hc : isBlank c = false) (hd : isBlank d = true) : c ≠ d := by
  rintro rfl
  rw [hc] at hd
  cases hd

/-- A line that fills its place: no white space begins or ends it, and it holds no tab and no line
ending. -/
structure IsSolid (line : List Char) : Prop where
  ne_nil : line ≠ []
  first : ∀ c ∈ line.head?, isBlank c = false
  last : ∀ c ∈ line.getLast?, isBlank c = false
  no_control : ∀ c ∈ line, c ≠ '\t' ∧ c ≠ '\n' ∧ c ≠ '\r'

theorem IsSolid.newline_not_mem {line : List Char} (h : IsSolid line) : '\n' ∉ line :=
  fun hmem => (h.no_control _ hmem).2.1 rfl

/-- Looks at the characters of the line only; a search through all characters would not end. -/
instance (line : List Char) : Decidable (IsSolid line) :=
  decidable_of_iff (line ≠ [] ∧ line.head?.all (fun c => !isBlank c) = true ∧
      line.getLast?.all (fun c => !isBlank c) = true ∧
      line.all (fun c => c != '\t' && c != '\n' && c != '\r') = true) <| by
    simp only [Option.all_eq_true, List.all_eq_true, Bool.not_eq_true', Bool.and_eq_true,
      bne_iff_ne, and_assoc]
    exact ⟨fun ⟨h, h₁, h₂, h₃⟩ => ⟨h, h₁, h₂, h₃⟩, fun ⟨h, h₁, h₂, h₃⟩ => ⟨h, h₁, h₂, h₃⟩⟩

def backslashChar (c : Char) : List Char := if isAsciiPunctuation c then ['\\', c] else [c]

def backslash (cs : List Char) : List Char := cs.flatMap backslashChar

@[simp] theorem backslash_nil : backslash [] = [] := rfl

@[simp] theorem backslash_cons (c : Char) (cs : List Char) :
    backslash (c :: cs) = backslashChar c ++ backslash cs := rfl

@[simp] theorem backslash_append (cs ds : List Char) :
    backslash (cs ++ ds) = backslash cs ++ backslash ds := List.flatMap_append

theorem backslashChar_cases (c : Char) :
    isAsciiPunctuation c = true ∧ backslashChar c = ['\\', c] ∨
      isAsciiPunctuation c = false ∧ backslashChar c = [c] := by
  rw [backslashChar]
  cases h : isAsciiPunctuation c with
  | true => exact .inl ⟨rfl, rfl⟩
  | false => exact .inr ⟨rfl, rfl⟩

/-- A backslash is added to marks only, so no other character appears or vanishes. -/
theorem mem_backslash {c : Char} (hc : isAsciiPunctuation c = false) {cs : List Char} :
    c ∈ backslash cs ↔ c ∈ cs := by
  have hchar (d : Char) : c ∈ backslashChar d ↔ c = d := by
    have hslash : c ≠ '\\' := ne_of_isAsciiPunctuation hc rfl
    rcases backslashChar_cases d with ⟨_, hd⟩ | ⟨_, hd⟩ <;> simp [hd, hslash]
  simp [backslash, List.mem_flatMap, hchar]

theorem getLast?_backslash (cs : List Char) : (backslash cs).getLast? = cs.getLast? := by
  rcases List.eq_nil_or_concat cs with rfl | ⟨cs, c, rfl⟩
  · rfl
  · rcases backslashChar_cases c with ⟨_, hc⟩ | ⟨_, hc⟩ <;> simp [hc]

theorem joinLines_map_backslash (lines : List (List Char)) :
    joinLines (lines.map backslash) = backslash (joinLines lines) := by
  induction lines with
  | nil => rfl
  | cons line rest ih =>
      cases rest with
      | nil => rw [List.map_singleton, joinLines_singleton, joinLines_singleton]
      | cons next rest =>
          have hne : (next :: rest).map backslash ≠ [] := List.cons_ne_nil _ _
          rw [List.map_cons, joinLines_cons hne, ih, joinLines_cons (List.cons_ne_nil _ _),
            backslash_append, backslash_cons]
          rfl

/-- Every mark stands behind a backslash of its own. -/
inductive Guarded : List Char → Prop
  | nil : Guarded []
  | plain {c cs} : isAsciiPunctuation c = false → Guarded cs → Guarded (c :: cs)
  | mark {c cs} : isAsciiPunctuation c = true → Guarded cs → Guarded ('\\' :: c :: cs)

theorem guarded_backslash (cs : List Char) : Guarded (backslash cs) := by
  induction cs with
  | nil => exact .nil
  | cons c cs ih =>
      rw [backslash_cons]
      rcases backslashChar_cases c with ⟨hc, h⟩ | ⟨hc, h⟩
      · rw [h]
        exact .mark hc ih
      · rw [h]
        exact .plain hc ih

namespace Guarded

variable {c d : Char} {cs ds : List Char}

/-- The only mark that can stand in front is a backslash. -/
theorem head_ne (h : Guarded (c :: cs)) (hd : isAsciiPunctuation d = true) (hslash : d ≠ '\\') :
    c ≠ d := by
  cases h with
  | plain hc _ => exact ne_of_isAsciiPunctuation hc hd
  | mark _ _ => exact hslash.symm

theorem tail (h : Guarded (c :: cs)) (hc : c ≠ '\\') : Guarded cs := by
  cases h with
  | plain _ h => exact h
  | mark _ _ => exact absurd rfl hc

theorem dropWhile {p : Char → Bool} (hp : p '\\' = false) (h : Guarded cs) :
    Guarded (cs.dropWhile p) := by
  induction h with
  | nil => exact .nil
  | @plain c cs hc h ih =>
      rw [List.dropWhile_cons]
      split
      · exact ih
      · exact .plain hc h
  | mark hc h _ =>
      rw [List.dropWhile_cons, hp]
      exact .mark hc h

/-- The closing bracket of a marker would need a backslash in front of it. -/
theorem afterMarker?_eq_none (h : Guarded cs) : Source.afterMarker? cs = none := by
  have hmarker {rest : List Char} (hrest : Guarded rest) : "TOC]".toList.isPrefixOf rest = false := by
    rw [Bool.eq_false_iff, ne_eq, List.isPrefixOf_iff_prefix]
    rintro ⟨more, rfl⟩
    have hclosing : Guarded (']' :: more) := ((hrest.tail (by decide)).tail (by decide)).tail (by decide)
    exact hclosing.head_ne rfl (by decide) rfl
  induction h with
  | nil => rfl
  | @plain c cs hc _ ih =>
      have hbracket : '[' ≠ c := (ne_of_isAsciiPunctuation hc rfl).symm
      rw [Source.afterMarker?, if_neg (by simp [Source.marker, List.isPrefixOf, hbracket]), ih]
  | @mark c cs _ h ih =>
      rw [Source.afterMarker?, if_neg (by simp [Source.marker, List.isPrefixOf]), Source.afterMarker?,
        if_neg, ih]
      intro hprefix
      have htail := hmarker h
      simp only [Source.marker, String.reduceToList, List.isPrefixOf, Bool.and_eq_true] at hprefix htail
      rw [htail] at hprefix
      cases hprefix.2

end Guarded

theorem prepareChars_backslash {cs : List Char} (h : '\r' ∉ cs) :
    Source.prepareChars (backslash cs) = backslash cs := by
  have hreturn : '\r' ∉ backslash cs := fun hmem => h ((mem_backslash rfl).1 hmem)
  rw [Source.prepareChars, foldNewlines_eq_self hreturn, Source.cutMarker,
    (guarded_backslash cs).afterMarker?_eq_none]

end MarkdownOutline.Text
