import Mathlib.Data.List.Forall2
import MarkdownOutline.Proofs.Block.Opener

namespace MarkdownOutline.Block

open Text

/-- What tells the lines of a container: the mark of a quote, or the column of an item's content. -/
inductive Layer where
  | quote
  | item (column : Nat)

namespace Layer

variable {layer : Layer} {afterText : Bool} {line inner first content : Line} {rest : List Line}

def own? : Layer → Line → Option Line
  | quote, line => unquote? line
  | item column, line =>
    if isBlankLine line then some []
    else if column ≤ indentOf line then some (line.drop column)
    else none

/-- A line that goes on with a paragraph and is not the container's own. -/
def lazy? : Layer → Line → Option Line
  | quote, line => if !isBlankLine line && !startsBlock line then some line else none
  | item _, line => if !startsBlock line && (marker? line).isNone then some (trim isBlank line) else none

def take? (layer : Layer) (afterText : Bool) (line : Line) : Option Line :=
  match layer.own? line with
  | some inner => some inner
  | none => if afterText then layer.lazy? line else none

def tail : Layer → Bool → List Line → List Line
  | quote => quoteTail
  | item column => itemTail column

theorem tail_nil (layer : Layer) (afterText : Bool) : layer.tail afterText [] = [] := by
  cases layer <;> rfl

/-- The lines go on as long as each is taken behind the one above. -/
theorem tail_cons (layer : Layer) (afterText : Bool) (line : Line) (rest : List Line) :
    layer.tail afterText (line :: rest) =
      match layer.take? afterText line with
      | some inner => inner :: layer.tail (!isBlankLine inner) rest
      | none => [] := by
  cases layer with
  | quote =>
      rw [tail, quoteTail, take?, own?]
      cases unquote? line with
      | some own => rfl
      | none =>
          cases hblank : isBlankLine line with
          | true => cases afterText <;> simp [lazy?, hblank]
          | false =>
              cases hstarts : startsBlock line with
              | true => cases afterText <;> simp [lazy?, hstarts]
              | false => cases afterText <;> simp [lazy?, hblank, hstarts]
  | item column =>
      rw [tail, itemTail, take?, own?]
      cases hblank : isBlankLine line with
      | true => rfl
      | false =>
          by_cases hindent : column ≤ indentOf line
          · simp [hindent]
          · by_cases hlazy : (!startsBlock line && (marker? line).isNone) = true
            · cases afterText <;> simp [hindent, lazy?, hlazy, isBlankLine_trim, hblank]
            · cases afterText <;> simp [hindent, lazy?, hlazy]

theorem tail_of_take? (h : layer.take? afterText line = some inner) (rest : List Line) :
    layer.tail afterText (line :: rest) = inner :: layer.tail (!isBlankLine inner) rest := by
  rw [tail_cons, h]

theorem tail_of_take?_eq_none (h : layer.take? afterText line = none) (rest : List Line) :
    layer.tail afterText (line :: rest) = [] := by
  rw [tail_cons, h]

theorem take?_of_own? (h : layer.own? line = some inner) : layer.take? afterText line = some inner := by
  rw [take?, h]

theorem tail_of_own? {lines : List Line}
    (h : List.Forall₂ (fun inner line => layer.own? line = some inner) lines rest) :
    layer.tail afterText rest = lines := by
  induction h generalizing afterText with
  | nil => exact layer.tail_nil afterText
  | cons hline _ ih => rw [tail_of_take? (take?_of_own? hline), ih]

/-- Each line is what the line outside is taken for behind the one above. -/
theorem take?_of_tail (layer : Layer) {k : Nat} (h : (layer.tail (!isBlankLine content) rest)[k]? = some inner) :
    ∃ above line, (content :: layer.tail (!isBlankLine content) rest)[k]? = some above ∧
      rest[k]? = some line ∧ layer.take? (!isBlankLine above) line = some inner := by
  induction rest generalizing content k with
  | nil =>
      rw [tail_nil] at h
      cases h
  | cons line rest ih =>
      cases htake : layer.take? (!isBlankLine content) line with
      | none =>
          rw [tail_of_take?_eq_none htake] at h
          cases h
      | some next =>
          rw [tail_of_take? htake] at h ⊢
          cases k with
          | zero =>
              cases h
              exact ⟨content, line, rfl, rfl, htake⟩
          | succ k => exact ih h

theorem take?_true (h : layer.take? afterText line = some inner) : layer.take? true line = some inner := by
  rw [take?] at h ⊢
  cases hown : layer.own? line with
  | some own =>
      rw [hown] at h
      exact h
  | none =>
      rw [hown] at h
      exact (Option.ite_none_right_eq_some.1 h).2

theorem take?_false (layer : Layer) (line : Line) : layer.take? false line = layer.own? line := by
  rw [take?]
  cases layer.own? line <;> rfl

theorem isBlankLine_of_take? {column : Nat} (h : (item column).take? afterText line = some inner) :
    isBlankLine inner = isBlankLine line := by
  rw [take?, own?] at h
  by_cases hblank : isBlankLine line = true
  · rw [if_pos hblank] at h
    cases h
    exact hblank.symm
  rw [if_neg hblank] at h
  by_cases hindent : column ≤ indentOf line
  · rw [if_pos hindent] at h
    cases h
    exact isBlankLine_drop hindent
  · rw [if_neg hindent] at h
    simp only [lazy?, Option.ite_none_right_eq_some, Option.some.injEq] at h
    rw [← h.2.2]
    exact isBlankLine_trim line

/-- The lines of a quote are marked or go on with a paragraph. -/
theorem isBlankLine_of_quote_take? (h : quote.take? afterText line = some inner) : isBlankLine line = false := by
  cases hblank : isBlankLine line with
  | false => rfl
  | true =>
      rw [take?, own?, unquote?_of_isBlankLine hblank] at h
      simp [lazy?, hblank] at h

/-- The lines that are kept: a final line ending leaves an empty line in a quote, and what is blank behind
an item is not part of it. -/
def kept : Layer → List Line → List Line
  | quote => dropEmptyLast
  | item _ => dropTrailingBlank

theorem exists_kept_append (layer : Layer) (lines : List Line) :
    ∃ dropped, layer.kept lines ++ dropped = lines ∧ ∀ l ∈ dropped, isBlankLine l = true := by
  cases layer with
  | quote =>
      rcases dropEmptyLast_cases lines with hlines | hlines
      · exact ⟨[], (List.append_nil _).trans hlines.symm, fun _ hl => (List.not_mem_nil hl).elim⟩
      · exact ⟨[[]], hlines.symm, List.forall_mem_singleton.2 rfl⟩
  | item column =>
      refine ⟨(lines.reverse.takeWhile isBlankLine).reverse, ?_, fun l hl => ?_⟩
      · rw [kept, dropTrailingBlank, ← List.reverse_append, List.takeWhile_append_dropWhile, List.reverse_reverse]
      · exact List.all_eq_true.1 List.all_takeWhile l (List.mem_reverse.1 hl)

theorem kept_eq_self (layer : Layer) {lines : List Line} (hne : lines ≠ [])
    (h : isBlankLine (lines.getLast hne) = false) : layer.kept lines = lines := by
  obtain ⟨dropped, hlines, hblank⟩ := layer.exists_kept_append lines
  cases dropped with
  | nil => exact (List.append_nil _).symm.trans hlines
  | cons l others =>
      have hlast : lines.getLast? = (l :: others).getLast? := by
        conv => lhs; rw [← hlines]
        rw [List.getLast?_append, List.getLast?_eq_some_getLast (List.cons_ne_nil l others), Option.some_or]
      rw [List.getLast?_eq_some_getLast hne] at hlast
      rw [hblank _ (List.mem_of_getLast? hlast.symm)] at h
      cases h

/-- Of lines in two parts either all of the first are kept and go on into the second, or nothing of the second is
kept and it begins with a blank line. -/
theorem kept_append_cases (layer : Layer) (lines more : List Line) (next : Line) :
    (∃ others, layer.kept (lines ++ next :: more) = lines ++ next :: others) ∨
      isBlankLine next = true ∧ layer.kept (lines ++ next :: more) <+: lines := by
  obtain ⟨dropped, hlines, hblank⟩ := layer.exists_kept_append (lines ++ next :: more)
  rcases List.append_eq_append_iff.1 hlines with ⟨rest, hfront, hback⟩ | ⟨rest, hfront, hback⟩
  · refine .inr ⟨hblank next ?_, rest, hfront.symm⟩
    rw [hback]
    simp
  · cases rest with
    | nil =>
        rw [List.append_nil] at hfront
        refine .inr ⟨hblank next ?_, [], by rw [hfront, List.append_nil]⟩
        rw [← List.nil_append dropped, ← hback]
        exact List.mem_cons_self ..
    | cons l others =>
        obtain ⟨rfl, _⟩ := List.cons.inj hback
        exact .inl ⟨others, hfront⟩

theorem initial_kept (layer : Layer) (lines : List Line) : layer.kept lines <+: lines := by
  obtain ⟨dropped, hlines, _⟩ := layer.exists_kept_append lines
  exact ⟨dropped, hlines⟩

theorem kept_append_tail_cases (layer : Layer) (lines : List Line) (afterText : Bool) (next : Line)
    (below : List Line) :
    (∃ inner others, layer.take? afterText next = some inner ∧
        layer.kept (lines ++ layer.tail afterText (next :: below)) = lines ++ inner :: others) ∨
      layer.kept (lines ++ layer.tail afterText (next :: below)) <+: lines ∧
        ∀ inner, layer.take? afterText next = some inner → isBlankLine inner = true := by
  cases htake : layer.take? afterText next with
  | none =>
      rw [tail_of_take?_eq_none htake, List.append_nil]
      exact .inr ⟨layer.initial_kept lines, nofun⟩
  | some inner =>
      rw [tail_of_take? htake]
      rcases layer.kept_append_cases lines (layer.tail (!isBlankLine inner) below) inner with
        ⟨others, hkept⟩ | ⟨hblank, hkept⟩
      · exact .inl ⟨inner, others, rfl, hkept⟩
      · refine .inr ⟨hkept, fun l hl => ?_⟩
        cases hl
        exact hblank

inductive Opens : Branch → Line → Layer → Line → Prop
  | quote {first content : Line} : unquote? first = some content → Opens .blockQuote first quote content
  | item {first : Line} {m : Marker} : marker? first = some m → Opens .listItem first (item m.column) m.content

theorem Opens.unique {shape : Branch} {other : Layer} {line : Line} (h : layer.Opens shape first content)
    (hother : other.Opens shape first line) : other = layer ∧ line = content := by
  cases h with
  | quote h =>
      cases hother with
      | quote hother =>
          rw [h] at hother
          cases hother
          exact ⟨rfl, rfl⟩
  | item h =>
      cases hother with
      | item hother =>
          rw [h] at hother
          cases hother
          exact ⟨rfl, rfl⟩

theorem Opens.isBlankLine_eq_false {shape : Branch} (h : Opens shape first layer content) :
    isBlankLine first = false := by
  cases h with
  | item hmarker => exact isBlankLine_of_marker? hmarker
  | quote hquote =>
      cases hblank : isBlankLine first with
      | false => rfl
      | true =>
          rw [unquote?_of_isBlankLine hblank] at hquote
          cases hquote

end Layer

namespace Passage

variable {p : Passage} {loc : Location} {shape : Branch} {children : List Node} {layer : Layer}
  {first content : Line} {rest : List Line}

theorem inside_of_opens (hp : p.since loc.line = first :: rest) (h : layer.Opens shape first content) :
    p.inside (.branch loc shape children) =
      ⟨loc.line, layer.kept (content :: layer.tail (!isBlankLine content) rest)⟩ := by
  cases h with
  | quote hquote => rw [inside, hp, quotedLines, hquote]; rfl
  | item hmarker => rw [inside, hp, itemLines, hmarker]; rfl

theorem take?_of_inside {n : Int} {inner : Line} (hp : p.since loc.line = first :: rest)
    (h : layer.Opens shape first content) (hn : loc.line < n)
    (hinner : (p.inside (.branch loc shape children)).lineAt? n = some inner) :
    ∃ above line, (p.inside (.branch loc shape children)).lineAt? (n - 1) = some above ∧
      p.lineAt? n = some line ∧ layer.take? (!isBlankLine above) line = some inner := by
  have hle : p.line ≤ loc.line := line_le_of_since (by simp [hp])
  obtain ⟨k, rfl⟩ : ∃ k : Nat, n = loc.line + (k + 1 : Nat) := ⟨(n - loc.line - 1).toNat, by omega⟩
  rw [show loc.line + (k + 1 : Nat) - 1 = loc.line + (k : Nat) by omega, lineAt?_add hle, hp]
  rw [inside_of_opens hp h, lineAt?_line_add] at hinner ⊢
  obtain ⟨dropped, hkept⟩ := layer.initial_kept (content :: layer.tail (!isBlankLine content) rest)
  have hk := (List.getElem?_eq_some_iff.1 hinner).1
  rw [← List.getElem?_append_left hk, hkept] at hinner
  rw [← List.getElem?_append_left (Nat.lt_of_succ_lt hk), hkept]
  exact layer.take?_of_tail hinner

theorem exists_marker?_of_inside {n : Int} {inner : Line}
    (hinner : (p.inside (.branch loc .listItem children)).lineAt? n = some inner) :
    ∃ first rest m, p.since loc.line = first :: rest ∧ marker? first = some m := by
  have hlines : itemLines (p.since loc.line) ≠ [] := by
    intro hnil
    rw [inside, hnil, lineAt?, since] at hinner
    split at hinner <;> simp at hinner
  cases hp : p.since loc.line with
  | nil => exact absurd (by rw [hp, itemLines]) hlines
  | cons first rest =>
      cases hmarker : marker? first with
      | some m => exact ⟨first, rest, m, rfl, hmarker⟩
      | none => exact absurd (by rw [hp, itemLines, hmarker]) hlines

/-- Behind the first line of an item a line is blank inside where it is blank outside. -/
theorem isBlankAt_inside_iff {n : Int} {inner : Line} (hn : loc.line < n)
    (hinner : (p.inside (.branch loc .listItem children)).lineAt? n = some inner) :
    (p.inside (.branch loc .listItem children)).IsBlankAt n ↔ p.IsBlankAt n := by
  obtain ⟨first, rest, m, hp, hmarker⟩ := exists_marker?_of_inside hinner
  obtain ⟨above, line, _, hline, htake⟩ := take?_of_inside hp (.item hmarker) hn hinner
  rw [isBlankAt_iff hinner, isBlankAt_iff hline, Layer.isBlankLine_of_take? htake]

theorem IsBlankAt.of_inside {n : Int} (hn : loc.line < n)
    (h : (p.inside (.branch loc .listItem children)).IsBlankAt n) : p.IsBlankAt n := by
  obtain ⟨inner, hinner, hblank⟩ := h
  exact (isBlankAt_inside_iff hn hinner).1 ⟨inner, hinner, hblank⟩

end Passage

end MarkdownOutline.Block
