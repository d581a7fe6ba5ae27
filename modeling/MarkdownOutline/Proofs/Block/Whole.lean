import Mathlib.Data.List.DropRight
import MarkdownOutline.Proofs.Block.Layer
import MarkdownOutline.Proofs.Inline.CodeSpan

namespace MarkdownOutline.Block

open Text

def IsPlain (line : Line) : Prop := '\t' ∉ line ∧ '\n' ∉ line

theorem IsPlain.append {a b : Line} (ha : IsPlain a) (hb : IsPlain b) : IsPlain (a ++ b) :=
  ⟨List.not_mem_append ha.1 hb.1, List.not_mem_append ha.2 hb.2⟩

theorem isPlain_replicate {c : Char} (htab : c ≠ '\t') (hnewline : c ≠ '\n') (n : Nat) :
    IsPlain (List.replicate n c) :=
  ⟨fun h => htab (List.eq_of_mem_replicate h).symm, fun h => hnewline (List.eq_of_mem_replicate h).symm⟩

theorem linesOf_joinLines {lines : List Line} (hne : lines ≠ []) (h : ∀ line ∈ lines, IsPlain line) :
    (splitLines (joinLines lines)).map (fun line => expandTabs line) = lines := by
  rw [splitLines_joinLines hne fun line hline => (h line hline).2]
  exact (List.map_congr_left fun line hline => expandTabs_eq_self (h line hline).1 tabWidth).trans
    (List.map_id lines)

theorem dropTrailingBlank_eq_self {lines : List Line} (h : ∀ line ∈ lines.getLast?, isBlankLine line = false) :
    dropTrailingBlank lines = lines := by
  refine List.rdropWhile_eq_self_iff.2 fun hne => ?_
  rw [h _ (List.getLast?_eq_some_getLast hne)]
  exact Bool.false_ne_true

def indented (width : Nat) (line : Line) : Line := List.replicate width ' ' ++ line

section

variable {width : Nat} {line : Line}

theorem IsPlain.indented (h : IsPlain line) (width : Nat) : IsPlain (indented width line) :=
  (isPlain_replicate (by decide) (by decide) width).append h

theorem drop_indented (width : Nat) (line : Line) : (indented width line).drop width = line :=
  List.drop_left' List.length_replicate

theorem indentOf_indented (h : line.head? ≠ some ' ') : indentOf (indented width line) = width :=
  Inline.countLeading_replicate_append ' ' width h

theorem le_indentOf_indented (width : Nat) (line : Line) : width ≤ indentOf (indented width line) := by
  have hspaces : ∀ c ∈ List.replicate width ' ', isSpace c = true := by
    intro c hc
    rw [List.eq_of_mem_replicate hc]
    rfl
  rw [indentOf, indented, List.takeWhile_append_of_pos hspaces, List.length_append, List.length_replicate]
  exact Nat.le_add_right _ _

theorem unindent?_indented (hwidth : width < codeIndent) (h : line.head? ≠ some ' ') :
    unindent? (indented width line) = some line := by
  have hdrop : (indented width line).dropWhile isSpace = line := by
    rw [← drop_length_takeWhile, ← indentOf, indentOf_indented h, drop_indented]
  rw [unindent?, indentOf_indented h, if_pos hwidth, hdrop]

theorem exists_of_unindent? {content : Line} (h : unindent? line = some content) :
    ∃ width < codeIndent, line = indented width content ∧ content.head? ≠ some ' ' := by
  obtain ⟨hwidth, hcontent⟩ := Option.ite_none_right_eq_some.1 h
  cases hcontent
  have hdrop : line.dropWhile isSpace = line.drop (indentOf line) := (Inline.drop_countLeading ' ' line).symm
  rw [hdrop]
  exact ⟨indentOf line, hwidth, (Inline.replicate_countLeading ' ' line).symm, Inline.head?_drop_countLeading ' ' line⟩

theorem isBlankLine_indented (width : Nat) (line : Line) : isBlankLine (indented width line) = isBlankLine line := by
  rw [← isBlankLine_drop (le_indentOf_indented width line), drop_indented]

theorem indented_ne_nil (h : isBlankLine line = false) : indented width line ≠ [] := by
  intro hnil
  rw [← isBlankLine_indented width, hnil] at h
  cases h

end

def textLocation (file : Option String) (offset : Int) (lines : List Line) : Location :=
  { line := offset + 1, column := 1, endLine := some (offset + lines.length), file }

theorem textLocation_congr {file : Option String} {offset : Int} {lines others : List Line}
    (h : lines.length = others.length) : textLocation file offset lines = textLocation file offset others := by
  rw [textLocation, textLocation, h]

section

variable (settings : Settings) (file : Option String)

theorem span_contextWithin (room : Nat) (offset : Int) (first : Line) (rest : List Line) :
    (contextWithin settings file room).span (offset + 1) rest.length = textLocation file offset (first :: rest) := by
  rw [Context.span, Context.at, Location.through, textLocation, List.length_cons, Int.natCast_succ,
    Int.add_right_comm offset 1, Int.add_assoc offset]
  rfl

variable {depth : Int} (hdepth : depth ≤ maxNesting) {lines : List Line} (hne : lines ≠ [])
  (hplain : ∀ line ∈ lines, IsPlain line)
include hne hplain

/-- The lines inside a container are read like a text of their own, one level deeper. -/
theorem inner_contextWithin (offset depth : Int) :
    (contextWithin settings file (maxNesting - depth).toNat).inner (offset + 1) lines =
      readAt settings file offset (depth + 1) (joinLines lines) := by
  have hroom : ((maxNesting : Int) + 1 - (depth + 1)).toNat = (maxNesting - depth).toNat := by omega
  rw [readAt, linesOf_joinLines hne hplain, hroom]
  rfl

include hdepth

theorem readAt_joinLines (offset : Int) : ∃ titled, readAt settings file offset depth (joinLines lines) =
    readLevel (contextWithin settings file (maxNesting - depth).toNat) titled (offset + 1)
      (dropEmptyLast lines) := by
  have hroom : ((maxNesting : Int) + 1 - depth).toNat = (maxNesting - depth).toNat + 1 := by omega
  rw [readAt, linesOf_joinLines hne hplain, hroom, readWithin_succ]
  exact ⟨_, rfl⟩

end

section

variable {ctx : Context} {line : Int} {first : Line} {rest : List Line}

theorem readLevel_of_opener (h : opener first ≠ .text) (titled : Bool) :
    readLevel ctx titled line (first :: rest) = readBlocks ctx line (first :: rest) := by
  cases titled with
  | false => rfl
  | true =>
      rw [readLevel, if_pos rfl, readTitled, List.map_cons, titleLine?_of_opener h]
      rfl

variable {α : Type} {x : Except ParseError α} {node : α → Node}

theorem readBlocks_of_whole (hfirst : isBlankLine first = false)
    (hread : readBlock ctx line first rest = x.map fun a => ⟨node a, rest.length⟩) :
    readBlocks ctx line (first :: rest) = x.map fun a => [node a] := by
  rw [readBlocks, hfirst, if_neg Bool.false_ne_true, hread]
  cases x with
  | error e => rfl
  | ok a =>
      simp only [Except.map, bind, Except.bind]
      rw [List.drop_length, readBlocks]
      rfl

/-- A text that begins with no text and ends with a line that is not empty is read into the block at its first
line if that takes all lines. -/
theorem readAt_of_whole {settings : Settings} {file : Option String} {offset depth : Int}
    (hdepth : depth ≤ maxNesting) (hplain : ∀ line ∈ first :: rest, IsPlain line)
    (hfirst : isBlankLine first = false) (hopener : opener first ≠ .text)
    (hlast : (first :: rest).getLast? ≠ some [])
    (hread : readBlock (contextWithin settings file (maxNesting - depth).toNat) (offset + 1) first rest =
      x.map fun a => ⟨node a, rest.length⟩) :
    readAt settings file offset depth (joinLines (first :: rest)) = x.map fun a => [node a] := by
  obtain ⟨titled, hlevel⟩ :=
    readAt_joinLines settings file hdepth (List.cons_ne_nil first rest) hplain offset
  rw [hlevel, dropEmptyLast_of_getLast? hlast, readLevel_of_opener hopener, readBlocks_of_whole hfirst hread]

end

end MarkdownOutline.Block
