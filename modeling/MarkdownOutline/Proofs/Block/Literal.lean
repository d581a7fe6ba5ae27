import MarkdownOutline.Block.Read
import MarkdownOutline.Proofs.Inline.Literal

namespace MarkdownOutline.Block

open Text

/-- A line that begins with text. Marks behind stand behind backslashes. -/
structure IsLiteral (line : Line) : Prop where
  guarded : Guarded line
  first : ∃ c cs, line = c :: cs ∧ isBlank c = false
  last : ∀ c ∈ line.getLast?, isBlank c = false

theorem isLiteral_backslash {line : Line} (h : IsSolid line) : IsLiteral (backslash line) := by
  obtain ⟨c, cs, rfl⟩ := List.exists_cons_of_ne_nil h.ne_nil
  refine ⟨guarded_backslash _, ?_, by rw [getLast?_backslash]; exact h.last⟩
  rcases backslashChar_cases c with ⟨_, hc⟩ | ⟨_, hc⟩
  · exact ⟨'\\', c :: backslash cs, by rw [backslash_cons, hc]; rfl, rfl⟩
  · exact ⟨c, backslash cs, by rw [backslash_cons, hc]; rfl, h.first c rfl⟩

namespace IsLiteral

variable {line : Line} (h : IsLiteral line)
include h

theorem isBlankLine_eq_false : isBlankLine line = false := by
  obtain ⟨c, cs, rfl, hc⟩ := h.first
  simp [isBlankLine, hc]

theorem indentOf_eq_zero : indentOf line = 0 := by
  obtain ⟨c, cs, rfl, hc⟩ := h.first
  simp [indentOf, isSpace, ne_of_isBlank hc (d := ' ') rfl]

theorem unindent?_eq_some : unindent? line = some line := by
  obtain ⟨c, cs, rfl, hc⟩ := h.first
  have hspace : isSpace c = false := by simp [isSpace, ne_of_isBlank hc (d := ' ') rfl]
  rw [unindent?, h.indentOf_eq_zero, if_pos (by decide), List.dropWhile_cons_of_neg (by simp [hspace])]

theorem trimLeft_eq : trimLeft isBlank line = line := by
  obtain ⟨c, cs, rfl, hc⟩ := h.first
  refine trimLeft_eq_self fun d hd => ?_
  cases hd
  exact hc

theorem fence?_eq_none : fence? line = none := by
  have hline := h.unindent?_eq_some
  obtain ⟨c, cs, rfl, _⟩ := h.first
  have htick : c ≠ '`' := h.guarded.head_ne rfl (by decide)
  have htilde : c ≠ '~' := h.guarded.head_ne rfl (by decide)
  simp [fence?, hline, htick, htilde]

theorem atx?_eq_none : atx? line = none := by
  have hline := h.unindent?_eq_some
  obtain ⟨c, cs, rfl, _⟩ := h.first
  have hhash : c ≠ '#' := h.guarded.head_ne rfl (by decide)
  simp [atx?, hline, hhash]

theorem isThematic_eq_false : isThematic line = false := by
  have hline := h.unindent?_eq_some
  obtain ⟨c, cs, rfl, _⟩ := h.first
  have hminus : c ≠ '-' := h.guarded.head_ne rfl (by decide)
  have hstar : c ≠ '*' := h.guarded.head_ne rfl (by decide)
  have hlow : c ≠ '_' := h.guarded.head_ne rfl (by decide)
  simp [isThematic, hline, isRuleMark, hminus, hstar, hlow]

theorem unquote?_eq_none : unquote? line = none := by
  have hline := h.unindent?_eq_some
  obtain ⟨c, cs, rfl, _⟩ := h.first
  have hquote : c ≠ '>' := h.guarded.head_ne rfl (by decide)
  simp [unquote?, hline, hquote]

theorem isHtmlStart_eq_false : isHtmlStart line = false := by
  have hline := h.unindent?_eq_some
  obtain ⟨c, cs, rfl, _⟩ := h.first
  have hangle : c ≠ '<' := h.guarded.head_ne rfl (by decide)
  simp [isHtmlStart, hline, hangle]

theorem underline?_eq_none : underline? line = none := by
  have hline := h.unindent?_eq_some
  obtain ⟨c, cs, rfl, _⟩ := h.first
  have hequal : c ≠ '=' := h.guarded.head_ne rfl (by decide)
  have hminus : c ≠ '-' := h.guarded.head_ne rfl (by decide)
  simp [underline?, hline, hequal, hminus]

theorem titleLine?_eq_none : titleLine? line = none := by
  obtain ⟨c, cs, rfl, _⟩ := h.first
  have hpercent : c ≠ '%' := h.guarded.head_ne rfl (by decide)
  simp [titleLine?, hpercent]

/-- Behind digits no delimiter follows without a backslash. -/
theorem marker?_eq_none : marker? line = none := by
  have hline := h.unindent?_eq_some
  have hrest : Guarded (line.drop (line.takeWhile isDigit).length) := by
    rw [drop_length_takeWhile]
    exact h.guarded.dropWhile (by decide)
  have hbullet : bullet? line = none := by
    obtain ⟨c, cs, rfl, _⟩ := h.first
    have hminus : c ≠ '-' := h.guarded.head_ne rfl (by decide)
    have hplus : c ≠ '+' := h.guarded.head_ne rfl (by decide)
    have hstar : c ≠ '*' := h.guarded.head_ne rfl (by decide)
    simp only [bullet?, isListMark, hminus, hplus, hstar, decide_false, Bool.or_self, if_false,
      Bool.false_eq_true]
    split
    · rename_i d rest hd
      rw [hd] at hrest
      have hdot : d ≠ '.' := hrest.head_ne rfl (by decide)
      have hclosing : d ≠ ')' := hrest.head_ne rfl (by decide)
      simp [isDelimiter, hdot, hclosing]
    · rfl
  simp [marker?, hline, hbullet]

theorem startsBlock_eq_false : startsBlock line = false := by
  simp [startsBlock, isFence, h.atx?_eq_none, h.isThematic_eq_false, h.fence?_eq_none,
    h.unquote?_eq_none, h.isHtmlStart_eq_false, h.marker?_eq_none]

end IsLiteral

theorem paragraphTail_of_isLiteral {lines : List Line} (h : ∀ line ∈ lines, IsLiteral line) :
    paragraphTail lines = (lines, none) := by
  induction lines with
  | nil => rfl
  | cons line rest ih =>
      obtain ⟨hline, hrest⟩ := List.forall_mem_cons.1 h
      simp [paragraphTail, hline.isBlankLine_eq_false, hline.underline?_eq_none,
        hline.startsBlock_eq_false, hline.trimLeft_eq, ih hrest]

section

variable (ctx : Context) {first : Line} {rest : List Line} (h : ∀ line ∈ first :: rest, IsLiteral line)
include h

theorem paragraphBlock_of_isLiteral (line : Int) : paragraphBlock ctx line first rest =
    ⟨.branch (ctx.span line rest.length) .paragraph
      (Inline.read ctx.settings (ctx.span line rest.length) (joinLines (first :: rest))), rest.length⟩ := by
  obtain ⟨hfirst, hrest⟩ := List.forall_mem_cons.1 h
  have htrim : trimRight isBlank (joinLines (first :: rest)) = joinLines (first :: rest) := by
    refine trimRight_eq_self (getLast?_joinLines fun line hline => ⟨?_, (h line hline).last⟩)
    obtain ⟨c, cs, rfl, _⟩ := (h line hline).first
    exact List.cons_ne_nil c cs
  simp only [paragraphBlock, paragraphTail_of_isLiteral hrest, hfirst.trimLeft_eq, htrim]

theorem readBlock_of_isLiteral (line : Int) :
    readBlock ctx line first rest = .ok (paragraphBlock ctx line first rest) := by
  have hfirst := (List.forall_mem_cons.1 h).1
  have hindent : ¬codeIndent ≤ indentOf first := by
    rw [hfirst.indentOf_eq_zero]
    decide
  simp [readBlock, hfirst.fence?_eq_none, hfirst.atx?_eq_none, hfirst.isThematic_eq_false,
    hfirst.unquote?_eq_none, hfirst.marker?_eq_none, hindent, hfirst.isHtmlStart_eq_false, pure,
    Except.pure]

theorem readBlocks_of_isLiteral (line : Int) : readBlocks ctx line (first :: rest) =
    .ok [.branch (ctx.span line rest.length) .paragraph
      (Inline.read ctx.settings (ctx.span line rest.length) (joinLines (first :: rest)))] := by
  have hfirst := (List.forall_mem_cons.1 h).1
  rw [readBlocks, hfirst.isBlankLine_eq_false, readBlock_of_isLiteral ctx h,
    paragraphBlock_of_isLiteral ctx h]
  simp [bind, Except.bind, readBlocks, pure, Except.pure]

theorem readTitled_of_isLiteral (line : Int) :
    readTitled ctx line (first :: rest) = readBlocks ctx line (first :: rest) := by
  have hfirst := (List.forall_mem_cons.1 h).1
  simp [readTitled, hfirst.titleLine?_eq_none]

end

/-- Literal lines make one paragraph at any depth at which lines are read at all. -/
theorem readWithin_of_isLiteral (settings : Settings) (file : Option String) (room : Nat) (line : Int)
    {first : Line} {rest : List Line} (h : ∀ line ∈ first :: rest, IsLiteral line) :
    ∃ loc : Location, loc = ⟨line, 1, some (line + rest.length), file⟩ ∧
      readWithin settings file (room + 1) line (first :: rest) =
        .ok [.branch loc .paragraph (Inline.read settings loc (joinLines (first :: rest)))] := by
  have hkept : dropEmptyLast (first :: rest) = first :: rest := by
    rw [dropEmptyLast, if_neg]
    intro hlast
    have hmem := List.mem_of_getLast? (beq_iff_eq.1 hlast)
    obtain ⟨c, cs, hnil, _⟩ := (h [] hmem).first
    cases hnil
  refine ⟨_, rfl, ?_⟩
  rw [readWithin, hkept, readTitled_of_isLiteral _ h, ite_self]
  exact readBlocks_of_isLiteral _ h line

end MarkdownOutline.Block
