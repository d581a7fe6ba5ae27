import Mathlib.Data.List.TakeWhile
import MarkdownOutline.Proofs.Block.ReadIn

namespace MarkdownOutline.Block

open Text

theorem isBlankLine_eq_false_iff {line : Line} : isBlankLine line = false ↔ ∃ c ∈ line, isBlank c = false := by
  simp [isBlankLine]

theorem isBlankLine_of_fence? {line : Line} {fence : Fence} (h : fence? line = some fence) :
    isBlankLine line = false := by
  simp only [fence?, Option.bind_eq_bind, Option.bind_eq_some_iff] at h
  obtain ⟨content, hcontent, h⟩ := h
  cases content with
  | nil => cases h
  | cons mark cs =>
      refine isBlankLine_eq_false_iff.2 ⟨mark, (unindent?_suffix hcontent).subset (List.mem_cons_self ..), ?_⟩
      simp only at h
      split at h
      · rename_i hmark
        simp only [Bool.and_eq_true, Bool.or_eq_true, decide_eq_true_eq] at hmark
        rcases hmark.1.1 with rfl | rfl <;> rfl
      · cases h

theorem isFence_of_isBlankLine {line : Line} (h : isBlankLine line = true) : isFence line = false := by
  rw [isFence, Option.isSome_eq_false_iff, Option.isNone_iff_eq_none]
  cases hfence : fence? line with
  | none => rfl
  | some fence =>
      rw [isBlankLine_of_fence? hfence] at h
      cases h

theorem exists_of_bullet? {cs rest : Line} {bullet : Bullet} {number width : Nat}
    (h : bullet? cs = some (bullet, number, width, rest)) : 1 ≤ width ∧ ∃ c ∈ cs, isBlank c = false := by
  obtain ⟨digits, c, rfl, rfl, hc⟩ := bullet?_cases h
  refine ⟨Nat.le_add_left 1 _, c, List.mem_append_right _ (List.mem_cons_self ..), ?_⟩
  rcases hc with ⟨hmark, _⟩ | ⟨hdelimiter, _⟩
  · simp only [isListMark, Bool.or_eq_true, decide_eq_true_eq] at hmark
    rcases hmark with (rfl | rfl) | rfl <;> rfl
  · simp only [isDelimiter, Bool.or_eq_true, decide_eq_true_eq] at hdelimiter
    rcases hdelimiter with rfl | rfl <;> rfl

theorem isBlankLine_of_marker? {line : Line} {m : Marker} (h : marker? line = some m) :
    isBlankLine line = false := by
  simp only [marker?, Option.bind_eq_bind, Option.bind_eq_some_iff] at h
  obtain ⟨content, hcontent, ⟨bullet, number, width, rest⟩, hbullet, _⟩ := h
  obtain ⟨_, c, hc, hblank⟩ := exists_of_bullet? hbullet
  exact isBlankLine_eq_false_iff.2 ⟨c, (unindent?_suffix hcontent).subset hc, hblank⟩

/-- The content of an item stands at least two columns behind the indent of its list. -/
theorem two_le_column {line : Line} {m : Marker} (h : marker? line = some m) : 2 ≤ m.column := by
  simp only [marker?, Option.bind_eq_bind, Option.bind_eq_some_iff] at h
  obtain ⟨content, _, ⟨bullet, number, width, rest⟩, hbullet, h⟩ := h
  have hwidth := (exists_of_bullet? hbullet).1
  simp only at h
  split at h
  · cases h
    simp only
    omega
  split at h
  · cases h
  split at h
  · cases h
    simp only
    omega
  · cases h
    simp only
    split <;> omega

theorem isBlankLine_drop {line : Line} {column : Nat} (h : column ≤ indentOf line) :
    isBlankLine (line.drop column) = isBlankLine line := by
  have hspaces : isBlankLine (line.take column) = true := by
    refine List.all_eq_true.2 fun c hc => ?_
    have hinitial : line.take column <+: line.takeWhile isSpace :=
      List.prefix_of_prefix_length_le (List.take_prefix column line) (List.takeWhile_prefix isSpace)
        (Nat.le_trans (List.length_take_le column line) h)
    have hspace := List.all_eq_true.1 List.all_takeWhile c (hinitial.subset hc)
    rw [isSpace, decide_eq_true_eq] at hspace
    rw [hspace]
    rfl
  conv => rhs; rw [← List.take_append_drop column line]
  rw [isBlankLine, isBlankLine, List.all_append]
  rw [isBlankLine] at hspaces
  rw [hspaces, Bool.true_and]

theorem isBlankLine_trim (line : Line) : isBlankLine (trim isBlank line) = isBlankLine line := by
  cases hline : isBlankLine line with
  | true =>
      have hnil : trimLeft isBlank line = [] := List.dropWhile_eq_nil_iff.2 (List.all_eq_true.1 hline)
      rw [trim, hnil]
      rfl
  | false =>
      obtain ⟨c, hc, hblank⟩ := isBlankLine_eq_false_iff.1 hline
      have hne : trim isBlank line ≠ [] := by
        intro hnil
        rw [trim, trimRight, List.reverse_eq_nil_iff, List.dropWhile_eq_nil_iff] at hnil
        have hall : trimLeft isBlank line = [] := by
          cases hleft : trimLeft isBlank line with
          | nil => rfl
          | cons d ds =>
              have hstop := List.head?_dropWhile_not isBlank line
              rw [← trimLeft, hleft] at hstop
              have hblank := hnil d (by rw [hleft]; simp)
              exact absurd (hblank.symm.trans hstop) (by decide)
        rw [List.dropWhile_eq_nil_iff.1 hall c hc] at hblank
        cases hblank
      obtain ⟨d, hd, hfull⟩ := exists_mem_trim hne
      exact isBlankLine_eq_false_iff.2 ⟨d, hd, hfull⟩

structure IsText (line : Line) : Prop where
  fence : isFence line = false
  atx : atx? line = none
  thematic : isThematic line = false
  quote : unquote? line = none
  marker : marker? line = none
  indent : indentOf line < codeIndent
  html : isHtmlStart line = false

theorem isText_of_opener {line : Line} (h : opener line = .text) : IsText line := by
  rw [opener] at h
  cases hfence : fence? line with
  | some fence =>
      rw [hfence] at h
      cases h
  | none =>
      cases hatx : atx? line with
      | some heading =>
          rw [hfence, hatx] at h
          cases h
      | none =>
          cases hthematic : isThematic line with
          | true =>
              rw [hfence, hatx, hthematic] at h
              cases h
          | false =>
              cases hquote : unquote? line with
              | some inner =>
                  rw [hfence, hatx, hthematic, hquote] at h
                  cases h
              | none =>
                  cases hmarker : marker? line with
                  | some m =>
                      rw [hfence, hatx, hthematic, hquote, hmarker] at h
                      cases h
                  | none =>
                      rw [hfence, hatx, hthematic, hquote, hmarker] at h
                      simp only [Bool.false_eq_true, if_false] at h
                      by_cases hindent : codeIndent ≤ indentOf line
                      · rw [if_pos hindent] at h
                        cases h
                      · cases hhtml : isHtmlStart line with
                        | true =>
                            rw [if_neg hindent, hhtml] at h
                            cases h
                        | false =>
                            exact ⟨by rw [isFence, hfence]; rfl, hatx, hthematic, hquote, hmarker,
                              Nat.lt_of_not_le hindent, hhtml⟩

/-- Nothing that a paragraph begins with interrupts one. -/
theorem IsText.startsBlock_eq_false {line : Line} (h : IsText line) : startsBlock line = false := by
  simp [startsBlock, h.fence, h.atx, h.thematic, h.quote, h.marker, h.html]

section

variable {ctx : Context} {line : Int} {first : Line} {rest : List Line}

theorem more_paragraphBlock (first : Line) (rest : List Line) : (paragraphBlock ctx line first rest).more =
    (paragraphTail rest).1.length + (paragraphTail rest).2.toList.length := by
  obtain ⟨tail, level, htail⟩ : ∃ tail level, paragraphTail rest = (tail, level) := ⟨_, _, rfl⟩
  rw [paragraphBlock, htail]
  cases level <;> rfl

/-- A paragraph takes its first line and those behind up to a blank line or one that interrupts it. -/
structure ReadsParagraph (ctx : Context) (line : Int) (first : Line) (rest : List Line) (taken : Taken) : Prop where
  text : IsText first
  level : (paragraphTail rest).2 = none
  more : taken.more = (paragraphTail rest).1.length
  node : taken.node = .branch (ctx.span line taken.more) .paragraph
    (Inline.read ctx.settings (ctx.span line taken.more)
      (trimRight isBlank (joinLines (trimLeft isBlank first :: (paragraphTail rest).1))))

theorem readsParagraph_of_readBlock {loc : Location} {children : List Node} {more : Nat}
    (h : readBlock ctx line first rest = .ok ⟨.branch loc .paragraph children, more⟩) :
    ReadsParagraph ctx line first rest ⟨.branch loc .paragraph children, more⟩ := by
  rw [readBlock_eq] at h
  cases hopener : opener first with
  | text =>
      rw [hopener] at h
      obtain ⟨tail, level, htail⟩ : ∃ tail level, paragraphTail rest = (tail, level) := ⟨_, _, rfl⟩
      simp only [Opener.read, paragraphBlock, htail] at h
      cases level with
      | some level => cases h
      | none =>
          cases h
          refine ⟨isText_of_opener hopener, ?_, ?_, ?_⟩
          all_goals rw [htail]
  | quote inner =>
      rw [hopener] at h
      obtain ⟨nodes, _, h⟩ := exists_of_bind_eq_ok h
      cases h
  | item m =>
      rw [hopener] at h
      obtain ⟨items, _, h⟩ := exists_of_bind_eq_ok h
      cases h
  | _ =>
      rw [hopener] at h
      cases h

/-- A paragraph without an underline ends at a blank line or at one that interrupts it. -/
theorem stop_of_paragraphTail {lines : List Line} (h : (paragraphTail lines).2 = none) :
    ∀ l ∈ (lines.drop (paragraphTail lines).1.length).head?, isBlankLine l = true ∨ startsBlock l = true := by
  induction lines with
  | nil =>
      intro l hl
      cases hl
  | cons line rest ih =>
      rw [paragraphTail] at h ⊢
      by_cases hblank : isBlankLine line = true
      · rw [if_pos hblank]
        intro l hl
        cases hl
        exact .inl hblank
      · rw [if_neg hblank] at h ⊢
        cases hunderline : underline? line with
        | some level =>
            rw [hunderline] at h
            cases h
        | none =>
            rw [hunderline] at h
            simp only at h ⊢
            by_cases hstarts : startsBlock line = true
            · rw [if_pos hstarts]
              intro l hl
              cases hl
              exact .inr hstarts
            · rw [if_neg hstarts] at h ⊢
              exact ih h

theorem paragraphTail_eq_map (lines : List Line) : (paragraphTail lines).1 =
    (lines.take (paragraphTail lines).1.length).map (trimLeft isBlank) ∧
      ∀ l ∈ lines.take (paragraphTail lines).1.length, isBlankLine l = false := by
  induction lines with
  | nil => exact ⟨rfl, fun _ hl => (List.not_mem_nil hl).elim⟩
  | cons line rest ih =>
      rw [paragraphTail]
      by_cases hblank : isBlankLine line = true
      · rw [if_pos hblank]
        exact ⟨rfl, fun _ hl => (List.not_mem_nil hl).elim⟩
      · rw [if_neg hblank]
        split
        · exact ⟨rfl, fun _ hl => (List.not_mem_nil hl).elim⟩
        · by_cases hstarts : startsBlock line = true
          · rw [if_pos hstarts]
            exact ⟨rfl, fun _ hl => (List.not_mem_nil hl).elim⟩
          · rw [if_neg hstarts]
            simp only [List.length_cons, List.take_succ_cons, List.map_cons]
            exact ⟨congrArg _ ih.1, List.forall_mem_cons.2 ⟨Bool.eq_false_iff.2 hblank, ih.2⟩⟩

end

theorem sibling?_eq_some_iff {bullet : Bullet} {first : Line} {m : Marker} :
    sibling? bullet first = some m ↔ marker? first = some m ∧ m.bullet = bullet ∧ isThematic first = false := by
  rw [sibling?]
  cases marker? first with
  | none => simp
  | some m' =>
      simp only [Bool.and_eq_true, decide_eq_true_eq, Bool.not_eq_true', Option.ite_none_right_eq_some,
        Option.some.injEq]
      constructor
      · rintro ⟨⟨hbullet, hrule⟩, rfl⟩
        exact ⟨rfl, hbullet, hrule⟩
      · rintro ⟨rfl, hbullet, hrule⟩
        exact ⟨⟨hbullet, hrule⟩, rfl⟩

theorem marker?_of_opener {first : Line} {m : Marker} (h : opener first = .item m) :
    marker? first = some m ∧ isThematic first = false := by
  unfold opener at h
  split at h
  · cases h
  split at h
  · cases h
  split at h
  · cases h
  rename_i hthematic
  split at h
  · cases h
  split at h
  · cases h
    exact ⟨‹_›, Bool.eq_false_iff.2 hthematic⟩
  split at h
  · cases h
  split at h <;> cases h

theorem sibling?_of_opener {first : Line} {m : Marker} (h : opener first = .item m) :
    sibling? m.bullet first = some m :=
  sibling?_eq_some_iff.2 ⟨(marker?_of_opener h).1, rfl, (marker?_of_opener h).2⟩

theorem lines_pos_of_readItems {ctx : Context} {bullet : Bullet} {line : Int} {first : Line} {rest : List Line}
    {m : Marker} {items : Items} (hm : sibling? bullet first = some m)
    (h : readItems ctx bullet line (first :: rest) = .ok items) : 0 < items.lines := by
  rw [readItems, hm] at h
  obtain ⟨children, _, h⟩ := exists_of_bind_eq_ok h
  obtain ⟨later, _, h⟩ := exists_of_bind_eq_ok h
  cases h
  exact Nat.lt_add_right _ (Nat.succ_pos _)

section

variable {first : Line} {c : Char} {cs : Line} (h : unindent? first = some (c :: cs))
include h

theorem fence?_of_head (htick : c ≠ '`') (htilde : c ≠ '~') : fence? first = none := by
  simp [fence?, h, htick, htilde]

theorem atx?_of_head (hhash : c ≠ '#') : atx? first = none := by
  simp [atx?, h, hhash]

theorem unquote?_of_head (hquote : c ≠ '>') : unquote? first = none := by
  simp [unquote?, h, hquote]

end

theorem opener_of_unquote? {first inner : Line} (h : unquote? first = some inner) :
    opener first = .quote inner := by
  obtain ⟨cs, hcs⟩ : ∃ cs, unindent? first = some ('>' :: cs) := by
    simp only [unquote?, Option.bind_eq_bind, Option.bind_eq_some_iff] at h
    obtain ⟨content, hcontent, h⟩ := h
    split at h
    · exact ⟨_, hcontent⟩
    · exact ⟨_, hcontent⟩
    · cases h
  have hrule : isThematic first = false := by simp [isThematic, hcs, isRuleMark]
  rw [opener, fence?_of_head hcs (by decide) (by decide), atx?_of_head hcs (by decide), hrule, h]
  rfl

theorem head_of_bullet? {cs : Line} {found : Bullet × Nat × Nat × Line} (h : bullet? cs = some found) :
    ∃ c rest, cs = c :: rest ∧ (isListMark c = true ∨ isDigit c = true) := by
  cases cs with
  | nil => cases h
  | cons c rest =>
      refine ⟨c, rest, rfl, ?_⟩
      cases hmark : isListMark c with
      | true => exact .inl rfl
      | false =>
          cases hdigit : isDigit c with
          | true => exact .inr rfl
          | false =>
              rw [bullet?, hmark] at h
              simp [hdigit] at h

theorem opener_of_marker? {first : Line} {m : Marker} (h : marker? first = some m)
    (hrule : isThematic first = false) : opener first = .item m := by
  obtain ⟨c, cs, hcs, hc⟩ : ∃ c cs, unindent? first = some (c :: cs) ∧
      (isListMark c = true ∨ isDigit c = true) := by
    simp only [marker?, Option.bind_eq_bind, Option.bind_eq_some_iff] at h
    obtain ⟨content, hcontent, found, hfound, _⟩ := h
    obtain ⟨c, cs, rfl, hc⟩ := head_of_bullet? hfound
    exact ⟨c, cs, hcontent, hc⟩
  have hne {d : Char} (hd : (isListMark d || isDigit d) = false) : c ≠ d := by
    rintro rfl
    rw [← Bool.or_eq_true, hd] at hc
    cases hc
  rw [opener, fence?_of_head hcs (hne (by decide)) (hne (by decide)), atx?_of_head hcs (hne (by decide)), hrule,
    unquote?_of_head hcs (hne (by decide)), h]
  rfl

theorem opener_of_indentOf {first : Line} (h : codeIndent ≤ indentOf first) : opener first = .indented := by
  have hnone : unindent? first = none := if_neg (Nat.not_lt.2 h)
  have hfence : fence? first = none := by rw [fence?, hnone]; rfl
  have hatx : atx? first = none := by rw [atx?, hnone]; rfl
  have hrule : isThematic first = false := by rw [isThematic, hnone]
  have hquote : unquote? first = none := by rw [unquote?, hnone]; rfl
  have hmarker : marker? first = none := by rw [marker?, hnone]; rfl
  rw [opener, hfence, hatx, hrule, hquote, hmarker]
  simp only [if_pos h, Bool.false_eq_true, if_false]

theorem opener_of_fence? {first : Line} {fence : Fence} (h : fence? first = some fence) :
    opener first = .fence fence := by
  rw [opener, h]

theorem titleLine?_of_opener {first : Line} (h : opener first ≠ .text) : titleLine? first = none := by
  rcases first with _ | ⟨c, cs⟩
  · rfl
  by_cases hc : c = '%'
  · subst hc
    have hcs : unindent? ('%' :: cs) = some ('%' :: cs) := rfl
    have hrule : isThematic ('%' :: cs) = false := rfl
    have hmarker : marker? ('%' :: cs) = none := rfl
    rw [opener, fence?_of_head hcs (by decide) (by decide), atx?_of_head hcs (by decide), hrule,
      unquote?_of_head hcs (by decide), hmarker] at h
    exact absurd rfl h
  · simp [titleLine?, hc]

end MarkdownOutline.Block
