import MarkdownOutline.Proofs.Block.Whole

namespace MarkdownOutline.Block

open Text

inductive Says : Line → Bullet → Nat → Prop
  | mark {c : Char} : c = '-' ∨ c = '+' ∨ c = '*' → Says [c] (.mark c) 1
  | ordered {digits : Line} {d : Char} : digits ≠ [] → digits.length ≤ maxMarkerDigits →
      (∀ c ∈ digits, c.isDigit = true) → d = '.' ∨ d = ')' →
      Says (digits ++ [d]) (.ordered d) (Nat.ofDigitChars 10 digits 0)

theorem digitValue?_of_isDigit {c : Char} (h : c.isDigit = true) : digitValue? c = some (c.toNat - '0'.toNat) := by
  have hrange : 48 ≤ c.toNat ∧ c.toNat ≤ 57 := by
    simpa [Char.isDigit, UInt32.le_iff_toNat_le] using h
  obtain ⟨others, hranges⟩ : ∃ others, digitRanges = (0x30, 0x39) :: others := ⟨_, rfl⟩
  rw [digitValue?, hranges, List.find?_cons_of_pos (by simp [hrange.1, hrange.2]), Option.map_some]
  exact congrArg some (Nat.mod_eq_of_lt (by omega))

theorem numeral_eq_ofDigitChars {digits : Line} (h : ∀ c ∈ digits, c.isDigit = true) :
    numeral digits = Nat.ofDigitChars 10 digits 0 := by
  have hfrom (n : Nat) : digits.foldl (fun n c => 10 * n + (digitValue? c).getD 0) n =
      Nat.ofDigitChars 10 digits n := by
    induction digits generalizing n with
    | nil => rfl
    | cons c digits ih =>
        obtain ⟨hc, hdigits⟩ := List.forall_mem_cons.1 h
        rw [List.foldl_cons, digitValue?_of_isDigit hc, ih hdigits, Nat.ofDigitChars_cons]
        rfl
  exact hfrom 0

namespace Says

variable {mark : Line} {bullet : Bullet} {number : Nat} (h : Says mark bullet number)
include h

theorem bullet?_append (rest : Line) : bullet? (mark ++ rest) = some (bullet, number, mark.length, rest) := by
  cases h with
  | mark hc => rcases hc with rfl | rfl | rfl <;> rfl
  | @ordered digits d hne hlength hdigits hd =>
      have hdigit : ∀ c ∈ digits, isDigit c = true := by
        intro c hc
        rw [isDigit, digitValue?_of_isDigit (hdigits c hc)]
        rfl
      have hdelimiter : isDigit d = false ∧ isDelimiter d = true := by
        rcases hd with rfl | rfl <;> decide
      have hrun : (digits ++ d :: rest).takeWhile isDigit = digits := by
        rw [List.takeWhile_append_of_pos hdigit, List.takeWhile_cons_of_neg (by simp [hdelimiter.1]), List.append_nil]
      obtain ⟨c, cs, rfl⟩ := List.exists_cons_of_ne_nil hne
      have hmark : isListMark c = false := by
        have hc := hdigits c (List.mem_cons_self ..)
        cases hmark : isListMark c with
        | false => rfl
        | true =>
            simp only [isListMark, Bool.or_eq_true, decide_eq_true_eq] at hmark
            rcases hmark with (rfl | rfl) | rfl <;> cases hc
      rw [List.append_assoc, List.singleton_append, List.cons_append, bullet?, hmark, ← List.cons_append, hrun]
      simp only [List.drop_left, hdelimiter.2, hlength, numeral_eq_ofDigitChars hdigits]
      simp

theorem head?_append (rest : Line) : (mark ++ rest).head? ≠ some ' ' := by
  cases h with
  | mark hc => rcases hc with rfl | rfl | rfl <;> simp
  | @ordered digits d hne hlength hdigits hd =>
      obtain ⟨c, cs, rfl⟩ := List.exists_cons_of_ne_nil hne
      rintro ⟨⟩
      cases hdigits ' ' (List.mem_cons_self ..)

theorem isPlain : IsPlain mark := by
  cases h with
  | mark hc => rcases hc with rfl | rfl | rfl <;> simp [IsPlain]
  | @ordered digits d hne hlength hdigits hd =>
      refine IsPlain.append ⟨fun hmem => ?_, fun hmem => ?_⟩ ?_
      · cases hdigits _ hmem
      · cases hdigits _ hmem
      · rcases hd with rfl | rfl <;> simp [IsPlain]

theorem number_eq : (if bullet.isOrdered then (number : Int) else 1) = number := by
  cases h <;> rfl

theorem marker?_eq_some {spaces : Nat} {first : Line} (hspaces : 1 ≤ spaces ∧ spaces ≤ codeIndent)
    (hfirst : isBlankLine first = false) (hhead : first.head? ≠ some ' ') :
    marker? (mark ++ indented spaces first) = some ⟨bullet, number, mark.length + spaces, first⟩ := by
  have hstart := h.head?_append (indented spaces first)
  have hcontent : unindent? (mark ++ indented spaces first) = some (mark ++ indented spaces first) :=
    unindent?_indented (Nat.zero_lt_succ 3) hstart
  have hindent : indentOf (indented 0 (mark ++ indented spaces first)) = 0 := indentOf_indented hstart
  rw [indented, List.replicate_zero, List.nil_append] at hindent
  have hrest : (indented spaces first).isEmpty = false :=
    List.isEmpty_eq_false_iff.2 (indented_ne_nil hfirst)
  have hne : first.isEmpty = false := List.isEmpty_eq_false_iff.2 fun hnil => by
    rw [hnil] at hfirst
    cases hfirst
  simp only [marker?, hcontent, Option.bind_eq_bind, Option.bind_some, h.bullet?_append, hrest, hindent,
    indentOf_indented hhead, drop_indented, hne, Bool.false_eq_true, if_false, Nat.zero_add]
  rw [if_neg (by omega), if_neg (by omega)]

end Says

/-- A line as it stands in an item whose content begins at some column. Blank lines have no indent. -/
def itemLine (column : Nat) (line : Line) : Line := if line.isEmpty then [] else indented column line

theorem own?_itemLine {column : Nat} {line : Line} (h : isBlankLine line = true → line = []) :
    (Layer.item column).own? (itemLine column line) = some line := by
  rw [itemLine]
  cases line with
  | nil => rfl
  | cons c cs =>
      have hfull : isBlankLine (c :: cs) = false := by
        cases hblank : isBlankLine (c :: cs) with
        | false => rfl
        | true => cases h hblank
      simp only [List.isEmpty_cons, Bool.false_eq_true, if_false]
      rw [Layer.own?, isBlankLine_indented, hfull, if_neg Bool.false_ne_true, if_pos (le_indentOf_indented ..),
        drop_indented]

theorem isPlain_itemLine {line : Line} (h : IsPlain line) (column : Nat) : IsPlain (itemLine column line) := by
  rw [itemLine]
  split
  · simp [IsPlain]
  · exact h.indented column

def itemText (mark : Line) (spaces : Nat) (first : Line) (rest : List Line) : List Line :=
  (mark ++ indented spaces first) :: rest.map (itemLine (mark.length + spaces))

/-- An item takes all lines that are its own and the list ends with it. -/
theorem readBlock_itemized {ctx : Context} {line : Int} {first : Line} {m : Marker} {lines rest : List Line}
    (hm : marker? first = some m) (hrule : isThematic first = false)
    (hrest : List.Forall₂ (fun inner line => (Layer.item m.column).own? line = some inner) lines rest)
    (hlast : ∀ l ∈ (m.content :: lines).getLast?, isBlankLine l = false) :
    readBlock ctx line first rest = (ctx.inner line (m.content :: lines)).map fun children =>
      ⟨.branch (ctx.span line rest.length)
        (.list m.bullet.isOrdered (if m.bullet.isOrdered then m.number else 1) (!hasGap (m.content :: lines)))
        [.branch (ctx.span line rest.length) .listItem children], rest.length⟩ := by
  have htail : itemTail m.column (!isBlankLine m.content) rest = lines := Layer.tail_of_own? hrest
  have hkept := dropTrailingBlank_eq_self hlast
  have hlength : lines.length = rest.length := hrest.length_eq
  rw [readBlock_eq, opener_of_marker? hm hrule, Opener.read, listBlock, readItems,
    sibling?_eq_some_iff.2 ⟨hm, rfl, hrule⟩]
  simp only [htail, hkept, hlength, List.length_cons, Nat.sub_self, List.drop_length]
  cases ctx.inner line (m.content :: lines) with
  | error e => rfl
  | ok children =>
      simp only [bind, Except.bind, readItems]
      simp [pure, Except.pure, Except.map, Context.span]

theorem getLast?_itemText {mark : Line} {spaces : Nat} {first : Line} {rest : List Line}
    (hlast : ∀ l ∈ (first :: rest).getLast?, isBlankLine l = false) :
    (itemText mark spaces first rest).getLast? ≠ some [] := by
  rw [itemText, List.getLast?_cons, List.getLast?_map]
  rw [List.getLast?_cons] at hlast
  intro hempty
  have hempty := Option.some.inj hempty
  cases hrest : rest.getLast? with
  | none =>
      rw [hrest] at hempty hlast
      exact indented_ne_nil (hlast first rfl) (List.append_eq_nil_iff.1 hempty).2
  | some l =>
      rw [hrest] at hempty hlast
      have hfull : isBlankLine l = false := hlast l rfl
      simp only [Option.map_some, Option.getD_some, itemLine] at hempty
      split at hempty
      · rename_i hnil
        rw [List.isEmpty_iff.1 hnil] at hfull
        cases hfull
      · exact indented_ne_nil hfull hempty

/-- A text with a marker in front and indented below it makes a list of one item, with the bullet and number of
the marker, of what is read one level deeper. -/
theorem itemized_nests {settings : Settings} {file : Option String} {offset depth : Int} {mark : Line}
    {bullet : Bullet} {number spaces : Nat} {first : Line} {rest : List Line} (hdepth : depth ≤ maxNesting)
    (hmark : Says mark bullet number) (hspaces : 1 ≤ spaces ∧ spaces ≤ codeIndent)
    (hplain : ∀ line ∈ first :: rest, IsPlain line)
    (hblank : ∀ line ∈ first :: rest, isBlankLine line = true → line = [])
    (hfirst : isBlankLine first = false) (hhead : first.head? ≠ some ' ')
    (hlast : ∀ line ∈ (first :: rest).getLast?, isBlankLine line = false)
    (hrule : isThematic (mark ++ indented spaces first) = false) :
    readAt settings file offset depth (joinLines (itemText mark spaces first rest)) =
      (readAt settings file offset (depth + 1) (joinLines (first :: rest))).map fun children =>
        [.branch (textLocation file offset (first :: rest))
          (.list bullet.isOrdered number (!hasGap (first :: rest)))
          [.branch (textLocation file offset (first :: rest)) .listItem children]] := by
  have hm := hmark.marker?_eq_some hspaces hfirst hhead
  have hopener : opener (mark ++ indented spaces first) ≠ .text := by
    rw [opener_of_marker? hm hrule]
    exact Opener.noConfusion
  have hlines : ∀ line ∈ itemText mark spaces first rest, IsPlain line := by
    obtain ⟨hplainFirst, hplainRest⟩ := List.forall_mem_cons.1 hplain
    refine List.forall_mem_cons.2 ⟨hmark.isPlain.append (hplainFirst.indented spaces), fun line hline => ?_⟩
    obtain ⟨inner, hinner, rfl⟩ := List.mem_map.1 hline
    exact isPlain_itemLine (hplainRest inner hinner) _
  have hown : List.Forall₂ (fun inner line => (Layer.item (mark.length + spaces)).own? line = some inner) rest
      (rest.map (itemLine (mark.length + spaces))) := by
    rw [List.forall₂_map_right_iff, List.forall₂_same]
    exact fun line hline => own?_itemLine (hblank line (List.mem_cons_of_mem _ hline))
  have hlocation : textLocation file offset (first :: rest) =
      textLocation file offset (itemText mark spaces first rest) := textLocation_congr (by simp [itemText])
  rw [← inner_contextWithin settings file (List.cons_ne_nil first rest) hplain, hlocation]
  refine readAt_of_whole hdepth hlines (isBlankLine_of_marker? hm) hopener (getLast?_itemText hlast) ?_
  rw [readBlock_itemized hm hrule hown hlast, span_contextWithin, hmark.number_eq]
  rfl

def listedFirst : Line := ['-', ' ', 'a']

def listedRest : List Line := [[], indented 2 ['b'], ['>', ' ', 'c']]

/-- The marker and the spaces are in front of the first line, as many spaces below. -/
theorem listedText_nests :
    Says ['0', '7', ')'] (.ordered ')') 7 ∧
    (∀ line ∈ listedFirst :: listedRest, isBlankLine line = true → line = []) ∧
    isThematic (['0', '7', ')'] ++ indented 2 listedFirst) = false ∧
    itemText ['0', '7', ')'] 2 listedFirst listedRest =
      [['0', '7', ')'] ++ indented 2 ['-', ' ', 'a'], [], indented 7 ['b'], indented 5 ['>', ' ', 'c']] ∧
    readAt {} none 3 0 (joinLines (itemText ['0', '7', ')'] 2 listedFirst listedRest)) =
      (readAt {} none 3 1 (joinLines (listedFirst :: listedRest))).map fun children =>
        [.branch ⟨4, 1, some 7, none⟩ (.list true 7 true) [.branch ⟨4, 1, some 7, none⟩ .listItem children]] := by
  have hdigits : ∀ c ∈ ['0', '7'], c.isDigit = true :=
    List.forall_mem_cons.2 ⟨rfl, List.forall_mem_singleton.2 rfl⟩
  have hmark : Says (['0', '7'] ++ [')']) (.ordered ')') 7 :=
    .ordered (List.cons_ne_nil _ _) (by decide) hdigits (.inr rfl)
  have hplain : ∀ line ∈ listedFirst :: listedRest, IsPlain line := by
    simp only [IsPlain]
    decide
  have hblank : ∀ line ∈ listedFirst :: listedRest, isBlankLine line = true → line = [] := by decide
  have hrule : isThematic (['0', '7', ')'] ++ indented 2 listedFirst) = false := by decide
  refine ⟨hmark, hblank, hrule, rfl, ?_⟩
  exact itemized_nests (by decide) hmark (by decide) hplain hblank (by decide) (by decide) (by decide) hrule

end MarkdownOutline.Block
