import MarkdownOutline.Proofs.Block.Whole

namespace MarkdownOutline.Block

open Text

/-- A line with the mark of a quote in front. A line that begins with a space needs another one behind the
mark. -/
inductive IsQuoted (line : Line) : Line → Prop
  | spaced {width : Nat} : width < codeIndent → IsQuoted line (indented width ('>' :: ' ' :: line))
  | bare {width : Nat} : width < codeIndent → line.head? ≠ some ' ' →
      IsQuoted line (indented width ('>' :: line))

inductive QuotedTimes (lines : List Line) : Nat → List Line → Prop
  | zero : QuotedTimes lines 0 lines
  | succ {n : Nat} {inner quoted : List Line} : QuotedTimes lines n inner →
      List.Forall₂ IsQuoted inner quoted → QuotedTimes lines (n + 1) quoted

def inQuotes (loc : Location) (node : Node) : Nat → Node
  | 0 => node
  | n + 1 => .branch loc .blockQuote [inQuotes loc node n]

section

variable {line quoted : Line} (h : IsQuoted line quoted)
include h

theorem IsQuoted.unquote?_eq_some : unquote? quoted = some line := by
  cases h with
  | spaced hwidth =>
      rw [unquote?, unindent?_indented hwidth (by simp)]
      rfl
  | bare hwidth hline =>
      rw [unquote?, unindent?_indented hwidth (by simp)]
      cases line with
      | nil => rfl
      | cons c cs =>
          have hc : c ≠ ' ' := fun hc => hline (congrArg some hc)
          simp [hc]

theorem IsQuoted.isPlain (hline : IsPlain line) : IsPlain quoted := by
  cases h with
  | spaced => exact IsPlain.indented ⟨by simpa using hline.1, by simpa using hline.2⟩ _
  | bare => exact IsPlain.indented ⟨by simpa using hline.1, by simpa using hline.2⟩ _

theorem IsQuoted.ne_nil : quoted ≠ [] := by
  cases h <;> simp [indented]

end

theorem isPlain_of_quoted {lines quoted : List Line} (h : List.Forall₂ IsQuoted lines quoted)
    (hplain : ∀ line ∈ lines, IsPlain line) : ∀ line ∈ quoted, IsPlain line := by
  induction h with
  | nil => exact fun _ hline => (List.not_mem_nil hline).elim
  | cons hline _ ih =>
      obtain ⟨hfirst, hrest⟩ := List.forall_mem_cons.1 hplain
      exact List.forall_mem_cons.2 ⟨hline.isPlain hfirst, ih hrest⟩

theorem nil_not_mem_of_quoted {lines quoted : List Line} (h : List.Forall₂ IsQuoted lines quoted) :
    [] ∉ quoted := by
  induction h with
  | nil => exact List.not_mem_nil
  | cons hline _ ih => exact List.not_mem_cons_of_ne_of_not_mem hline.ne_nil.symm ih

namespace QuotedTimes

variable {lines quoted : List Line} {n : Nat} (h : QuotedTimes lines n quoted)
include h

theorem length_eq : quoted.length = lines.length := by
  induction h with
  | zero => rfl
  | succ _ hquoted ih => rw [← hquoted.length_eq, ih]

theorem ne_nil (hne : lines ≠ []) : quoted ≠ [] := by
  intro hnil
  rw [← List.length_eq_zero_iff, h.length_eq, List.length_eq_zero_iff] at hnil
  exact hne hnil

theorem isPlain (hplain : ∀ line ∈ lines, IsPlain line) : ∀ line ∈ quoted, IsPlain line := by
  induction h with
  | zero => exact hplain
  | succ _ hquoted ih => exact isPlain_of_quoted hquoted ih

end QuotedTimes

/-- A block quote takes all lines that are marked, and its children are read from them less the marks. -/
theorem readBlock_quoted {ctx : Context} {line : Int} {inner first : Line} {lines rest : List Line}
    (hfirst : IsQuoted inner first) (hrest : List.Forall₂ IsQuoted lines rest) :
    readBlock ctx line first rest = (ctx.inner line (inner :: lines)).map fun children =>
      ⟨.branch (ctx.span line rest.length) .blockQuote children, rest.length⟩ := by
  have htail : quoteTail (!isBlankLine inner) rest = lines :=
    Layer.quote.tail_of_own? (hrest.imp fun _ _ h => h.unquote?_eq_some)
  rw [readBlock_eq, opener_of_unquote? hfirst.unquote?_eq_some, Opener.read, quoteBlock, htail, hrest.length_eq]
  cases ctx.inner line (inner :: lines) <;> rfl

theorem readAt_quoted {settings : Settings} {file : Option String} {offset depth : Int} {lines quoted : List Line}
    (hne : lines ≠ []) (hplain : ∀ line ∈ lines, IsPlain line) (hdepth : depth ≤ maxNesting)
    (h : List.Forall₂ IsQuoted lines quoted) :
    readAt settings file offset depth (joinLines quoted) =
      (readAt settings file offset (depth + 1) (joinLines lines)).map fun children =>
        [.branch (textLocation file offset lines) .blockQuote children] := by
  rw [← inner_contextWithin settings file hne hplain, textLocation_congr h.length_eq]
  cases h with
  | nil => exact absurd rfl hne
  | @cons inner first lines rest hfirst hrest =>
      have hmark := hfirst.unquote?_eq_some
      have hblank : isBlankLine first = false := (Layer.Opens.quote hmark).isBlankLine_eq_false
      have hopener : opener first ≠ .text := by
        rw [opener_of_unquote? hmark]
        exact Opener.noConfusion
      have hlast : (first :: rest).getLast? ≠ some [] := fun hlast =>
        nil_not_mem_of_quoted (.cons hfirst hrest) (List.mem_of_getLast? hlast)
      refine readAt_of_whole hdepth (isPlain_of_quoted (.cons hfirst hrest) hplain) hblank hopener hlast ?_
      rw [readBlock_quoted hfirst hrest, span_contextWithin]

def IsFlat : Node → Prop
  | .branch _ .blockQuote _ | .branch _ (.list ..) _ => False
  | _ => True

section

variable {settings : Settings} {file : Option String} {inner other : Reader} {line : Int}

theorem readBlock_of_isFlat {first : Line} {rest : List Line} {block : Taken}
    (h : readBlock ⟨settings, file, inner⟩ line first rest = .ok block) (hflat : IsFlat block.node) :
    readBlock ⟨settings, file, other⟩ line first rest = .ok block := by
  rw [readBlock_eq] at h ⊢
  cases hopener : opener first with
  | quote content =>
      rw [hopener] at h
      obtain ⟨children, _, h⟩ := exists_of_bind_eq_ok h
      cases h
      exact hflat.elim
  | item m =>
      rw [hopener] at h
      obtain ⟨items, _, h⟩ := exists_of_bind_eq_ok h
      cases h
      exact hflat.elim
  | _ =>
      rw [hopener] at h
      exact h

theorem readBlocks_of_isFlat {lines : List Line} {nodes : List Node}
    (h : readBlocks ⟨settings, file, inner⟩ line lines = .ok nodes) (hflat : ∀ n ∈ nodes, IsFlat n) :
    readBlocks ⟨settings, file, other⟩ line lines = .ok nodes := by
  fun_induction readBlocks ⟨settings, file, inner⟩ line lines generalizing nodes with
  | case1 =>
      rw [readBlocks]
      exact h
  | case2 line first rest hfirst ih =>
      rw [readBlocks, if_pos hfirst]
      exact ih h hflat
  | case3 line first rest hfirst ih =>
      obtain ⟨block, hblock, h⟩ := exists_of_bind_eq_ok h
      obtain ⟨blocks, hblocks, h⟩ := exists_of_bind_eq_ok h
      cases h
      obtain ⟨hnode, hnodes⟩ := List.forall_mem_cons.1 hflat
      rw [readBlocks, if_neg hfirst, readBlock_of_isFlat hblock hnode]
      simp only [bind, Except.bind]
      rw [ih block hblocks hnodes]
      rfl

/-- What is read into a paragraph at some depth is read into it at all others, but not as a title block. -/
theorem readAt_paragraph {offset depth inner : Int} {text : List Char} {loc : Location} {children : List Node}
    (h : readAt settings file offset inner text = .ok [.branch loc .paragraph children]) (hpos : 0 < depth)
    (hdepth : depth ≤ maxNesting) :
    readAt settings file offset depth text = .ok [.branch loc .paragraph children] := by
  rw [readAt] at h ⊢
  generalize (splitLines text).map (fun line => expandTabs line) = lines at h ⊢
  have hroom : ((maxNesting : Int) + 1 - depth).toNat = (maxNesting - depth).toNat + 1 := by omega
  have hlt : (maxNesting - depth).toNat < maxNesting := by omega
  rw [hroom, readWithin_succ_of_lt hlt]
  generalize ((maxNesting : Int) + 1 - inner).toNat = room at h
  cases room with
  | zero => cases h
  | succ room =>
      rw [readWithin_succ, readLevel] at h
      have hblocks : readBlocks (contextWithin settings file room) (offset + 1) (dropEmptyLast lines) =
          .ok [.branch loc .paragraph children] := by
        split at h
        -- A title block is no paragraph, so there is none.
        · simp only [readTitled] at h
          split at h
          · exact h
          · obtain ⟨blocks, _, h⟩ := exists_of_bind_eq_ok h
            cases h
        · exact h
      exact readBlocks_of_isFlat hblocks (List.forall_mem_singleton.2 trivial)

end

section

variable {settings : Settings} {file : Option String} {offset depth : Int} {lines quoted : List Line} {n : Nat}
  (hne : lines ≠ []) (hplain : ∀ line ∈ lines, IsPlain line)

theorem readAt_of_maxNesting_lt (hdepth : maxNesting < depth) (text : List Char) :
    readAt settings file offset depth text = .error (tooDeep file (offset + 1)) := by
  have hroom : ((maxNesting : Int) + 1 - depth).toNat = 0 := by omega
  rw [readAt, hroom]
  rfl

include hne hplain

theorem readAt_quotedTimes {node : Node} (h : QuotedTimes lines n quoted) (hdepth : depth + n ≤ maxNesting)
    (hnode : readAt settings file offset (depth + n) (joinLines lines) = .ok [node]) :
    readAt settings file offset depth (joinLines quoted) =
      .ok [inQuotes (textLocation file offset lines) node n] := by
  induction h generalizing depth with
  | zero =>
      rw [Int.natCast_zero, Int.add_zero] at hnode
      exact hnode
  | @succ n inner quoted htimes hquoted ih =>
      rw [Int.natCast_succ, Int.add_comm (n : Int), ← Int.add_assoc] at hdepth hnode
      rw [readAt_quoted (htimes.ne_nil hne) (htimes.isPlain hplain) (by omega) hquoted, ih hdepth hnode,
        textLocation_congr htimes.length_eq]
      rfl

theorem readAt_quotedTimes_of_lt (h : QuotedTimes lines n quoted) (hdepth : maxNesting < depth + n) :
    readAt settings file offset depth (joinLines quoted) = .error (tooDeep file (offset + 1)) := by
  induction h generalizing depth with
  | zero =>
      rw [Int.natCast_zero, Int.add_zero] at hdepth
      exact readAt_of_maxNesting_lt hdepth _
  | @succ n inner quoted htimes hquoted ih =>
      rw [Int.natCast_succ, Int.add_comm (n : Int), ← Int.add_assoc] at hdepth
      by_cases hlimit : depth ≤ maxNesting
      · rw [readAt_quoted (htimes.ne_nil hne) (htimes.isPlain hplain) hlimit hquoted, ih hdepth]
        rfl
      · exact readAt_of_maxNesting_lt (Int.lt_of_not_ge hlimit) _

end

/-- Marks in front of all lines make a quote of what is read one level deeper. A paragraph that is quoted a
number of times lies in as many quotes, as far as these nest, and otherwise the first line is too deep. -/
theorem quoted_nests (settings : Settings) (file : Option String) (offset depth : Int) {lines : List Line}
    (hne : lines ≠ []) (hplain : ∀ line ∈ lines, IsPlain line) :
    (depth ≤ maxNesting → ∀ quoted, List.Forall₂ IsQuoted lines quoted →
      readAt settings file offset depth (joinLines quoted) =
        (readAt settings file offset (depth + 1) (joinLines lines)).map fun children =>
          [.branch (textLocation file offset lines) .blockQuote children]) ∧
    ∀ n quoted, QuotedTimes lines n quoted →
      (∀ inner loc children,
        readAt settings file offset inner (joinLines lines) = .ok [.branch loc .paragraph children] →
        0 < depth + n → depth + n ≤ maxNesting →
        readAt settings file offset depth (joinLines quoted) =
          .ok [inQuotes (textLocation file offset lines) (.branch loc .paragraph children) n]) ∧
      (maxNesting < depth + n →
        readAt settings file offset depth (joinLines quoted) = .error (tooDeep file (offset + 1))) := by
  refine ⟨fun hdepth quoted hquoted => readAt_quoted hne hplain hdepth hquoted, fun n quoted htimes => ⟨?_, ?_⟩⟩
  · intro inner loc children hread hpos hdepth
    exact readAt_quotedTimes hne hplain htimes hdepth (readAt_paragraph hread hpos hdepth)
  · exact fun hdepth => readAt_quotedTimes_of_lt hne hplain htimes hdepth

def spacedLines : List Line := [[' ', 'a'], indented 4 ['>', ' ', 'b'], ['c']]

def spacedQuoted : List Line :=
  [indented 2 ('>' :: ' ' :: [' ', 'a']), indented 0 ('>' :: ' ' :: indented 4 ['>', ' ', 'b']),
    indented 3 ('>' :: ['c'])]

def spacedTwice : List Line :=
  [indented 0 ('>' :: ' ' :: indented 2 ('>' :: ' ' :: [' ', 'a'])),
    indented 3 ('>' :: indented 0 ('>' :: ' ' :: indented 4 ['>', ' ', 'b'])),
    indented 1 ('>' :: ' ' :: indented 3 ('>' :: ['c']))]

def spacedChildren : List Node :=
  [.leaf ⟨4, 1, some 6, none⟩ (.text "a"), .leaf ⟨4, 1, some 6, none⟩ .softBreak,
    .leaf ⟨4, 1, some 6, none⟩ (.text "> b"), .leaf ⟨4, 1, some 6, none⟩ .softBreak,
    .leaf ⟨4, 1, some 6, none⟩ (.text "c")]

def spacedParagraph : Node := .branch ⟨4, 1, some 6, none⟩ .paragraph spacedChildren

theorem spacedParagraph_nests :
    List.Forall₂ IsQuoted spacedLines spacedQuoted ∧ QuotedTimes spacedLines 2 spacedTwice ∧
    readAt {} none 3 0 (joinLines spacedLines) = .ok [spacedParagraph] ∧
    readAt {} none 3 0 (joinLines spacedQuoted) =
      (readAt {} none 3 1 (joinLines spacedLines)).map (fun children =>
        [.branch ⟨4, 1, some 6, none⟩ .blockQuote children]) ∧
    readAt {} none 3 0 (joinLines spacedTwice) =
      .ok [inQuotes ⟨4, 1, some 6, none⟩ spacedParagraph 2] ∧
    readAt {} none 3 63 (joinLines spacedTwice) = .error (tooDeep none 4) := by
  have hne : spacedLines ≠ [] := List.cons_ne_nil _ _
  have hplain : ∀ line ∈ spacedLines, IsPlain line := by
    simp only [IsPlain]
    decide
  have hquoted : List.Forall₂ IsQuoted spacedLines spacedQuoted :=
    .cons (.spaced (by decide)) (.cons (.spaced (by decide)) (.cons (.bare (by decide) (by decide)) .nil))
  have htwice : QuotedTimes spacedLines 2 spacedTwice :=
    .succ (.succ .zero hquoted)
      (.cons (.spaced (by decide)) (.cons (.bare (by decide) (by decide)) (.cons (.spaced (by decide)) .nil)))
  have hread : readAt {} none 3 0 (joinLines spacedLines) = .ok [spacedParagraph] :=
    ok_of_toOption (by decide +kernel)
  refine ⟨hquoted, htwice, hread, ?_, ?_, ?_⟩
  · exact (quoted_nests {} none 3 0 hne hplain).1 (by decide) spacedQuoted hquoted
  · exact ((quoted_nests {} none 3 0 hne hplain).2 2 spacedTwice htwice).1 0 _ _ hread (by decide) (by decide)
  · exact ((quoted_nests {} none 3 63 hne hplain).2 2 spacedTwice htwice).2 (by decide)

end MarkdownOutline.Block
