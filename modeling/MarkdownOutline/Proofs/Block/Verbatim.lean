import MarkdownOutline.Proofs.Block.Whole

namespace MarkdownOutline.Block

open Text

namespace Fence

structure IsWritable (fence : Fence) : Prop where
  mark : fence.mark = '`' ∨ fence.mark = '~'
  size : minFence ≤ fence.size
  indent : fence.indent < codeIndent
  info : fence.info.head? ≠ some fence.mark
  backtick : fence.mark = '`' → '`' ∉ fence.info

def opening (fence : Fence) : Line := indented fence.indent (List.replicate fence.size fence.mark ++ fence.info)

def closing (fence : Fence) (width size behind : Nat) : Line :=
  indented width (List.replicate size fence.mark ++ List.replicate behind ' ')

/-- A line that closes a fence has at least as many of its marks, and is not indented as deep as code. -/
def Closes (fence : Fence) (line : Line) : Prop :=
  ∃ width < codeIndent, ∃ size ≥ fence.size, ∃ behind, line = fence.closing width size behind

namespace IsWritable

variable {fence : Fence} (h : fence.IsWritable)
include h

theorem mark_ne {c : Char} (htick : c ≠ '`') (htilde : c ≠ '~') : fence.mark ≠ c := by
  rcases h.mark with hmark | hmark
  · exact hmark.trans_ne htick.symm
  · exact hmark.trans_ne htilde.symm

theorem size_pos : 0 < fence.size := Nat.lt_of_lt_of_le (Nat.zero_lt_succ 2) h.size

theorem head?_marks {size : Nat} (hsize : 0 < size) (behind : Line) :
    (List.replicate size fence.mark ++ behind).head? ≠ some ' ' := by
  obtain ⟨n, rfl⟩ := Nat.exists_eq_succ_of_ne_zero hsize.ne'
  rw [List.replicate_succ, List.cons_append, List.head?_cons]
  exact fun hhead => h.mark_ne (by decide) (by decide) (Option.some.inj hhead)

theorem isPlain_marks {behind : Line} (hbehind : IsPlain behind) (width size : Nat) :
    IsPlain (indented width (List.replicate size fence.mark ++ behind)) := by
  have hmarks : IsPlain (List.replicate size fence.mark) :=
    isPlain_replicate (h.mark_ne (by decide) (by decide)) (h.mark_ne (by decide) (by decide)) size
  exact (hmarks.append hbehind).indented width

end IsWritable

end Fence

theorem fence?_opening {fence : Fence} (h : fence.IsWritable) : fence? fence.opening = some fence := by
  have hhead := h.head?_marks h.size_pos fence.info
  have hsize : Inline.countLeading fence.mark (List.replicate fence.size fence.mark ++ fence.info) = fence.size :=
    Inline.countLeading_replicate_append _ _ h.info
  have hinfo : (List.replicate fence.size fence.mark ++ fence.info).drop fence.size = fence.info :=
    List.drop_left' List.length_replicate
  have hbacktick : (decide (fence.mark = '`') && fence.info.contains '`') = false := by
    simpa using h.backtick
  obtain ⟨n, hn⟩ := Nat.exists_eq_succ_of_ne_zero h.size_pos.ne'
  have hcons : List.replicate fence.size fence.mark ++ fence.info =
      fence.mark :: (List.replicate n fence.mark ++ fence.info) := by
    rw [hn]
    rfl
  rw [Inline.countLeading] at hsize
  rw [hcons] at hhead hsize hinfo
  rw [Fence.opening, hcons, fence?, unindent?_indented h.indent hhead, indentOf_indented hhead]
  simp only [Option.bind_eq_bind, Option.bind_some, hsize, hinfo, hbacktick]
  rw [if_pos]
  simpa using ⟨h.mark, h.size⟩

namespace Fence

variable {fence : Fence}

theorem closes_of_isClosedBy {line : Line} (h : fence.isClosedBy line = true) : fence.Closes line := by
  rw [isClosedBy] at h
  cases hcontent : unindent? line with
  | none =>
      rw [hcontent] at h
      cases h
  | some content =>
      obtain ⟨width, hwidth, rfl, _⟩ := exists_of_unindent? hcontent
      rw [hcontent, Bool.and_eq_true, decide_eq_true_eq] at h
      obtain ⟨hsize, hbehind⟩ := h
      have hspaces : content.drop (Inline.countLeading fence.mark content) =
          List.replicate (content.drop (Inline.countLeading fence.mark content)).length ' ' :=
        List.eq_replicate_iff.2 ⟨rfl, fun c hc => of_decide_eq_true (List.all_eq_true.1 hbehind c hc)⟩
      refine ⟨width, hwidth, Inline.countLeading fence.mark content, hsize,
        (content.drop (Inline.countLeading fence.mark content)).length, ?_⟩
      rw [closing, ← hspaces, Inline.replicate_countLeading]

theorem IsWritable.isClosedBy_closing (h : fence.IsWritable) {width size : Nat} (hwidth : width < codeIndent)
    (hsize : fence.size ≤ size) (behind : Nat) : fence.isClosedBy (fence.closing width size behind) = true := by
  have hstop : (List.replicate behind ' ').head? ≠ some fence.mark := by
    intro hhead
    exact h.mark_ne (by decide) (by decide) (List.eq_of_mem_replicate (List.mem_of_head? hhead))
  have hcount : Inline.countLeading fence.mark (List.replicate size fence.mark ++ List.replicate behind ' ') =
      size := Inline.countLeading_replicate_append _ _ hstop
  rw [Inline.countLeading] at hcount
  rw [isClosedBy, closing, unindent?_indented hwidth (h.head?_marks (Nat.lt_of_lt_of_le h.size_pos hsize) _)]
  simp only [hcount, List.drop_left' List.length_replicate, Bool.and_eq_true, decide_eq_true_eq]
  refine ⟨hsize, List.all_eq_true.2 fun c hc => ?_⟩
  rw [List.eq_of_mem_replicate hc]
  rfl

theorem IsWritable.isClosedBy_iff (h : fence.IsWritable) {line : Line} :
    fence.isClosedBy line = true ↔ fence.Closes line := by
  constructor
  · exact closes_of_isClosedBy
  · rintro ⟨width, hwidth, size, hsize, behind, rfl⟩
    exact h.isClosedBy_closing hwidth hsize behind

end Fence

/-- The code of a fence ends at the first line that closes it. -/
theorem Fence.body_append_closing {fence : Fence} {code : List Line} {line : Line}
    (hcode : ∀ l ∈ code, fence.isClosedBy (indented fence.indent l) = false) (hline : fence.isClosedBy line = true)
    (below : List Line) :
    fence.body (code.map (indented fence.indent) ++ line :: below) = (code, code.length + 1) := by
  induction code with
  | nil =>
      rw [List.map_nil, List.nil_append, body, if_pos hline]
      rfl
  | cons l code ih =>
      obtain ⟨hl, hrest⟩ := List.forall_mem_cons.1 hcode
      rw [List.map_cons, List.cons_append, body, hl, ih hrest]
      simp only [Nat.min_eq_left (le_indentOf_indented ..), drop_indented, Bool.false_eq_true, if_false,
        List.length_cons]

def fencedText (fence : Fence) (code : List Line) (size behind : Nat) : List Line :=
  fence.opening :: (code.map (indented fence.indent) ++ [fence.closing fence.indent size behind])

section

variable {ctx : Context} {line : Int} {code : List Line}

theorem readBlock_fenced {fence : Fence} {size : Nat} (h : fence.IsWritable) (hsize : fence.size ≤ size)
    (hcode : ∀ l ∈ code, ¬fence.Closes (indented fence.indent l)) (behind : Nat) (below : List Line) :
    readBlock ctx line fence.opening
        (code.map (indented fence.indent) ++ fence.closing fence.indent size behind :: below) =
      .ok ⟨.leaf (ctx.span line (code.length + 1))
        (.codeBlock (String.ofList (codeText code)) (fence.info?.map String.ofList) true), code.length + 1⟩ := by
  have hopen : ∀ l ∈ code, fence.isClosedBy (indented fence.indent l) = false := fun l hl =>
    Bool.eq_false_iff.2 fun hclosed => hcode l hl (Fence.closes_of_isClosedBy hclosed)
  have hclose := h.isClosedBy_closing h.indent hsize behind
  rw [readBlock_eq, opener_of_fence? (fence?_opening h), Opener.read, fenceBlock,
    Fence.body_append_closing hopen hclose]

theorem isCodeLine_indented (line : Line) : isCodeLine (indented codeIndent line) = true := by
  rw [isCodeLine, decide_eq_true (le_indentOf_indented codeIndent line), Bool.or_true]

theorem indentedCode_indented (h : ∀ l ∈ code.getLast?, isBlankLine l = false) :
    indentedCode (code.map (indented codeIndent)) = codeText code := by
  have hdrop : (code.map (indented codeIndent)).map (List.drop codeIndent) = code := by
    rw [List.map_map]
    exact (List.map_congr_left fun l _ => drop_indented codeIndent l).trans (List.map_id code)
  rw [indentedCode, hdrop, dropTrailingBlank_eq_self h]

theorem readBlock_indented {first : Line} (hlast : ∀ l ∈ (first :: code).getLast?, isBlankLine l = false) :
    readBlock ctx line (indented codeIndent first) (code.map (indented codeIndent)) =
      .ok ⟨.leaf (ctx.span line code.length) (.codeBlock (String.ofList (codeText (first :: code))) none false),
        code.length⟩ := by
  have htail : (code.map (indented codeIndent)).takeWhile isCodeLine = code.map (indented codeIndent) :=
    List.takeWhile_eq_self_iff.2 (List.forall_mem_map.2 fun l _ => isCodeLine_indented l)
  rw [readBlock_eq, opener_of_indentOf (le_indentOf_indented codeIndent first), Opener.read, indentedBlock, htail,
    ← List.map_cons, indentedCode_indented hlast, List.length_map]

end

section

variable {settings : Settings} {file : Option String} {offset depth : Int} (hdepth : depth ≤ maxNesting)
include hdepth

theorem readAt_of_leaf {first : Line} {rest : List Line} {loc : Location} {leaf : Leaf}
    (hplain : ∀ line ∈ first :: rest, IsPlain line) (hfirst : isBlankLine first = false)
    (hopener : opener first ≠ .text) (hlast : (first :: rest).getLast? ≠ some [])
    (hread : readBlock (contextWithin settings file (maxNesting - depth).toNat) (offset + 1) first rest =
      .ok ⟨.leaf loc leaf, rest.length⟩) :
    readAt settings file offset depth (joinLines (first :: rest)) = .ok [.leaf loc leaf] := by
  have hwhole : readBlock (contextWithin settings file (maxNesting - depth).toNat) (offset + 1) first rest =
      (Except.ok leaf).map fun a => ⟨.leaf loc a, rest.length⟩ := hread
  exact readAt_of_whole hdepth hplain hfirst hopener hlast hwhole

theorem readAt_fenced {fence : Fence} {code : List Line} {size : Nat} (h : fence.IsWritable)
    (hinfo : IsPlain fence.info) (hsize : fence.size ≤ size) (hplain : ∀ l ∈ code, IsPlain l)
    (hcode : ∀ l ∈ code, ¬fence.Closes (indented fence.indent l)) (behind : Nat) :
    readAt settings file offset depth (joinLines (fencedText fence code size behind)) =
      .ok [.leaf (textLocation file offset (fencedText fence code size behind))
        (.codeBlock (String.ofList (codeText code)) (fence.info?.map String.ofList) true)] := by
  have hfence := fence?_opening h
  have hopener : opener fence.opening ≠ .text := by
    rw [opener_of_fence? hfence]
    exact Opener.noConfusion
  have hlines : ∀ l ∈ fencedText fence code size behind, IsPlain l := by
    refine List.forall_mem_cons.2 ⟨h.isPlain_marks hinfo _ _, List.forall_mem_append.2 ⟨?_, ?_⟩⟩
    · exact List.forall_mem_map.2 fun l hl => (hplain l hl).indented _
    · exact List.forall_mem_singleton.2 (h.isPlain_marks (isPlain_replicate (by decide) (by decide) behind) _ _)
  have hlast : (fencedText fence code size behind).getLast? ≠ some [] := by
    rw [fencedText, ← List.cons_append, List.getLast?_concat]
    intro hnil
    have hmarks := (List.append_eq_nil_iff.1 (List.append_eq_nil_iff.1 (Option.some.inj hnil)).2).1
    have hpos := Nat.lt_of_lt_of_le h.size_pos hsize
    exact hpos.ne' ((List.replicate_eq_nil_iff _).1 hmarks)
  refine readAt_of_leaf hdepth hlines (isBlankLine_of_fence? hfence) hopener hlast ?_
  have hlength : (code.map (indented fence.indent) ++ [fence.closing fence.indent size behind]).length =
      code.length + 1 := by simp
  rw [readBlock_fenced h hsize hcode, fencedText, ← span_contextWithin settings file (maxNesting - depth).toNat,
    hlength]

theorem readAt_indented {first : Line} {rest : List Line} (hplain : ∀ l ∈ first :: rest, IsPlain l)
    (hfirst : isBlankLine first = false) (hlast : ∀ l ∈ (first :: rest).getLast?, isBlankLine l = false) :
    readAt settings file offset depth (joinLines ((first :: rest).map (indented codeIndent))) =
      .ok [.leaf (textLocation file offset (first :: rest))
        (.codeBlock (String.ofList (codeText (first :: rest))) none false)] := by
  have hopener : opener (indented codeIndent first) ≠ .text := by
    rw [opener_of_indentOf (le_indentOf_indented codeIndent first)]
    exact Opener.noConfusion
  have hlines : ∀ l ∈ (first :: rest).map (indented codeIndent), IsPlain l :=
    List.forall_mem_map.2 fun l hl => (hplain l hl).indented _
  have hfull : ((first :: rest).map (indented codeIndent)).getLast? ≠ some [] := by
    rw [List.getLast?_map]
    intro hnil
    obtain ⟨l, hl, hnil⟩ := Option.map_eq_some_iff.1 hnil
    exact indented_ne_nil (hlast l hl) hnil
  refine readAt_of_leaf hdepth hlines ((isBlankLine_indented codeIndent first).trans hfirst) hopener hfull ?_
  rw [readBlock_indented hlast, ← span_contextWithin settings file (maxNesting - depth).toNat, List.length_map]

/-- Code between fences is read as the lines that were written, each with its line ending, and so are lines with
the indent of code in front. -/
theorem code_verbatim :
    (∀ (fence : Fence) (code : List Line) (size behind : Nat), fence.IsWritable → IsPlain fence.info →
      fence.size ≤ size → (∀ l ∈ code, IsPlain l) → (∀ l ∈ code, ¬fence.Closes (indented fence.indent l)) →
      readAt settings file offset depth (joinLines (fencedText fence code size behind)) =
        .ok [.leaf (textLocation file offset (fencedText fence code size behind))
          (.codeBlock (String.ofList (code.flatMap (· ++ ['\n'])))
            (if trim isBlank fence.info = [] then none else some (String.ofList (trim isBlank fence.info))) true)]) ∧
    ∀ code : List Line, code ≠ [] → (∀ l ∈ code, IsPlain l) → (∀ l ∈ code.head?, isBlankLine l = false) →
      (∀ l ∈ code.getLast?, isBlankLine l = false) →
      readAt settings file offset depth (joinLines (code.map (indented codeIndent))) =
        .ok [.leaf (textLocation file offset code)
          (.codeBlock (String.ofList (code.flatMap (· ++ ['\n']))) none false)] := by
  constructor
  · intro fence code size behind h hinfo hsize hplain hcode
    have hstripped : fence.info?.map String.ofList =
        if trim isBlank fence.info = [] then none else some (String.ofList (trim isBlank fence.info)) := by
      simp only [Fence.info?, List.isEmpty_iff]
      split <;> rfl
    rw [readAt_fenced hdepth h hinfo hsize hplain hcode, hstripped]
    rfl
  · intro code hne hplain hhead hlast
    obtain ⟨first, rest, rfl⟩ := List.exists_cons_of_ne_nil hne
    exact readAt_indented hdepth hplain (hhead first rfl) hlast

end

def markedFence : Fence := ⟨2, '~', 4, " py ~x ".toList⟩

def markedCode : List Line :=
  ["~~~".toList, "````".toList, [], "   ".toList, "~~~~ x".toList, "  ~~~~".toList, "- # a".toList]

theorem markedCode_verbatim :
    markedFence.IsWritable ∧ (∀ l ∈ markedCode, ¬markedFence.Closes (indented 2 l)) ∧
    readAt {} none 3 1 (joinLines (fencedText markedFence markedCode 5 1)) =
      .ok [.leaf ⟨4, 1, some 12, none⟩
        (.codeBlock "~~~\n````\n\n   \n~~~~ x\n  ~~~~\n- # a\n" (some "py ~x") true)] ∧
    readAt {} none 3 1 (joinLines (markedCode.map (indented 4))) =
      .ok [.leaf ⟨4, 1, some 10, none⟩
        (.codeBlock "~~~\n````\n\n   \n~~~~ x\n  ~~~~\n- # a\n" none false)] := by
  have hfence : markedFence.IsWritable := ⟨.inr rfl, by decide, by decide, by decide, by decide⟩
  have hplain : ∀ l ∈ markedCode, IsPlain l := by
    simp only [IsPlain]
    decide
  have hcode : ∀ l ∈ markedCode, ¬markedFence.Closes (indented 2 l) := by
    simp only [← hfence.isClosedBy_iff]
    decide
  refine ⟨hfence, hcode, ?_, ?_⟩
  · exact (code_verbatim (by decide)).1 markedFence markedCode 5 1 hfence ⟨by decide, by decide⟩ (by decide) hplain
      hcode
  · exact (code_verbatim (by decide)).2 markedCode (by decide) hplain (by decide) (by decide)

end MarkdownOutline.Block
