import MarkdownOutline.Proofs.Block.Drawn
import MarkdownOutline.Proofs.Block.Verbatim

namespace MarkdownOutline.Block

open Text

theorem tab_not_mem_expandTabsFrom (width column : Nat) (cs : List Char) :
    '\t' ∉ expandTabsFrom width column cs := by
  fun_induction expandTabsFrom width column cs with
  | case1 => exact List.not_mem_nil
  | case2 column cs fill ih =>
      refine List.not_mem_append (fun h => ?_) ih
      exact absurd (List.eq_of_mem_replicate h) (by decide)
  | case3 column c cs htab hend ih | case4 column c cs htab hend ih =>
      exact List.not_mem_cons_of_ne_of_not_mem (Ne.symm htab) ih

theorem mem_of_mem_expandTabsFrom {width column : Nat} {cs : List Char} {c : Char}
    (h : c ∈ expandTabsFrom width column cs) : c ∈ cs ∨ c = ' ' := by
  fun_induction expandTabsFrom width column cs with
  | case1 => exact .inl h
  | case2 column cs fill ih =>
      rcases List.mem_append.1 h with hfill | hrest
      · exact .inr (List.eq_of_mem_replicate hfill)
      · exact (ih hrest).imp_left (List.mem_cons_of_mem _)
  | case3 column d cs htab hend ih | case4 column d cs htab hend ih =>
      rcases List.mem_cons.1 h with rfl | hrest
      · exact .inl (List.mem_cons_self ..)
      · exact (ih hrest).imp_left (List.mem_cons_of_mem _)

theorem expandTabs_expandTabs (cs : List Char) (width : Nat) :
    expandTabs (expandTabs cs width) width = expandTabs cs width :=
  expandTabs_eq_self (tab_not_mem_expandTabsFrom width 0 cs) width

theorem expandTabsFrom_space (width column : Nat) (cs : List Char) :
    expandTabsFrom width column (' ' :: cs) = ' ' :: expandTabsFrom width (column + 1) cs := rfl

theorem expandTabsFrom_indented (width column n : Nat) (line : Line) :
    expandTabsFrom width column (indented n line) = indented n (expandTabsFrom width (column + n) line) := by
  induction n generalizing column with
  | zero => rfl
  | succ n ih =>
      have hcons (l : Line) : indented (n + 1) l = ' ' :: indented n l := rfl
      rw [hcons, expandTabsFrom_space, ih, hcons, Nat.add_right_comm, Nat.add_assoc column]

/-- Spaces and tabs in front of a line's content become spaces, and the content is expanded from the column
behind these. -/
theorem exists_expandTabsFrom_eq (width column : Nat) (line : Line) :
    ∃ n, expandTabsFrom width column line =
      indented n (expandTabsFrom width (column + n) (line.dropWhile Inline.isIndent)) := by
  induction line generalizing column with
  | nil => exact ⟨0, rfl⟩
  | cons c cs ih =>
      by_cases htab : c = '\t'
      · subst htab
        obtain ⟨n, hn⟩ := ih (column + (width - column % width))
        refine ⟨width - column % width + n, ?_⟩
        rw [expandTabsFrom, if_pos rfl, List.dropWhile_cons_of_pos rfl, ← Nat.add_assoc]
        simp only [hn, indented, List.replicate_add, List.append_assoc]
      · by_cases hspace : c = ' '
        · subst hspace
          obtain ⟨n, hn⟩ := ih (column + 1)
          refine ⟨n + 1, ?_⟩
          rw [expandTabsFrom_space, hn, List.dropWhile_cons_of_pos rfl, Nat.add_right_comm, Nat.add_assoc column]
          rfl
        · have hcontent : ¬Inline.isIndent c = true := by simp [Inline.isIndent, hspace, htab]
          exact ⟨0, by rw [List.dropWhile_cons_of_neg hcontent]; rfl⟩

/-- The content of a line is kept if and only if it has no tab. -/
theorem suffix_expandTabsFrom_iff (width column : Nat) (line : Line) :
    line.dropWhile Inline.isIndent <:+ expandTabsFrom width column line ↔
      '\t' ∉ line.dropWhile Inline.isIndent := by
  constructor
  · exact fun h htab => tab_not_mem_expandTabsFrom width column line (h.subset htab)
  · intro htab
    obtain ⟨n, hn⟩ := exists_expandTabsFrom_eq width column line
    rw [hn, expandTabsFrom_eq_self htab]
    exact List.suffix_append ..

def untabbed (text : List Char) : List Char := joinLines ((splitLines text).map fun line => expandTabs line)

theorem newline_not_mem_splitLines (text : List Char) : ∀ line ∈ splitLines text, '\n' ∉ line := by
  induction text with
  | nil => exact List.forall_mem_singleton.2 List.not_mem_nil
  | cons c cs ih =>
      by_cases hc : c = '\n'
      · subst hc
        rw [splitLines_newline]
        exact List.forall_mem_cons.2 ⟨List.not_mem_nil, ih⟩
      · obtain ⟨line, rest, hcs⟩ := List.exists_cons_of_ne_nil (splitLines_ne_nil cs)
        rw [hcs] at ih
        obtain ⟨hline, hrest⟩ := List.forall_mem_cons.1 ih
        rw [splitLines_cons hc hcs]
        exact List.forall_mem_cons.2 ⟨List.not_mem_cons_of_ne_of_not_mem (Ne.symm hc) hline, hrest⟩

theorem splitLines_untabbed (text : List Char) :
    splitLines (untabbed text) = (splitLines text).map fun line => expandTabs line := by
  refine splitLines_joinLines ?_ (List.forall_mem_map.2 fun line hline h => ?_)
  · exact fun hnil => splitLines_ne_nil text (List.map_eq_nil_iff.1 hnil)
  · rcases mem_of_mem_expandTabsFrom h with hmem | hspace
    · exact newline_not_mem_splitLines text line hline hmem
    · exact absurd hspace (by decide)

theorem readAt_untabbed (settings : Settings) (file : Option String) (offset depth : Int) (text : List Char) :
    readAt settings file offset depth (untabbed text) = readAt settings file offset depth text := by
  have hlines : ((splitLines text).map fun line => expandTabs line).map (fun line => expandTabs line) =
      (splitLines text).map fun line => expandTabs line := by
    rw [List.map_map]
    exact List.map_congr_left fun line _ => expandTabs_expandTabs line tabWidth
  rw [readAt, splitLines_untabbed, hlines]
  rfl

theorem untabbed_joinLines {lines : List Line} (hne : lines ≠ []) (h : ∀ line ∈ lines, '\n' ∉ line) :
    untabbed (joinLines lines) = joinLines (lines.map fun line => expandTabs line) := by
  rw [untabbed, splitLines_joinLines hne h]

theorem codeIn_of_parse {settings : Settings} {file : Option String} {source : String} {root : Node}
    (h : parse settings file source = .ok root) : root.Throughout (Node.CodeIn (· ≠ '\t')) := by
  obtain ⟨loc, blocks, rfl, hread⟩ := exists_of_parse_eq_ok h
  refine Node.throughout_codeIn_branch (readWithin_codeIn (by decide) (by decide) settings file _ ?_ hread)
  refine List.forall_mem_map.2 fun line _ c hc htab => ?_
  exact tab_not_mem_expandTabsFrom tabWidth 0 line (htab ▸ hc)

theorem untabbed_fencedText {fence : Fence} {code : List Line} (h : fence.IsWritable) (hinfo : IsPlain fence.info)
    (hcode : ∀ l ∈ code, '\n' ∉ l) (size behind : Nat) :
    untabbed (joinLines (fencedText fence code size behind)) =
      joinLines (fencedText fence (code.map (expandTabsFrom tabWidth fence.indent)) size behind) := by
  have hopening : IsPlain fence.opening := h.isPlain_marks hinfo _ _
  have hclosing : IsPlain (fence.closing fence.indent size behind) :=
    h.isPlain_marks (isPlain_replicate (by decide) (by decide) behind) _ _
  have hlines : ∀ l ∈ fencedText fence code size behind, '\n' ∉ l := by
    refine List.forall_mem_cons.2 ⟨hopening.2, List.forall_mem_append.2 ⟨?_, ?_⟩⟩
    · refine List.forall_mem_map.2 fun l hl => List.not_mem_append (fun h => ?_) (hcode l hl)
      exact absurd (List.eq_of_mem_replicate h) (by decide)
    · exact List.forall_mem_singleton.2 hclosing.2
  have hexpand (l : Line) :
      expandTabs (indented fence.indent l) = indented fence.indent (expandTabsFrom tabWidth fence.indent l) := by
    rw [expandTabs, expandTabsFrom_indented, Nat.zero_add]
  rw [untabbed_joinLines (by rw [fencedText]; exact List.cons_ne_nil _ _) hlines]
  simp only [fencedText, List.map_cons, List.map_append, List.map_map, List.map_nil, Function.comp_def, hexpand,
    expandTabs_eq_self hopening.1, expandTabs_eq_self hclosing.1]

/-- A line keeps what follows its indent if and only if no tab is there; a source is read like the one with
spaces for all its tabs, and its code has none; code between fences is read with the tabs of its lines filled
up to the stops. -/
theorem tabs_expanded (settings : Settings) (file : Option String) :
    (∀ (width column : Nat) (line : Line),
      line.dropWhile Inline.isIndent <:+ expandTabsFrom width column line ↔
        '\t' ∉ line.dropWhile Inline.isIndent) ∧
    (∀ (offset depth : Int) (text : List Char),
      readAt settings file offset depth text = readAt settings file offset depth (untabbed text)) ∧
    (∀ (source : String) (root : Node),
      parse settings file source = .ok root → root.Throughout (Node.CodeIn (· ≠ '\t'))) ∧
    ∀ (offset depth : Int) (fence : Fence) (code : List Line) (size behind : Nat), depth ≤ maxNesting →
      fence.IsWritable → IsPlain fence.info → fence.size ≤ size → (∀ l ∈ code, '\n' ∉ l) →
      (∀ l ∈ code, ¬fence.Closes (indented fence.indent (expandTabsFrom tabWidth fence.indent l))) →
      readAt settings file offset depth (joinLines (fencedText fence code size behind)) =
        .ok [.leaf (textLocation file offset (fencedText fence code size behind))
          (.codeBlock (String.ofList (codeText (code.map (expandTabsFrom tabWidth fence.indent))))
            (fence.info?.map String.ofList) true)] := by
  refine ⟨suffix_expandTabsFrom_iff, fun _ _ _ => (readAt_untabbed ..).symm, fun _ _ => codeIn_of_parse, ?_⟩
  intro offset depth fence code size behind hdepth h hinfo hsize hcode hopen
  have hplain : ∀ l ∈ code.map (expandTabsFrom tabWidth fence.indent), IsPlain l := by
    refine List.forall_mem_map.2 fun l hl => ⟨tab_not_mem_expandTabsFrom _ _ l, fun hmem => ?_⟩
    exact (mem_of_mem_expandTabsFrom hmem).elim (hcode l hl) (by decide)
  have hlength : (fencedText fence (code.map (expandTabsFrom tabWidth fence.indent)) size behind).length =
      (fencedText fence code size behind).length := by simp [fencedText]
  rw [← readAt_untabbed, untabbed_fencedText h hinfo hcode,
    readAt_fenced hdepth h hinfo hsize hplain (List.forall_mem_map.2 hopen), textLocation_congr hlength]

def plainFence : Fence := ⟨0, '~', 3, []⟩

def tabbedCode : List Line := ["a\tb".toList, "\t\tc".toList]

def tabbedSpan : Node :=
  .branch ⟨1, 1, some 1, none⟩ .document
    [.branch ⟨1, 1, some 1, none⟩ .paragraph [.leaf ⟨1, 1, some 1, none⟩ (.codeSpan "a  b")]]

theorem tabbedCode_expanded :
    joinLines (fencedText plainFence tabbedCode 3 0) = "~~~\na\tb\n\t\tc\n~~~".toList ∧
    readAt {} none 0 0 (joinLines (fencedText plainFence tabbedCode 3 0)) =
      .ok [.leaf ⟨1, 1, some 4, none⟩ (.codeBlock "a   b\n        c\n" none true)] ∧
    parse {} none "`a\tb`" = .ok tabbedSpan ∧ tabbedSpan.Throughout (Node.CodeIn (· ≠ '\t')) := by
  have hfence : plainFence.IsWritable := ⟨.inr rfl, by decide, by decide, by decide, by decide⟩
  have hopen : ∀ l ∈ tabbedCode, ¬plainFence.Closes (indented 0 (expandTabsFrom tabWidth 0 l)) := by
    simp only [← hfence.isClosedBy_iff]
    decide
  have hparse : parse {} none "`a\tb`" = .ok tabbedSpan := ok_of_toOption (by decide +kernel)
  refine ⟨rfl, ?_, hparse, (tabs_expanded {} none).2.2.1 _ _ hparse⟩
  exact (tabs_expanded {} none).2.2.2 0 0 plainFence tabbedCode 3 0 (by decide) hfence ⟨by decide, by decide⟩
    (by decide) (by decide) hopen

/-- The tab is behind other text and is not kept. -/
theorem tab_not_kept :
    '\n' ∉ "a\tb".toList ∧ '\r' ∉ "a\tb".toList ∧
      ¬"a\tb".toList.dropWhile Inline.isIndent <:+ expandTabs "a\tb".toList := by
  decide

end MarkdownOutline.Block
