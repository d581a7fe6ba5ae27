import MarkdownOutline.Proofs.Inline.First

namespace MarkdownOutline.Inline

section

variable {size : Nat} {code : List Char}

theorem scan_backticks (ctx : Context) (hsize : 0 < size) {cs : List Char} (hhead : cs.head? ≠ some '`')
    (hrun : ¬HasRun size cs) :
    ∃ text pieces, scan ctx (List.replicate size '`' ++ cs) = .text text :: pieces := by
  obtain ⟨n, rfl⟩ := Nat.exists_eq_succ_of_ne_zero hsize.ne'
  have hmore : countLeading '`' (List.replicate n '`' ++ cs) = n := countLeading_replicate_append _ _ hhead
  have hspan : codeSpan? (List.replicate n '`' ++ cs) = none := by
    simp only [codeSpan?, hmore, List.drop_left' List.length_replicate,
      (beforeRun?_eq_none_iff hsize).2 hrun, Option.map_none]
  have hstep : step ctx none '`' (List.replicate n '`' ++ cs) = ⟨.text (List.replicate (n + 1) '`'), n⟩ := by
    have hcode : step ctx none '`' (List.replicate n '`' ++ cs) =
        codeStep ctx (List.replicate n '`' ++ cs) := rfl
    simp only [hcode, codeStep, hspan, hmore]
  have hpending : ∃ c ∈ (some ((List.replicate (n + 1) '`').reverse ++ [])).getD [], c ≠ ' ' :=
    ⟨'`', by simp, by decide⟩
  obtain ⟨text, pieces, hpieces⟩ := exists_scanFrom_text ctx
    (some (((List.replicate n '`' ++ cs).take n).getLastD '`')) hpending
    ((List.replicate n '`' ++ cs).drop n)
  exact ⟨text, pieces, (scanFrom_of_text ctx hstep).trans hpieces⟩

theorem exists_readWithin_backticks (settings : Settings) (loc : Location) (room : Nat) (hsize : 0 < size)
    {cs : List Char} (hhead : cs.head? ≠ some '`') (hrun : ¬HasRun size cs) :
    ∃ text rest, readWithin settings loc room (List.replicate size '`' ++ cs) =
      .leaf loc (.text text) :: rest := by
  have hassemble (ctx : Context) : ∃ text rest,
      assemble loc (scan ctx (List.replicate size '`' ++ cs)) = .leaf loc (.text text) :: rest := by
    obtain ⟨text, pieces, hscan⟩ := scan_backticks ctx hsize hhead hrun
    rw [hscan]
    exact exists_assemble_text loc text pieces
  cases room <;> exact hassemble _

theorem readWithin_writeCode (settings : Settings) (loc : Location) (room : Nat) (hsize : 0 < size)
    (hline : '\n' ∉ code) (hfull : ∃ c ∈ code, c ≠ ' ') (hrun : ¬HasRun size code) :
    readWithin settings loc room (writeCode size code) = [.leaf loc (.codeSpan (String.ofList code))] := by
  obtain ⟨n, rfl⟩ := Nat.exists_eq_succ_of_ne_zero hsize.ne'
  obtain ⟨tail, hwritten, hspan⟩ := codeSpan?_writeCode hline hfull hrun
  have hscan (ctx : Context) : scan ctx (writeCode (n + 1) code) =
      [.node (.leaf ctx.loc (.codeSpan (String.ofList code)))] := by
    have hstep : step ctx none '`' tail =
        ⟨.piece (.node (.leaf ctx.loc (.codeSpan (String.ofList code)))), tail.length⟩ := by
      have hcode : step ctx none '`' tail = codeStep ctx tail := rfl
      simp only [hcode, codeStep, hspan, leafStep]
    rw [hwritten, scan_of_node hstep]
  cases room <;> exact congrArg (assemble loc) (hscan _)

theorem infix_of_infix_spaced {word cs : List Char} (hword : word ≠ []) (hspace : ' ' ∉ word)
    (h : word <:+: ' ' :: (cs ++ [' '])) : word <:+: cs := by
  rcases List.infix_cons_iff.1 h with hprefix | hinfix
  · obtain ⟨c, word, rfl⟩ := List.exists_cons_of_ne_nil hword
    rw [(List.cons_prefix_cons.1 hprefix).1] at hspace
    exact absurd (List.mem_cons_self ..) hspace
  · rcases List.infix_concat_iff.1 hinfix with hsuffix | hinfix
    · have hlast := List.getLast_mem hword
      rw [hsuffix.getLast hword, List.getLast_concat] at hlast
      exact absurd hlast hspace
    · exact hinfix

/-- Without a longer run in it the span is hidden as a whole. -/
theorem visible_writeCode (hsize : 0 < size) (hrun : ¬HasRun size code)
    (hshort : ¬List.replicate (size + 1) '`' <:+: code) : visible (writeCode size code) = [] := by
  obtain ⟨n, rfl⟩ := Nat.exists_eq_succ_of_ne_zero hsize.ne'
  obtain ⟨tail, hwritten, hmore, hbody, hlength⟩ := exists_writeCode n code []
  rw [List.append_nil] at hmore hbody
  have hspaced : ¬List.replicate (n + 1) '`' <:+: ' ' :: (code ++ [' ']) := by
    rw [← infix_succ_iff ((not_congr (hasRun_spaced_iff hsize)).2 hrun)]
    exact fun h => hshort (infix_of_infix_spaced (by simp) (by simp) h)
  have hdistance : toBackticks? (n + 1) (tail.drop n) = some (' ' :: (code ++ [' '])).length := by
    rw [hbody]
    refine toBackticks?_append hsize _ hspaced ?_
    rw [← List.cons_append, List.getLast?_concat]
    decide
  have hhidden : hiddenByBacktick tail = tail.length := by
    simp only [hiddenByBacktick, hmore, hdistance, hlength]
  rw [hwritten, visible, if_neg (by decide), if_pos rfl, hhidden, List.drop_length, visible]

theorem exists_of_writeCode_eq {label rest : List Char} (hsize : 0 < size) (hrun : ¬HasRun size code)
    (h : writeCode size code = label ++ ']' :: rest) :
    ∃ cs, label = List.replicate size '`' ++ cs ∧ cs.head? ≠ some '`' ∧ ¬HasRun size cs := by
  have hticks (front : List Char) {behind : List Char} :
      List.replicate size '`' ≠ front ++ ']' :: behind := by
    intro heq
    have hmem : ']' ∈ List.replicate size '`' := by simp [heq]
    cases List.eq_of_mem_replicate hmem
  rcases List.append_eq_append_iff.1 h with ⟨cs, rfl, hcs⟩ | ⟨cs, hlabel, hcs⟩
  · rcases List.append_eq_append_iff.1 hcs with ⟨more, rfl, hmore⟩ | ⟨more, hcode, hmore⟩
    · exact absurd hmore (hticks _)
    · cases more with
      | nil => exact absurd hmore.symm (hticks [])
      | cons c more =>
          obtain ⟨rfl, _⟩ := List.cons.inj hmore
          refine ⟨cs, rfl, ?_, fun hcs => hrun ?_⟩
          · cases cs with
            | nil => cases hcode
            | cons d cs =>
                rw [List.head?_cons, ← (List.cons.inj hcode).1]
                simp
          · rw [← hasRun_spaced_iff hsize, hcode]
            exact hcs.append (by decide) more
  · cases cs with
    | nil => cases hcs
    | cons c cs =>
        obtain ⟨rfl, _⟩ := List.cons.inj hcs
        exact absurd hlabel (hticks _)

theorem getLast?_writeCode (hsize : 0 < size) : (writeCode size code).getLast? = some '`' := by
  have hne : List.replicate size '`' ≠ [] := by simp [hsize.ne']
  rw [writeCode, ← List.append_assoc, List.getLast?_append_of_ne_nil _ hne, List.getLast?_replicate,
    if_neg hsize.ne']

def labelled (span : List Char) : List Char := '[' :: (span ++ [']', '(', 'u', ')'])

section

variable (settings : Settings) (loc : Location)

theorem read_labelled (hsize : 0 < size) (hline : '\n' ∉ code) (hfull : ∃ c ∈ code, c ≠ ' ')
    (hrun : ¬HasRun size code) (h : IsBalanced (visible (writeCode size code))) :
    read settings loc (labelled (writeCode size code)) =
      [.branch loc (.link "u" none) [.leaf loc (.codeSpan (String.ofList code))]] := by
  have hlast : (writeCode size code).getLast? ≠ some '\\' := by
    rw [getLast?_writeCode hsize]
    decide
  have hrest : '`' ∉ ['(', 'u', ')'] := by decide
  have htarget : target? ['(', 'u', ')'] = some (⟨['u'], none⟩, 3) :=
    target?_bare (.bare ⟨rfl, by decide⟩ .nil) []
  have hlink := link?_of_closing ((toClosingBracket?_eq_length_iff hrest hlast).2 h) htarget
  have hlength : (writeCode size code).length + 1 + 3 =
      (writeCode size code ++ ']' :: ['(', 'u', ')']).length := by simp
  rw [hlength] at hlink
  refine (read_eq_link settings loc hlink).trans ?_
  rw [readWithin_writeCode settings loc _ hsize hline hfull hrun]
  rfl

theorem isBalanced_of_read_labelled (hsize : 0 < size) (hrun : ¬HasRun size code)
    (h : read settings loc (labelled (writeCode size code)) =
      [.branch loc (.link "u" none) [.leaf loc (.codeSpan (String.ofList code))]]) :
    IsBalanced (visible (writeCode size code)) := by
  have hlast : (writeCode size code).getLast? ≠ some '\\' := by
    rw [getLast?_writeCode hsize]
    decide
  have hrest : '`' ∉ ['(', 'u', ')'] := by decide
  rw [← toClosingBracket?_eq_length_iff hrest hlast]
  obtain ⟨reference, taken, hlink, hchildren⟩ := exists_of_read_eq_branch h
  obtain ⟨rest, hlabel, hclosing⟩ := exists_of_link? hlink
  rcases List.append_eq_append_iff.1 hlabel with ⟨more, hmore, hbehind⟩ | ⟨more, hmore, hbehind⟩
  · cases more with
    | nil =>
        rw [hmore, List.append_nil] at hclosing
        exact hclosing
    | cons c more =>
        have hmem : ']' ∈ ['(', 'u', ')'] := by
          rw [(List.cons.inj hbehind).2]
          exact List.mem_append_right _ (List.mem_cons_self ..)
        exact absurd hmem (by decide)
  · cases more with
    | nil =>
        rw [List.append_nil] at hmore
        rw [← hmore] at hclosing
        exact hclosing
    | cons c more =>
        -- A bracket of the code has ended the label, which holds no code span then.
        obtain ⟨rfl, _⟩ := List.cons.inj hbehind
        obtain ⟨cs, hcs, hhead, hlone⟩ := exists_of_writeCode_eq hsize hrun hmore
        obtain ⟨text, rest, htext⟩ := exists_readWithin_backticks settings loc (maxLabelNesting - 1) hsize hhead hlone
        rw [hcs, htext] at hchildren
        cases (List.cons.inj hchildren).1

end

/-- A code span in brackets is read as a link with that code span for its label exactly if the brackets
of the code that the search for the end of the label sees are balanced. It sees none unless the code holds
a run of more backticks than the span begins with. In any text the search passes over what the scanner
reads as a code span exactly if no longer run stands in the way. -/
theorem codeSpan_label (settings : Settings) (loc : Location) (hsize : 0 < size) (hline : '\n' ∉ code)
    (hfull : ∃ c ∈ code, c ≠ ' ') (hrun : ¬HasRun size code) :
    (read settings loc (labelled (writeCode size code)) =
        [.branch loc (.link "u" none) [.leaf loc (.codeSpan (String.ofList code))]] ↔
      IsBalanced (visible (writeCode size code))) ∧
    (¬List.replicate (size + 1) '`' <:+: code →
      read settings loc (labelled (writeCode size code)) =
        [.branch loc (.link "u" none) [.leaf loc (.codeSpan (String.ofList code))]]) ∧
    ∀ (ctx : Context) (cs : List Char), hiddenByBacktick cs = (codeStep ctx cs).taken ↔
      ¬List.replicate (countLeading '`' cs + 2) '`' <:+: codeBody cs := by
  have hread := read_labelled settings loc hsize hline hfull hrun
  refine ⟨⟨isBalanced_of_read_labelled settings loc hsize hrun, hread⟩, fun hshort => hread ?_,
    hiddenByBacktick_eq_taken_iff⟩
  rw [visible_writeCode hsize hrun hshort]
  rfl

end

/-- Three backticks within a span of one leave its brackets in sight, and as they are balanced the link is
found. -/
theorem balancedCode_label : 0 < 1 ∧ '\n' ∉ "a```[]b".toList ∧ (∃ c ∈ "a```[]b".toList, c ≠ ' ') ∧
    ¬HasRun 1 "a```[]b".toList ∧ visible (writeCode 1 "a```[]b".toList) = ['[', ']'] ∧
    read {} ⟨1, 1, none, none⟩ (labelled (writeCode 1 "a```[]b".toList)) =
      [.branch ⟨1, 1, none, none⟩ (.link "u" none)
        [.leaf ⟨1, 1, none, none⟩ (.codeSpan (String.ofList "a```[]b".toList))]] := by
  have hline : '\n' ∉ "a```[]b".toList := by decide
  have hfull : ∃ c ∈ "a```[]b".toList, c ≠ ' ' := ⟨'a', by decide, by decide⟩
  have hrun : ¬HasRun 1 "a```[]b".toList := (beforeRun?_eq_none_iff Nat.one_pos).1 (by decide +kernel)
  have hvisible : visible (writeCode 1 "a```[]b".toList) = ['[', ']'] := by decide +kernel
  have hbalanced : IsBalanced (visible (writeCode 1 "a```[]b".toList)) := by
    rw [hvisible]
    rfl
  exact ⟨Nat.one_pos, hline, hfull, hrun, hvisible,
    (codeSpan_label {} ⟨1, 1, none, none⟩ Nat.one_pos hline hfull hrun).1.2 hbalanced⟩

/-- A closing bracket behind three backticks within a span of one ends the label, and with nothing like a
target behind it there is no link. -/
theorem longRun_not_linked : 0 < 1 ∧ '\n' ∉ "a```]b".toList ∧ (∃ c ∈ "a```]b".toList, c ≠ ' ') ∧
    ¬HasRun 1 "a```]b".toList ∧ labelled (writeCode 1 "a```]b".toList) = "[` a```]b `](u)".toList ∧
    read {} ⟨1, 1, none, none⟩ (labelled (writeCode 1 "a```]b".toList)) ≠
      [.branch ⟨1, 1, none, none⟩ (.link "u" none)
        [.leaf ⟨1, 1, none, none⟩ (.codeSpan (String.ofList "a```]b".toList))]] := by
  have hrun : ¬HasRun 1 "a```]b".toList := (beforeRun?_eq_none_iff Nat.one_pos).1 (by decide +kernel)
  exact ⟨Nat.one_pos, by decide, ⟨'a', by decide, by decide⟩, hrun, by decide, by decide +kernel⟩

end MarkdownOutline.Inline
