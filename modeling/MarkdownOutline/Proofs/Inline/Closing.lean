import MarkdownOutline.Proofs.Inline.Label

namespace MarkdownOutline.Inline

/-- The places that the scan of a text comes to, each with the pieces in front of it, the character in
front, the text that is pending, and what is left. -/
inductive Stands (ctx : Context) (source : List Char) :
    List Piece → Option Char → Option (List Char) → List Char → Prop
  | start : Stands ctx source [] none none source
  | text {done before pending c rest text taken} (h : Stands ctx source done before pending (c :: rest))
      (hstep : step ctx before c rest = ⟨.text text, taken⟩) :
      Stands ctx source done (some ((rest.take taken).getLastD c))
        (some (text.reverse ++ pending.getD [])) (rest.drop taken)
  | piece {done before pending c rest piece taken} (h : Stands ctx source done before pending (c :: rest))
      (hstep : step ctx before c rest = ⟨.piece piece, taken⟩) :
      Stands ctx source (done ++ (flush pending ++ [piece])) (some ((rest.take taken).getLastD c)) none
        (rest.drop taken)
  | newline {done before pending c rest taken} (h : Stands ctx source done before pending (c :: rest))
      (hstep : step ctx before c rest = ⟨.newline, taken⟩) :
      Stands ctx source (done ++ newlinePieces ctx pending) (some ((rest.take taken).getLastD c)) none
        (rest.drop taken)

/-- The pieces of the text are those in front of the place and those that are found from there. -/
theorem Stands.scan_eq {ctx : Context} {source rest : List Char} {done : List Piece} {before : Option Char}
    {pending : Option (List Char)} (h : Stands ctx source done before pending rest) :
    scan ctx source = done ++ scanFrom ctx before pending rest := by
  induction h with
  | start => rfl
  | text h hstep ih => rw [ih, scanFrom_of_text ctx hstep]
  | piece h hstep ih =>
      rw [ih, scanFrom_of_piece ctx hstep, List.append_assoc, List.append_assoc, List.singleton_append]
  | newline h hstep ih => rw [ih, scanFrom_of_newline ctx hstep, List.append_assoc]

def IsPadded (line inner : List Char) : Prop := line = ' ' :: (inner ++ [' ']) ∧ ∃ c ∈ inner, c ≠ ' '

def onOneLine (text : List Char) : List Char := text.map fun c => if c = '\n' then ' ' else c

/-- Padding is left out once, at both ends or at none. -/
structure IsCode (text code : List Char) : Prop where
  padded : ∀ inner, IsPadded (onOneLine text) inner → code = inner
  bare : (∀ inner, ¬IsPadded (onOneLine text) inner) → code = onOneLine text

theorem newline_not_mem_onOneLine (text : List Char) : '\n' ∉ onOneLine text := by
  intro hmem
  obtain ⟨c, _, hc⟩ := List.mem_map.1 hmem
  by_cases hnewline : c = '\n'
  · rw [if_pos hnewline] at hc
    cases hc
  · rw [if_neg hnewline] at hc
    exact hnewline hc

theorem onOneLine_of_not_mem {text : List Char} (h : '\n' ∉ text) : onOneLine text = text := by
  refine (List.map_congr_left fun c hc => if_neg ?_).trans (List.map_id' text)
  intro hnewline
  exact h (hnewline ▸ hc)

theorem codeOf_onOneLine (text : List Char) : codeOf (onOneLine text) = codeOf text := by
  have honce : onOneLine (onOneLine text) = onOneLine text :=
    onOneLine_of_not_mem (newline_not_mem_onOneLine text)
  rw [codeOf, codeOf]
  exact congrArg (fun line : List Char =>
    if 2 < line.length && line.head? == some ' ' && line.getLast? == some ' ' && line.any (· != ' ') then
      line.tail.dropLast
    else line) honce

theorem isPadded_of_ends {line : List Char} (hfirst : line.head? = some ' ') (hlast : line.getLast? = some ' ')
    (hfull : ∃ c ∈ line, c ≠ ' ') : ∃ inner, IsPadded line inner := by
  obtain ⟨rest, rfl⟩ := List.head?_eq_some_iff.1 hfirst
  obtain ⟨c, hc, hspace⟩ := hfull
  rcases List.eq_nil_or_concat rest with rfl | ⟨inner, d, rfl⟩
  · exact absurd (List.mem_singleton.1 hc) hspace
  · rw [List.concat_eq_append] at hlast hc ⊢
    rw [← List.cons_append, List.getLast?_concat] at hlast
    obtain rfl : d = ' ' := Option.some.inj hlast
    refine ⟨inner, rfl, c, ?_, hspace⟩
    simpa [hspace] using hc

theorem isCode_codeOf (text : List Char) : IsCode text (codeOf text) where
  padded inner := by
    intro hpadded
    obtain ⟨hline, hfull⟩ := hpadded
    have hnewline := newline_not_mem_onOneLine text
    rw [hline] at hnewline
    have hinner : '\n' ∉ inner := fun hmem => hnewline (by simp [hmem])
    rw [← codeOf_onOneLine, hline]
    exact codeOf_spaced hinner hfull
  bare := by
    intro hbare
    change (if _ then _ else onOneLine text) = onOneLine text
    apply if_neg
    intro hends
    simp only [Bool.and_eq_true, beq_iff_eq, List.any_eq_true, bne_iff_ne] at hends
    obtain ⟨inner, hinner⟩ := isPadded_of_ends hends.1.1.2 hends.1.2 hends.2
    exact hbare inner hinner

structure IsClosed (size : Nat) (cs text after : List Char) : Prop where
  eq : cs = text ++ (List.replicate size '`' ++ after)
  front : text.getLast? ≠ some '`'
  behind : after.head? ≠ some '`'
  first : ¬HasRun size text

section

variable {ctx : Context} {size : Nat} {rest : List Char} (hrest : rest.head? ≠ some '`')
include hrest

theorem step_backticks (before : Option Char) :
    step ctx before '`' (List.replicate size '`' ++ rest) =
      (beforeRun? (size + 1) rest).elim ⟨.text (List.replicate (size + 1) '`'), size⟩ fun text =>
        ⟨.piece (.node (.leaf ctx.loc (.codeSpan (String.ofList (codeOf text))))),
          size + text.length + (size + 1)⟩ := by
  have hmore : countLeading '`' (List.replicate size '`' ++ rest) = size :=
    countLeading_replicate_append '`' size hrest
  have hspan : codeSpan? (List.replicate size '`' ++ rest) =
      (beforeRun? (size + 1) rest).map fun text => (codeOf text, size + text.length + (size + 1)) := by
    simp only [codeSpan?, hmore, List.drop_left' List.length_replicate]
  have hcode : step ctx before '`' (List.replicate size '`' ++ rest) =
      codeStep ctx (List.replicate size '`' ++ rest) := rfl
  rw [hcode, codeStep, hspan]
  cases beforeRun? (size + 1) rest with
  | none => simp only [Option.map_none, hmore, Option.elim_none]
  | some text => rfl

variable {source : List Char} {done : List Piece} {before : Option Char} {pending : Option (List Char)}

theorem Stands.backticks (h : Stands ctx source done before pending (List.replicate size '`' ++ rest))
    (hsize : 0 < size) (hrun : ¬HasRun size rest) :
    Stands ctx source done (some '`') (some (List.replicate size '`' ++ pending.getD [])) rest := by
  obtain ⟨n, rfl⟩ := Nat.exists_eq_succ_of_ne_zero hsize.ne'
  have hstep := @step_backticks ctx n rest hrest before
  rw [(beforeRun?_eq_none_iff hsize).2 hrun, Option.elim_none] at hstep
  rw [List.replicate_succ, List.cons_append] at h
  have hnext := h.text hstep
  rw [List.take_left' List.length_replicate, List.drop_left' List.length_replicate, List.reverse_replicate]
    at hnext
  have hlast : (List.replicate n '`').getLastD '`' = '`' := by
    rw [List.getLastD_eq_getLast?, List.getLast?_replicate]
    split <;> rfl
  rwa [hlast] at hnext

theorem Stands.codeSpan (h : Stands ctx source done before pending (List.replicate size '`' ++ rest))
    (hsize : 0 < size) (hrun : HasRun size rest) :
    ∃ text after, IsClosed size rest text after ∧
      Stands ctx source
        (done ++ (flush pending ++ [.node (.leaf ctx.loc (.codeSpan (String.ofList (codeOf text))))]))
        (some '`') none after := by
  obtain ⟨n, rfl⟩ := Nat.exists_eq_succ_of_ne_zero hsize.ne'
  obtain ⟨text, htext⟩ : ∃ text, beforeRun? (n + 1) rest = some text := by
    rw [← Option.ne_none_iff_exists', ne_eq, beforeRun?_eq_none_iff hsize, not_not]
    exact hrun
  obtain ⟨after, rfl, hafter, hlast, hfirst⟩ := exists_of_beforeRun? hsize htext
  have hstep := @step_backticks ctx n _ hrest before
  rw [htext, Option.elim_some] at hstep
  rw [List.replicate_succ, List.cons_append, ← List.replicate_succ] at h
  have hnext := h.piece hstep
  -- The closing run ends what the step takes.
  have htaken : List.replicate n '`' ++ (text ++ (List.replicate (n + 1) '`' ++ after)) =
      (List.replicate n '`' ++ text ++ List.replicate (n + 1) '`') ++ after := by simp
  have hlength : (List.replicate n '`' ++ text ++ List.replicate (n + 1) '`').length =
      n + text.length + (n + 1) := by simp [Nat.add_assoc]
  rw [htaken, List.take_left' hlength, List.drop_left' hlength] at hnext
  have hclosing : (List.replicate n '`' ++ text ++ List.replicate (n + 1) '`').getLastD '`' = '`' := by
    rw [List.replicate_succ', ← List.append_assoc, List.getLastD_concat]
  rw [hclosing] at hnext
  exact ⟨text, after, ⟨rfl, hlast, hafter, hfirst⟩, hnext⟩

end

/-- Wherever the scan comes to a run of backticks, the first later run of the same length closes a code
span, and without such a run the backticks are text. Code between spaces is read back if it holds no run
of as many backticks as there are around it. -/
theorem backticks_closed {ctx : Context} {source rest : List Char} {done : List Piece} {before : Option Char}
    {pending : Option (List Char)} {size : Nat}
    (h : Stands ctx source done before pending (List.replicate size '`' ++ rest)) (hsize : 0 < size)
    (hrest : rest.head? ≠ some '`') :
    (HasRun size rest → ∃ text after code, IsClosed size rest text after ∧ IsCode text code ∧
      Stands ctx source (done ++ (flush pending ++ [.node (.leaf ctx.loc (.codeSpan (String.ofList code)))]))
        (some '`') none after ∧
      scan ctx source = done ++ (flush pending ++ [.node (.leaf ctx.loc (.codeSpan (String.ofList code)))]) ++
        scanFrom ctx (some '`') none after) ∧
    (¬HasRun size rest →
      Stands ctx source done (some '`') (some (List.replicate size '`' ++ pending.getD [])) rest ∧
      scan ctx source = done ++ scanFrom ctx (some '`') (some (List.replicate size '`' ++ pending.getD [])) rest) ∧
    ∀ (settings : Settings) (loc : Location) (room : Nat) (code : List Char),
      '\n' ∉ code → (∃ c ∈ code, c ≠ ' ') → ¬HasRun size code →
      readWithin settings loc room (writeCode size code) = [.leaf loc (.codeSpan (String.ofList code))] := by
  refine ⟨?_, ?_, ?_⟩
  · intro hrun
    obtain ⟨text, after, hclosed, hstands⟩ := h.codeSpan hrest hsize hrun
    exact ⟨text, after, codeOf text, hclosed, isCode_codeOf text, hstands, hstands.scan_eq⟩
  · intro hrun
    have hstands := h.backticks hrest hsize hrun
    exact ⟨hstands, hstands.scan_eq⟩
  · intro settings loc room code hline hfull hrun
    exact readWithin_writeCode settings loc room hsize hline hfull hrun

/-- A shorter run and a longer one stand in front of the one that closes. -/
theorem longerRun_closed :
    Stands ⟨{}, ⟨1, 1, none, none⟩, none⟩ "x``a`\n```b``y".toList [] (some 'x') (some ['x'])
      (List.replicate 2 '`' ++ "a`\n```b``y".toList) ∧
    0 < 2 ∧ "a`\n```b``y".toList.head? ≠ some '`' ∧ HasRun 2 "a`\n```b``y".toList ∧
    ∃ text after code, IsClosed 2 "a`\n```b``y".toList text after ∧ IsCode text code ∧
      Stands ⟨{}, ⟨1, 1, none, none⟩, none⟩ "x``a`\n```b``y".toList
        ([] ++ (flush (some ['x']) ++ [.node (.leaf ⟨1, 1, none, none⟩ (.codeSpan (String.ofList code)))]))
        (some '`') none after ∧
      scan ⟨{}, ⟨1, 1, none, none⟩, none⟩ "x``a`\n```b``y".toList =
        [] ++ (flush (some ['x']) ++ [.node (.leaf ⟨1, 1, none, none⟩ (.codeSpan (String.ofList code)))]) ++
          scanFrom ⟨{}, ⟨1, 1, none, none⟩, none⟩ (some '`') none after := by
  have hstands : Stands ⟨{}, ⟨1, 1, none, none⟩, none⟩ "x``a`\n```b``y".toList [] (some 'x') (some ['x'])
      (List.replicate 2 '`' ++ "a`\n```b``y".toList) := by
    have hfirst : Stands ⟨{}, ⟨1, 1, none, none⟩, none⟩ "x``a`\n```b``y".toList [] none none
        ('x' :: (List.replicate 2 '`' ++ "a`\n```b``y".toList)) := by
      rw [show 'x' :: (List.replicate 2 '`' ++ "a`\n```b``y".toList) = "x``a`\n```b``y".toList by decide]
      exact Stands.start
    have hstep : step ⟨{}, ⟨1, 1, none, none⟩, none⟩ none 'x'
        (List.replicate 2 '`' ++ "a`\n```b``y".toList) = ⟨.text ['x'], 0⟩ := rfl
    exact hfirst.text hstep
  have hhead : "a`\n```b``y".toList.head? ≠ some '`' := by decide
  have hrun : HasRun 2 "a`\n```b``y".toList :=
    ⟨"a`\n```b".toList, ['y'], by decide, by decide, by decide⟩
  exact ⟨hstands, Nat.two_pos, hhead, hrun, (backticks_closed hstands Nat.two_pos hhead).1 hrun⟩

end MarkdownOutline.Inline
