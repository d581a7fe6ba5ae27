import Mathlib.Data.List.Infix
import MarkdownOutline.Inline.Link
import MarkdownOutline.Text.Category

namespace MarkdownOutline.Inline

theorem drop_countLeading (c : Char) (cs : List Char) :
    cs.drop (countLeading c cs) = cs.dropWhile (· = c) := Text.drop_length_takeWhile _ cs

theorem replicate_countLeading (c : Char) (cs : List Char) :
    List.replicate (countLeading c cs) c ++ cs.drop (countLeading c cs) = cs := by
  have hrun : cs.takeWhile (· = c) = List.replicate (countLeading c cs) c :=
    List.eq_replicate_iff.2 ⟨rfl, fun d hd => by simpa using List.all_eq_true.1 List.all_takeWhile d hd⟩
  rw [drop_countLeading, ← hrun]
  exact List.takeWhile_append_dropWhile

theorem head?_drop_countLeading (c : Char) (cs : List Char) :
    (cs.drop (countLeading c cs)).head? ≠ some c := by
  intro hhead
  have hstop := List.head?_dropWhile_not (fun d => decide (d = c)) cs
  rw [← drop_countLeading, hhead] at hstop
  simp at hstop

theorem cons_eq_replicate_append (c : Char) (cs : List Char) :
    c :: cs = List.replicate (countLeading c cs + 1) c ++ cs.drop (countLeading c cs) := by
  rw [List.replicate_succ, List.cons_append, replicate_countLeading]

theorem countLeading_replicate_append (c : Char) (n : Nat) {rest : List Char} (h : rest.head? ≠ some c) :
    countLeading c (List.replicate n c ++ rest) = n := by
  have hstop : rest.takeWhile (· = c) = [] := by
    cases rest with
    | nil => rfl
    | cons d rest =>
        refine List.takeWhile_cons_of_neg ?_
        intro hd
        exact h (congrArg some (of_decide_eq_true hd))
  have hall : ∀ d ∈ List.replicate n c, decide (d = c) = true := by
    intro d hd
    simpa using List.eq_of_mem_replicate hd
  rw [countLeading, List.takeWhile_append_of_pos hall, hstop, List.append_nil, List.length_replicate]

theorem getLast?_cons_eq_iff {c d : Char} (hc : c ≠ d) {cs : List Char} :
    (c :: cs).getLast? = some d ↔ cs.getLast? = some d := by
  cases cs with
  | nil => simp [hc]
  | cons e cs => rw [List.getLast?_cons_cons]

/-- Somewhere exactly `size` backticks stand in a row, with no backtick on either side. -/
def HasRun (size : Nat) (cs : List Char) : Prop :=
  ∃ before after, cs = before ++ (List.replicate size '`' ++ after) ∧
    before.getLast? ≠ some '`' ∧ after.head? ≠ some '`'

section

variable {size : Nat} (hsize : 0 < size)
include hsize

theorem not_hasRun_nil : ¬HasRun size [] := by
  rintro ⟨before, after, h, _⟩
  have hlength := congrArg List.length h
  simp at hlength
  omega

theorem head?_replicate_append (after : List Char) :
    (List.replicate size '`' ++ after).head? = some '`' := by
  obtain ⟨n, rfl⟩ := Nat.exists_eq_succ_of_ne_zero hsize.ne'
  rfl

theorem hasRun_cons_iff {c : Char} (hc : c ≠ '`') {cs : List Char} :
    HasRun size (c :: cs) ↔ HasRun size cs := by
  constructor
  · rintro ⟨before, after, h, hlast, hafter⟩
    cases before with
    | nil =>
        have hhead := head?_replicate_append hsize after
        rw [← List.nil_append (List.replicate size '`' ++ after), ← h] at hhead
        exact absurd (Option.some.inj hhead) hc
    | cons d before =>
        obtain ⟨rfl, hcs⟩ := List.cons.inj h
        exact ⟨before, after, hcs, mt (getLast?_cons_eq_iff hc).2 hlast, hafter⟩
  · rintro ⟨before, after, rfl, hlast, hafter⟩
    exact ⟨c :: before, after, rfl, mt (getLast?_cons_eq_iff hc).1 hlast, hafter⟩

theorem hasRun_replicate_append_iff {n : Nat} (hn : 0 < n) {rest : List Char}
    (hrest : rest.head? ≠ some '`') :
    HasRun size (List.replicate n '`' ++ rest) ↔ size = n ∨ HasRun size rest := by
  constructor
  · rintro ⟨before, after, h, hlast, hafter⟩
    rcases List.append_eq_append_iff.1 h with ⟨between, rfl, hbehind⟩ | ⟨between, hbefore, hbehind⟩
    · right
      refine ⟨between, after, hbehind, fun hbetween => hlast ?_, hafter⟩
      rw [List.getLast?_append, hbetween, Option.some_or]
    · left
      -- The run begins within the leading one, so it is the leading one.
      have hnil : before = [] := by
        by_contra hne
        refine hlast ?_
        have hmem := List.getLast_mem hne
        rw [List.getLast?_eq_some_getLast hne]
        exact congrArg some (List.eq_of_mem_replicate (hbefore ▸ List.mem_append_left _ hmem))
      rw [hnil, List.nil_append] at hbefore
      have hcount := congrArg (countLeading '`') hbehind
      rwa [← hbefore, countLeading_replicate_append _ _ hafter,
        countLeading_replicate_append _ _ hrest] at hcount
  · rintro (rfl | ⟨before, after, rfl, hlast, hafter⟩)
    · exact ⟨[], rest, rfl, by simp, hrest⟩
    · refine ⟨List.replicate n '`' ++ before, after, (List.append_assoc ..).symm, ?_, hafter⟩
      have hne : before ≠ [] := by
        rintro rfl
        exact hrest (head?_replicate_append hsize after)
      rwa [List.getLast?_append_of_ne_nil _ hne]

theorem hasRun_backtick_iff (rest : List Char) : HasRun size ('`' :: rest) ↔
    size = countLeading '`' rest + 1 ∨ HasRun size (rest.drop (countLeading '`' rest)) := by
  rw [cons_eq_replicate_append, hasRun_replicate_append_iff hsize (Nat.succ_pos _)
    (head?_drop_countLeading '`' rest)]

omit hsize in
theorem beforeRun?_replicate_append (n : Nat) {rest : List Char} (hrest : rest.head? ≠ some '`') :
    beforeRun? size (List.replicate (n + 1) '`' ++ rest) =
      if n + 1 = size then some []
      else (beforeRun? size rest).map (List.replicate (n + 1) '`' ++ ·) := by
  rw [List.replicate_succ, List.cons_append, beforeRun?, if_pos rfl]
  simp only [countLeading_replicate_append _ _ hrest, List.drop_left' List.length_replicate]
  rfl

theorem beforeRun?_eq_none_iff {cs : List Char} : beforeRun? size cs = none ↔ ¬HasRun size cs := by
  fun_induction beforeRun? size cs with
  | case1 => exact iff_of_true rfl (not_hasRun_nil hsize)
  | case2 rest more hmore =>
      rw [hasRun_backtick_iff hsize, not_or]
      exact ⟨fun h => (Option.some_ne_none _ h).elim, fun h => absurd hmore.symm h.1⟩
  | case3 rest more hmore ih =>
      rw [Option.map_eq_none_iff, ih, hasRun_backtick_iff hsize, not_or]
      exact ⟨fun h => ⟨Ne.symm hmore, h⟩, And.right⟩
  | case4 c rest hc ih => rw [Option.map_eq_none_iff, ih, hasRun_cons_iff hsize hc]

theorem exists_of_beforeRun? {cs text : List Char} (h : beforeRun? size cs = some text) :
    ∃ after, cs = text ++ (List.replicate size '`' ++ after) ∧ after.head? ≠ some '`' ∧
      text.getLast? ≠ some '`' ∧ ¬HasRun size text := by
  fun_induction beforeRun? size cs generalizing text with
  | case1 => cases h
  | case2 rest more =>
      rename_i hmore
      cases h
      refine ⟨rest.drop more, ?_, head?_drop_countLeading '`' rest, by simp, not_hasRun_nil hsize⟩
      rw [← hmore, List.nil_append]
      exact cons_eq_replicate_append '`' rest
  | case3 rest more hmore =>
      rename_i ih
      obtain ⟨text, htext, rfl⟩ := Option.map_eq_some_iff.1 h
      obtain ⟨after, hrest, hafter, hlast, hrun⟩ := ih htext
      have hstop := head?_drop_countLeading '`' rest
      have hne : text ≠ [] := by
        rintro rfl
        rw [hrest] at hstop
        exact hstop (head?_replicate_append hsize after)
      have hhead : text.head? ≠ some '`' := by
        rwa [hrest, List.head?_append_of_ne_nil _ hne] at hstop
      refine ⟨after, ?_, hafter, ?_, ?_⟩
      · rw [List.append_assoc, ← hrest]
        exact cons_eq_replicate_append '`' rest
      · rwa [List.getLast?_append_of_ne_nil _ hne]
      · rw [hasRun_replicate_append_iff hsize (Nat.succ_pos _) hhead, not_or]
        exact ⟨Ne.symm hmore, hrun⟩
  | case4 c rest hc ih =>
      obtain ⟨text, htext, rfl⟩ := Option.map_eq_some_iff.1 h
      obtain ⟨after, rfl, hafter, hlast, hrun⟩ := ih htext
      exact ⟨after, rfl, hafter, mt (getLast?_cons_eq_iff hc).1 hlast, mt (hasRun_cons_iff hsize hc).1 hrun⟩

/-- The first run of the right length ends the search, and nothing in front of it does. -/
theorem beforeRun?_append {text after : List Char} (hrun : ¬HasRun size text)
    (hlast : text.getLast? ≠ some '`') (hafter : after.head? ≠ some '`') :
    beforeRun? size (text ++ (List.replicate size '`' ++ after)) = some text := by
  fun_induction beforeRun? size text with
  | case1 =>
      obtain ⟨n, rfl⟩ := Nat.exists_eq_succ_of_ne_zero hsize.ne'
      rw [List.nil_append, beforeRun?_replicate_append n hafter, if_pos rfl]
  | case2 rest more hmore => exact absurd ((hasRun_backtick_iff hsize rest).2 (.inl hmore.symm)) hrun
  | case3 rest more hmore ih =>
      have htext : '`' :: rest = List.replicate (more + 1) '`' ++ rest.drop more :=
        cons_eq_replicate_append '`' rest
      have hne : rest.drop more ≠ [] := by
        intro hnil
        refine hlast ?_
        rw [htext, hnil, List.append_nil, List.getLast?_replicate]
        rfl
      have hhead : (rest.drop more ++ (List.replicate size '`' ++ after)).head? ≠ some '`' := by
        rw [List.head?_append_of_ne_nil _ hne]
        exact head?_drop_countLeading '`' rest
      rw [hasRun_backtick_iff hsize, not_or] at hrun
      rw [htext, List.getLast?_append_of_ne_nil _ hne] at hlast
      rw [htext, List.append_assoc, beforeRun?_replicate_append _ hhead, if_neg hmore, ih hrun.2 hlast]
      rfl
  | case4 c rest hc ih =>
      rw [List.cons_append, beforeRun?, if_neg hc, ih (mt (hasRun_cons_iff hsize hc).2 hrun)
        (mt (getLast?_cons_eq_iff hc).2 hlast)]
      rfl

omit hsize in
theorem HasRun.append {cs : List Char} (h : HasRun size cs) {c : Char} (hc : c ≠ '`') (rest : List Char) :
    HasRun size (cs ++ c :: rest) := by
  obtain ⟨before, after, rfl, hlast, hafter⟩ := h
  refine ⟨before, after ++ c :: rest, by simp, hlast, ?_⟩
  cases after with
  | nil => exact fun h => hc (Option.some.inj h)
  | cons d after => exact hafter

theorem hasRun_spaced_iff {cs : List Char} : HasRun size (' ' :: (cs ++ [' '])) ↔ HasRun size cs := by
  rw [hasRun_cons_iff hsize (by decide)]
  constructor
  · rintro ⟨before, after, h, hlast, hafter⟩
    rcases List.eq_nil_or_concat after with rfl | ⟨after, d, rfl⟩
    · have hend := congrArg List.getLast? h
      obtain ⟨n, rfl⟩ := Nat.exists_eq_succ_of_ne_zero hsize.ne'
      simp [List.getLast?_append, List.getLast?_replicate] at hend
    · rw [List.concat_eq_append, ← List.append_assoc, ← List.append_assoc] at h
      obtain ⟨rfl, hd⟩ := List.append_inj' h rfl
      refine ⟨before, after, List.append_assoc .., hlast, fun hhead => hafter ?_⟩
      rw [List.concat_eq_append, List.head?_append, hhead, Option.some_or]
  · exact fun h => h.append (by decide) []

end

def writeCode (size : Nat) (code : List Char) : List Char :=
  List.replicate size '`' ++ (' ' :: (code ++ [' ']) ++ List.replicate size '`')

/-- One space is taken from each end, and nothing else changes. -/
theorem codeOf_spaced {code : List Char} (hline : '\n' ∉ code) (hfull : ∃ c ∈ code, c ≠ ' ') :
    codeOf (' ' :: (code ++ [' '])) = code := by
  have hmap : (' ' :: (code ++ [' '])).map (fun c => if c = '\n' then ' ' else c) =
      ' ' :: (code ++ [' ']) := by
    refine (List.map_congr_left fun c hc => if_neg ?_).trans (List.map_id' _)
    rintro rfl
    simp [hline] at hc
  obtain ⟨c, hc, hspace⟩ := hfull
  have hne : code ≠ [] := List.ne_nil_of_mem hc
  have hany : (' ' :: (code ++ [' '])).any (· != ' ') = true :=
    List.any_eq_true.2 ⟨c, by simp [hc], by simpa using hspace⟩
  have hlast : (' ' :: (code ++ [' '])).getLast? = some ' ' := by
    rw [← List.cons_append, List.getLast?_concat]
  simp [codeOf, hmap, hlast, hany, hne]

theorem exists_writeCode (size : Nat) (code rest : List Char) :
    ∃ tail, writeCode (size + 1) code = '`' :: tail ∧ countLeading '`' (tail ++ rest) = size ∧
      (tail ++ rest).drop size = ' ' :: (code ++ [' ']) ++ (List.replicate (size + 1) '`' ++ rest) ∧
      tail.length = size + (' ' :: (code ++ [' '])).length + (size + 1) := by
  refine ⟨List.replicate size '`' ++ (' ' :: (code ++ [' ']) ++ List.replicate (size + 1) '`'), rfl, ?_, ?_, ?_⟩
  · rw [List.append_assoc]
    exact countLeading_replicate_append _ _ (by simp)
  · rw [List.append_assoc, List.drop_left' List.length_replicate, List.append_assoc]
  · simp
    omega

/-- Code without a run of as many backticks is read back. -/
theorem codeSpan?_writeCode {size : Nat} {code : List Char} (hline : '\n' ∉ code)
    (hfull : ∃ c ∈ code, c ≠ ' ') (hrun : ¬HasRun (size + 1) code) :
    ∃ tail, writeCode (size + 1) code = '`' :: tail ∧ codeSpan? tail = some (code, tail.length) := by
  obtain ⟨tail, hwritten, hmore, hbody, hlength⟩ := exists_writeCode size code []
  rw [List.append_nil] at hmore hbody
  have hbefore : beforeRun? (size + 1) (tail.drop size) = some (' ' :: (code ++ [' '])) := by
    rw [hbody]
    refine beforeRun?_append (Nat.succ_pos _) ?_ ?_ (by simp)
    · rwa [hasRun_spaced_iff (Nat.succ_pos _)]
    · rw [← List.cons_append, List.getLast?_concat]
      decide
  refine ⟨tail, hwritten, ?_⟩
  simp only [codeSpan?, hmore, hbefore, Option.map_some, codeOf_spaced hline hfull, hlength]

end MarkdownOutline.Inline
