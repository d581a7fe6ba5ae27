import Mathlib.Data.List.TakeWhile
import MarkdownOutline.Proofs.Inline.CodeSpan
import MarkdownOutline.Proofs.Inline.Reference

namespace MarkdownOutline.Inline

theorem replicate_prefix_append_iff {tail : List Char} (htail : '`' ∉ tail) (n : Nat) (cs : List Char) :
    List.replicate n '`' <+: cs ++ tail ↔ List.replicate n '`' <+: cs := by
  induction cs generalizing n with
  | nil =>
      cases n with
      | zero => simp
      | succ n =>
          constructor
          · rintro ⟨rest, hrest⟩
            refine absurd ?_ htail
            rw [← List.nil_append tail, ← hrest]
            exact List.mem_cons_self ..
          · intro h
            cases List.prefix_nil.1 h
  | cons c cs ih =>
      cases n with
      | zero => simp
      | succ n => rw [List.replicate_succ, List.cons_append, List.cons_prefix_cons, List.cons_prefix_cons, ih]

section

variable {size : Nat} (hsize : 0 < size)
include hsize

theorem toBackticks?_eq_none_iff {cs : List Char} :
    toBackticks? size cs = none ↔ ¬List.replicate size '`' <:+: cs := by
  induction cs with
  | nil =>
      have hne : List.replicate size '`' ≠ [] := by simp [hsize.ne']
      simp [toBackticks?, hne]
  | cons c cs ih =>
      rw [toBackticks?, List.infix_cons_iff, ← List.isPrefixOf_iff_prefix]
      split <;> simp_all

theorem toBackticks?_append_tail {tail : List Char} (htail : '`' ∉ tail) (cs : List Char) :
    toBackticks? size (cs ++ tail) = toBackticks? size cs := by
  induction cs with
  | nil =>
      rw [List.nil_append, toBackticks?, toBackticks?_eq_none_iff hsize]
      intro h
      refine htail (h.subset ?_)
      simp [hsize.ne']
  | cons c cs ih =>
      have hprefix : (List.replicate size '`').isPrefixOf (c :: cs ++ tail) =
          (List.replicate size '`').isPrefixOf (c :: cs) := by
        rw [Bool.eq_iff_iff, List.isPrefixOf_iff_prefix, List.isPrefixOf_iff_prefix,
          replicate_prefix_append_iff htail]
      rw [List.cons_append, toBackticks?, toBackticks?, ih, ← List.cons_append, hprefix]

/-- The search stops at the first place where enough backticks stand. -/
theorem toBackticks?_append {text : List Char} (after : List Char)
    (h : ¬List.replicate size '`' <:+: text) (hlast : text.getLast? ≠ some '`') :
    toBackticks? size (text ++ (List.replicate size '`' ++ after)) = some text.length := by
  induction text with
  | nil =>
      obtain ⟨n, rfl⟩ := Nat.exists_eq_succ_of_ne_zero hsize.ne'
      have hprefix : (List.replicate (n + 1) '`').isPrefixOf (List.replicate (n + 1) '`' ++ after) = true :=
        List.isPrefixOf_iff_prefix.2 (List.prefix_append _ _)
      rw [List.replicate_succ, List.cons_append] at hprefix
      rw [List.nil_append, List.replicate_succ, List.cons_append, toBackticks?, List.replicate_succ,
        if_pos hprefix]
      rfl
  | cons c text ih =>
      rw [List.infix_cons_iff, not_or] at h
      have hprefix : ¬List.replicate size '`' <+: c :: text ++ (List.replicate size '`' ++ after) := by
        intro hprefix
        rcases List.prefix_or_prefix_of_prefix hprefix (List.prefix_append ..) with hwithin | hbeyond
        · exact h.1 hwithin
        · -- Otherwise the text would be backticks to its end.
          have hmem : (c :: text).getLast (List.cons_ne_nil _ _) ∈ List.replicate size '`' :=
            hbeyond.subset (List.getLast_mem _)
          rw [List.getLast?_eq_some_getLast (List.cons_ne_nil _ _), List.eq_of_mem_replicate hmem] at hlast
          exact hlast rfl
      have hrest : text.getLast? ≠ some '`' := by
        intro htext
        refine hlast ?_
        rw [List.getLast?_cons, htext, Option.getD_some]
      rw [List.cons_append] at hprefix ⊢
      rw [toBackticks?, if_neg (mt List.isPrefixOf_iff_prefix.1 hprefix), ih h.2 hrest]
      rfl

theorem exists_toBackticks?_lt {text : List Char} (h : List.replicate size '`' <:+: text) (rest : List Char) :
    ∃ distance < text.length, toBackticks? size (text ++ rest) = some distance := by
  induction text with
  | nil =>
      rw [List.infix_nil, List.replicate_eq_nil_iff] at h
      exact absurd h hsize.ne'
  | cons c text ih =>
      rw [List.cons_append, toBackticks?]
      by_cases hprefix : (List.replicate size '`').isPrefixOf (c :: (text ++ rest)) = true
      · exact ⟨0, Nat.succ_pos _, if_pos hprefix⟩
      · rw [if_neg hprefix]
        rcases List.infix_cons_iff.1 h with hhere | hthere
        · refine absurd (List.isPrefixOf_iff_prefix.2 ?_) hprefix
          exact hhere.trans (List.prefix_append (c :: text) rest)
        · obtain ⟨distance, hlt, hdistance⟩ := ih hthere
          exact ⟨distance + 1, Nat.succ_lt_succ hlt, by rw [hdistance]; rfl⟩

omit hsize in
theorem le_of_toBackticks? {cs : List Char} {distance : Nat} (h : toBackticks? size cs = some distance) :
    distance + size ≤ cs.length := by
  induction cs generalizing distance with
  | nil => cases h
  | cons c cs ih =>
      rw [toBackticks?] at h
      split at h
      · rename_i hprefix
        cases h
        have hlength := (List.isPrefixOf_iff_prefix.1 hprefix).length_le
        rwa [List.length_replicate, ← Nat.zero_add size] at hlength
      · obtain ⟨n, hn, rfl⟩ := Option.map_eq_some_iff.1 h
        have hle := ih hn
        rw [List.length_cons]
        omega

omit hsize in
/-- Where no run is as long as that, as many backticks stand in a row only within a longer run. -/
theorem infix_succ_iff {text : List Char} (hrun : ¬HasRun size text) :
    List.replicate (size + 1) '`' <:+: text ↔ List.replicate size '`' <:+: text := by
  constructor
  · intro h
    refine List.IsInfix.trans ?_ h
    rw [List.replicate_succ']
    exact (List.prefix_append _ _).isInfix
  · rintro ⟨before, after, rfl⟩
    by_cases hlast : before.getLast? = some '`'
    · obtain ⟨front, rfl⟩ := List.getLast?_eq_some_iff.1 hlast
      exact ⟨front, after, by simp [List.replicate_succ]⟩
    · by_cases hhead : after.head? = some '`'
      · obtain ⟨rest, rfl⟩ := List.head?_eq_some_iff.1 hhead
        exact ⟨before, rest, by simp [List.replicate_succ']⟩
      · exact absurd ⟨before, after, List.append_assoc .., hlast, hhead⟩ hrun

end

theorem countLeading_append_tail {tail : List Char} (htail : '`' ∉ tail) (cs : List Char) :
    countLeading '`' (cs ++ tail) = countLeading '`' cs := by
  induction cs with
  | nil =>
      cases tail with
      | nil => rfl
      | cons c tail =>
          have hc : c ≠ '`' := fun hc => htail (hc ▸ List.mem_cons_self ..)
          simp [countLeading, hc]
  | cons c cs ih =>
      by_cases hc : c = '`'
      · simpa [countLeading, hc] using ih
      · simp [countLeading, hc]

theorem countLeading_le (c : Char) (cs : List Char) : countLeading c cs ≤ cs.length :=
  (List.takeWhile_sublist _).length_le

theorem hiddenByBacktick_append_tail {tail : List Char} (htail : '`' ∉ tail) (cs : List Char) :
    hiddenByBacktick (cs ++ tail) = hiddenByBacktick cs := by
  simp only [hiddenByBacktick, countLeading_append_tail htail,
    List.drop_append_of_le_length (countLeading_le '`' cs), toBackticks?_append_tail (Nat.succ_pos _) htail]

theorem hiddenByBacktick_le (cs : List Char) : hiddenByBacktick cs ≤ cs.length := by
  have hmore := countLeading_le '`' cs
  simp only [hiddenByBacktick]
  split
  · rename_i distance hdistance
    have hle := le_of_toBackticks? hdistance
    rw [List.length_drop] at hle
    omega
  · exact hmore

/-- What stands between a run of backticks, whose first is in front of `cs`, and the run that closes it;
all the rest if none does. -/
def codeBody (cs : List Char) : List Char :=
  let body := cs.drop (countLeading '`' cs)
  (beforeRun? (countLeading '`' cs + 1) body).getD body

/-- A backtick hides the code span that the scanner reads from it, or its run where there is none,
unless a longer run stands in the way. -/
theorem hiddenByBacktick_eq_taken_iff (ctx : Context) (cs : List Char) :
    hiddenByBacktick cs = (codeStep ctx cs).taken ↔
      ¬List.replicate (countLeading '`' cs + 2) '`' <:+: codeBody cs := by
  have hpos : 0 < countLeading '`' cs + 1 := Nat.succ_pos _
  cases hbefore : beforeRun? (countLeading '`' cs + 1) (cs.drop (countLeading '`' cs)) with
  | none =>
      have hrun := (beforeRun?_eq_none_iff hpos).1 hbefore
      simp only [codeStep, codeSpan?, codeBody, hbefore, Option.map_none, Option.getD_none, infix_succ_iff hrun,
        ← toBackticks?_eq_none_iff hpos, hiddenByBacktick]
      split
      · rename_i distance hdistance
        simp only [hdistance, reduceCtorEq, iff_false]
        omega
      · rename_i hnone
        simp only [hnone]
  | some text =>
      obtain ⟨after, hbody, _, hlast, hrun⟩ := exists_of_beforeRun? hpos hbefore
      have htaken : (codeStep ctx cs).taken =
          countLeading '`' cs + text.length + (countLeading '`' cs + 1) := by
        simp only [codeStep, codeSpan?, hbefore, Option.map_some, leafStep]
      have htext : codeBody cs = text := by simp only [codeBody, hbefore, Option.getD_some]
      rw [htaken, htext, infix_succ_iff hrun]
      simp only [hiddenByBacktick, hbody]
      by_cases hinfix : List.replicate (countLeading '`' cs + 1) '`' <:+: text
      · obtain ⟨distance, hlt, hdistance⟩ := exists_toBackticks?_lt hpos hinfix
          (List.replicate (countLeading '`' cs + 1) '`' ++ after)
        simp only [hdistance, hinfix, not_true_eq_false, iff_false]
        omega
      · simp only [toBackticks?_append hpos after hinfix hlast, hinfix, not_false_eq_true]

end MarkdownOutline.Inline
