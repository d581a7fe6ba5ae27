import MarkdownOutline.Proofs.Inline.Backticks

namespace MarkdownOutline.Inline

/-- The brackets that the search for the end of a label sees: those that stand neither behind a backslash
nor where a backtick hides them. -/
def visible (cs : List Char) : List Char :=
  match cs with
  | [] => []
  | c :: rest =>
    if c = '\\' then visible (rest.drop 1)
    else if c = '`' then visible (rest.drop (hiddenByBacktick rest))
    else if c = '[' || c = ']' then c :: visible rest
    else visible rest
termination_by cs.length
decreasing_by all_goals simp only [List.length_drop, List.length_cons]; omega

/-- How many brackets are open behind some brackets that stand inside `depth` open ones; `none` if one of
them closes a bracket too many. -/
def depthBehind : Nat → List Char → Option Nat
  | depth, [] => some depth
  | 0, ']' :: _ => none
  | depth + 1, ']' :: brackets => depthBehind depth brackets
  | depth, _ :: brackets => depthBehind (depth + 1) brackets

theorem depthBehind_opening (depth : Nat) (brackets : List Char) :
    depthBehind depth ('[' :: brackets) = depthBehind (depth + 1) brackets := by
  cases depth <;> rfl

def IsBalanced (brackets : List Char) : Prop := depthBehind 0 brackets = some 0

theorem depthBehind_visible_eq_none_iff (depth : Nat) (cs : List Char) :
    depthBehind depth (visible cs) = none ↔ (toClosingBracket? depth cs).isSome := by
  fun_induction visible cs generalizing depth with
  | case1 => cases depth <;> simp [depthBehind, toClosingBracket?]
  | case2 rest ih => rw [ih, toClosingBracket?_backslash, Option.isSome_map]
  | case3 rest _ ih => rw [ih, toClosingBracket?_backtick, Option.isSome_map]
  | case4 c rest _ _ hc ih =>
      rcases (by simpa using hc : c = '[' ∨ c = ']') with rfl | rfl
      · rw [depthBehind_opening, ih, toClosingBracket?_opening, Option.isSome_map]
      · cases depth with
        | zero => simp [depthBehind, toClosingBracket?_last]
        | succ depth => rw [depthBehind, ih, toClosingBracket?_closing, Option.isSome_map]
  | case5 c rest hslash htick hc ih =>
      have hbare : IsBareInLabel c := by simp_all [IsBareInLabel]
      rw [ih, toClosingBracket?_bare _ _ hbare, Option.isSome_map]

theorem getElem?_of_toClosingBracket? (cs : List Char) : ∀ {depth size : Nat},
    toClosingBracket? depth cs = some size → cs[size]? = some ']' := by
  fun_induction visible cs with
  | case1 =>
      intro depth size h
      rw [toClosingBracket?] at h
      cases h
  | case2 rest ih =>
      intro depth size h
      rw [toClosingBracket?_backslash] at h
      obtain ⟨n, hn, rfl⟩ := Option.map_eq_some_iff.1 h
      rw [List.getElem?_cons_succ, Nat.add_comm, ← List.getElem?_drop]
      exact ih hn
  | case3 rest _ ih =>
      intro depth size h
      rw [toClosingBracket?_backtick] at h
      obtain ⟨n, hn, rfl⟩ := Option.map_eq_some_iff.1 h
      rw [← Nat.add_assoc, List.getElem?_cons_succ, Nat.add_comm, ← List.getElem?_drop]
      exact ih hn
  | case4 c rest _ _ hc ih =>
      intro depth size h
      rcases (by simpa using hc : c = '[' ∨ c = ']') with rfl | rfl
      · rw [toClosingBracket?_opening] at h
        obtain ⟨n, hn, rfl⟩ := Option.map_eq_some_iff.1 h
        exact ih hn
      · cases depth with
        | zero =>
            rw [toClosingBracket?_last] at h
            cases h
            rfl
        | succ depth =>
            rw [toClosingBracket?_closing] at h
            obtain ⟨n, hn, rfl⟩ := Option.map_eq_some_iff.1 h
            exact ih hn
  | case5 c rest hslash htick hc ih =>
      intro depth size h
      have hbare : IsBareInLabel c := by simp_all [IsBareInLabel]
      rw [toClosingBracket?_bare _ _ hbare] at h
      obtain ⟨n, hn, rfl⟩ := Option.map_eq_some_iff.1 h
      exact ih hn

theorem exists_of_toClosingBracket? {depth size : Nat} {cs : List Char}
    (h : toClosingBracket? depth cs = some size) :
    ∃ label rest, cs = label ++ ']' :: rest ∧ label.length = size := by
  obtain ⟨hlt, hget⟩ := List.getElem?_eq_some_iff.1 (getElem?_of_toClosingBracket? cs h)
  refine ⟨cs.take size, cs.drop (size + 1), ?_, List.length_take_of_le (Nat.le_of_lt hlt)⟩
  rw [← hget, List.getElem_cons_drop, List.take_append_drop]

theorem getLast?_drop_ne {c d : Char} {cs : List Char} (h : (c :: cs).getLast? ≠ some d) (n : Nat) :
    (cs.drop n).getLast? ≠ some d := by
  rw [List.getLast?_drop]
  split
  · simp
  · intro hcs
    refine h ?_
    rw [List.getLast?_cons, hcs, Option.getD_some]

/-- The search goes on behind a text with the brackets that are open there, if it has not ended in it. -/
theorem toClosingBracket?_append {tail : List Char} (htail : '`' ∉ tail) {cs : List Char}
    (hlast : cs.getLast? ≠ some '\\') (depth : Nat) :
    toClosingBracket? depth (cs ++ tail) = (toClosingBracket? depth cs).or
      ((depthBehind depth (visible cs)).bind fun depth =>
        (toClosingBracket? depth tail).map (· + cs.length)) := by
  have hbind {n m : Nat} (a : Option Nat) : Option.map (· + n) (a.bind fun depth =>
        (toClosingBracket? depth tail).map (· + m)) =
      a.bind fun depth => (toClosingBracket? depth tail).map (· + (m + n)) := by
    cases a with
    | none => rfl
    | some depth => simp [Function.comp_def, Nat.add_assoc]
  fun_induction visible cs generalizing depth with
  | case1 => cases depth <;> simp [depthBehind, toClosingBracket?]
  | case2 rest ih =>
      obtain ⟨c, rest, rfl⟩ := List.exists_cons_of_ne_nil (l := rest) (by rintro rfl; exact hlast rfl)
      have ih := ih (getLast?_drop_ne hlast 1) depth
      rw [List.drop_one, List.tail_cons] at ih
      rw [List.cons_append, List.cons_append, toClosingBracket?_backslash, toClosingBracket?_backslash,
        List.drop_one, List.tail_cons, List.drop_one, List.tail_cons, ih, Option.map_or, hbind]
      rfl
  | case3 rest _ ih =>
      have hle := hiddenByBacktick_le rest
      have ih := ih (getLast?_drop_ne hlast _) depth
      have hlength : (rest.drop (hiddenByBacktick rest)).length + (hiddenByBacktick rest + 1) =
          ('`' :: rest).length := by
        rw [List.length_drop, List.length_cons]
        omega
      rw [List.cons_append, toClosingBracket?_backtick, toClosingBracket?_backtick,
        hiddenByBacktick_append_tail htail, List.drop_append_of_le_length hle, ih, Option.map_or, hbind,
        hlength]
  | case4 c rest _ _ hc ih =>
      have ih := ih (getLast?_drop_ne hlast 0)
      rcases (by simpa using hc : c = '[' ∨ c = ']') with rfl | rfl
      · rw [List.cons_append, toClosingBracket?_opening, toClosingBracket?_opening, ih, Option.map_or, hbind,
          depthBehind_opening]
        rfl
      · cases depth with
        | zero => rw [List.cons_append, toClosingBracket?_last, toClosingBracket?_last, Option.some_or]
        | succ depth =>
            rw [List.cons_append, toClosingBracket?_closing, toClosingBracket?_closing, ih, Option.map_or,
              hbind]
            rfl
  | case5 c rest hslash htick hc ih =>
      have hbare : IsBareInLabel c := by simp_all [IsBareInLabel]
      have ih := ih (getLast?_drop_ne hlast 0) depth
      rw [List.cons_append, toClosingBracket?_bare _ _ hbare, toClosingBracket?_bare _ _ hbare, ih,
        Option.map_or, hbind]
      rfl

/-- A label ends behind a text that has all its brackets in sight closed, and behind no other. -/
theorem toClosingBracket?_eq_length_iff {source rest : List Char} (hrest : '`' ∉ rest)
    (hlast : source.getLast? ≠ some '\\') :
    toClosingBracket? 0 (source ++ ']' :: rest) = some source.length ↔ IsBalanced (visible source) := by
  have htail : '`' ∉ ']' :: rest := by simp [hrest]
  rw [toClosingBracket?_append htail hlast, IsBalanced]
  cases hdepth : depthBehind 0 (visible source) with
  | none =>
      obtain ⟨size, hsize⟩ := Option.isSome_iff_exists.1 ((depthBehind_visible_eq_none_iff 0 source).1 hdepth)
      have hlt := (List.getElem?_eq_some_iff.1 (getElem?_of_toClosingBracket? source hsize)).1
      simp only [hsize, Option.some_or, Option.some.injEq, reduceCtorEq, iff_false]
      exact Nat.ne_of_lt hlt
  | some depth =>
      have hnone : toClosingBracket? 0 source = none := by
        rw [← Option.not_isSome_iff_eq_none, ← depthBehind_visible_eq_none_iff, hdepth]
        exact Option.some_ne_none _
      rw [hnone, Option.none_or, Option.bind_some]
      cases depth with
      | zero => simp [toClosingBracket?_last]
      | succ depth =>
          rw [toClosingBracket?_closing, Option.map_map]
          simp [Function.comp_def]

end MarkdownOutline.Inline
