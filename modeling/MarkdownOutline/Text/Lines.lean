namespace MarkdownOutline.Text

def foldNewlines : List Char → List Char
  | [] => []
  | '\r' :: '\n' :: cs => '\n' :: foldNewlines cs
  | c :: cs => (if c = '\r' then '\n' else c) :: foldNewlines cs

def splitLines : List Char → List (List Char)
  | [] => [[]]
  | c :: cs =>
    if c = '\n' then [] :: splitLines cs
    else match splitLines cs with
      | [] => [[c]]
      | line :: rest => (c :: line) :: rest

def joinLines (lines : List (List Char)) : List Char := List.intercalate ['\n'] lines

/-- Fills each tab up to the next multiple of `width`, counting columns from `column` on. With width
zero tabs vanish. -/
def expandTabsFrom (width : Nat) : Nat → List Char → List Char
  | _, [] => []
  | column, c :: cs =>
    if c = '\t' then
      let fill := width - column % width
      List.replicate fill ' ' ++ expandTabsFrom width (column + fill) cs
    else if c = '\n' || c = '\r' then c :: expandTabsFrom width 0 cs
    else c :: expandTabsFrom width (column + 1) cs

def tabWidth : Nat := 4

def expandTabs (cs : List Char) (width : Nat := tabWidth) : List Char := expandTabsFrom width 0 cs

theorem splitLines_ne_nil (cs : List Char) : splitLines cs ≠ [] := by
  cases cs with
  | nil => simp [splitLines]
  | cons c cs =>
    unfold splitLines
    split
    · simp
    · split <;> simp

theorem splitLines_newline (cs : List Char) : splitLines ('\n' :: cs) = [] :: splitLines cs := by
  simp [splitLines]

theorem splitLines_cons {c : Char} (h : c ≠ '\n') {cs line : List Char} {rest : List (List Char)}
    (hcs : splitLines cs = line :: rest) : splitLines (c :: cs) = (c :: line) :: rest := by
  rw [splitLines, if_neg h, hcs]

theorem splitLines_append_newline (cs ds : List Char) :
    splitLines (cs ++ '\n' :: ds) = splitLines cs ++ splitLines ds := by
  induction cs with
  | nil => exact splitLines_newline ds
  | cons c cs ih =>
    by_cases h : c = '\n'
    · subst h
      rw [List.cons_append, splitLines_newline, splitLines_newline, ih, List.cons_append]
    · match hs : splitLines cs with
      | [] => exact absurd hs (splitLines_ne_nil cs)
      | line :: rest =>
        rw [hs, List.cons_append] at ih
        rw [List.cons_append, splitLines_cons h ih, splitLines_cons h hs, List.cons_append]

theorem splitLines_of_not_mem {cs : List Char} (h : '\n' ∉ cs) : splitLines cs = [cs] := by
  induction cs with
  | nil => rfl
  | cons c cs ih =>
    rw [List.mem_cons, not_or] at h
    exact splitLines_cons (Ne.symm h.1) (ih h.2)

theorem joinLines_cons {lines : List (List Char)} (h : lines ≠ []) (line : List Char) :
    joinLines (line :: lines) = line ++ '\n' :: joinLines lines := by
  match lines with
  | [] => exact absurd rfl h
  | _ :: _ => simp [joinLines, List.intercalate]

theorem joinLines_singleton (line : List Char) : joinLines [line] = line := by
  simp [joinLines, List.intercalate]

theorem exists_joinLines_cons (line : List Char) (lines : List (List Char)) :
    ∃ more, joinLines (line :: lines) = line ++ more := by
  cases lines with
  | nil => exact ⟨[], by rw [joinLines_singleton, List.append_nil]⟩
  | cons next rest => exact ⟨_, joinLines_cons (List.cons_ne_nil _ _) line⟩

theorem getLast?_joinLines {p : Char → Prop} {lines : List (List Char)}
    (h : ∀ line ∈ lines, line ≠ [] ∧ ∀ c ∈ line.getLast?, p c) : ∀ c ∈ (joinLines lines).getLast?, p c := by
  induction lines with
  | nil => exact fun c hc => by cases hc
  | cons line rest ih =>
    obtain ⟨hline, hrest⟩ := List.forall_mem_cons.1 h
    match rest with
    | [] => rw [joinLines_singleton]; exact hline.2
    | next :: rest =>
      obtain ⟨more, hmore⟩ := exists_joinLines_cons next rest
      have hne : joinLines (next :: rest) ≠ [] := by
        rw [hmore]
        exact List.append_ne_nil_of_left_ne_nil (hrest next (List.mem_cons_self ..)).1 more
      obtain ⟨c, cs, hcs⟩ := List.exists_cons_of_ne_nil hne
      rw [joinLines_cons (List.cons_ne_nil _ _), List.getLast?_append, hcs, List.getLast?_cons_cons, ← hcs]
      have ih := ih hrest
      cases hlast : (joinLines (next :: rest)).getLast? with
      | none => exact absurd (List.getLast?_eq_none_iff.1 hlast) hne
      | some d => rw [hlast] at ih; exact ih

theorem mem_of_mem_intercalate {c : Char} {sep : List Char} {lines : List (List Char)}
    (h : c ∈ List.intercalate sep lines) : c ∈ sep ∨ ∃ line ∈ lines, c ∈ line := by
  induction lines with
  | nil => cases h
  | cons line rest ih =>
    match rest with
    | [] =>
      refine .inr ⟨line, List.mem_singleton_self _, ?_⟩
      simpa [List.intercalate] using h
    | next :: rest =>
      have hcons : List.intercalate sep (line :: next :: rest) =
          line ++ sep ++ List.intercalate sep (next :: rest) := by simp [List.intercalate]
      rw [hcons, List.mem_append, List.mem_append] at h
      rcases h with (hline | hsep) | hrest
      · exact .inr ⟨line, List.mem_cons_self .., hline⟩
      · exact .inl hsep
      · exact (ih hrest).imp_right fun ⟨l, hl, hc⟩ => ⟨l, List.mem_cons_of_mem _ hl, hc⟩

theorem not_mem_joinLines {c : Char} {lines : List (List Char)} (hc : c ≠ '\n')
    (h : ∀ line ∈ lines, c ∉ line) : c ∉ joinLines lines := by
  intro hmem
  rcases mem_of_mem_intercalate hmem with hsep | ⟨line, hline, hmem⟩
  · exact hc (List.mem_singleton.1 hsep)
  · exact h line hline hmem

theorem length_splitLines (cs : List Char) : (splitLines cs).length = cs.count '\n' + 1 := by
  induction cs with
  | nil => rfl
  | cons c cs ih =>
    by_cases h : c = '\n'
    · subst h
      rw [splitLines_newline, List.length_cons, ih, List.count_cons_self]
    · match hs : splitLines cs with
      | [] => exact absurd hs (splitLines_ne_nil cs)
      | line :: rest =>
        rw [hs] at ih
        rw [splitLines_cons h hs, List.count_cons_of_ne h, ← ih, List.length_cons, List.length_cons]

theorem splitLines_joinLines {lines : List (List Char)} (hne : lines ≠ [])
    (h : ∀ line ∈ lines, '\n' ∉ line) : splitLines (joinLines lines) = lines := by
  induction lines with
  | nil => exact absurd rfl hne
  | cons line lines ih =>
    obtain ⟨hline, hlines⟩ := List.forall_mem_cons.1 h
    match lines with
    | [] => rw [joinLines_singleton, splitLines_of_not_mem hline]
    | next :: rest =>
      rw [joinLines_cons (List.cons_ne_nil _ _), splitLines_append_newline, splitLines_of_not_mem hline,
        ih (List.cons_ne_nil _ _) hlines, List.singleton_append]

theorem expandTabsFrom_eq_self {cs : List Char} (h : '\t' ∉ cs) (width column : Nat) :
    expandTabsFrom width column cs = cs := by
  induction cs generalizing column with
  | nil => rfl
  | cons c cs ih =>
    rw [List.mem_cons, not_or] at h
    rw [expandTabsFrom, if_neg (Ne.symm h.1)]
    split <;> rw [ih h.2]

theorem expandTabs_eq_self {cs : List Char} (h : '\t' ∉ cs) (width : Nat) : expandTabs cs width = cs :=
  expandTabsFrom_eq_self h width 0

theorem foldNewlines_eq_self {cs : List Char} (h : '\r' ∉ cs) : foldNewlines cs = cs := by
  induction cs with
  | nil => rfl
  | cons c cs ih =>
    simp only [List.mem_cons, not_or] at h
    rw [foldNewlines.eq_3 c cs (fun _ hc => absurd hc.symm h.1), ih h.2, if_neg (Ne.symm h.1)]

theorem not_mem_foldNewlines (cs : List Char) : '\r' ∉ foldNewlines cs := by
  fun_induction foldNewlines cs with
  | case1 => simp
  | case2 cs ih => simpa using ih
  | case3 c cs _ ih => by_cases h : c = '\r' <;> simp_all [eq_comm]

end MarkdownOutline.Text
