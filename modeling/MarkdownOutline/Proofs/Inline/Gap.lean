import MarkdownOutline.Proofs.Inline.Backticks

namespace MarkdownOutline.Inline

open Text

/-- Characters, and gaps that a filler stands in. -/
abbrev Cells := List (Option Char)

def fill (r : List Char) (t : Cells) : List Char := t.flatMap fun cell => cell.elim r fun c => [c]

def extentOf (r : List Char) (t : Cells) (k : Nat) : Nat := (fill r (t.take k)).length

@[simp] theorem fill_nil (r : List Char) : fill r [] = [] := rfl

@[simp] theorem fill_some (r : List Char) (c : Char) (t : Cells) : fill r (some c :: t) = c :: fill r t := rfl

@[simp] theorem fill_none (r : List Char) (t : Cells) : fill r (none :: t) = r ++ fill r t := rfl

theorem fill_append (r : List Char) (t u : Cells) : fill r (t ++ u) = fill r t ++ fill r u := List.flatMap_append

theorem fill_map_some (r cs : List Char) : fill r (cs.map some) = cs := by
  induction cs with
  | nil => rfl
  | cons c cs ih => rw [List.map_cons, fill_some, ih]

theorem fill_take_append_drop (r : List Char) (t : Cells) (k : Nat) :
    fill r (t.take k) ++ fill r (t.drop k) = fill r t := by
  rw [← fill_append, List.take_append_drop]

section

variable (r : List Char) (t : Cells) (k : Nat)

@[simp] theorem extentOf_zero : extentOf r t 0 = 0 := rfl

@[simp] theorem extentOf_some (c : Char) : extentOf r (some c :: t) (k + 1) = extentOf r t k + 1 := rfl

@[simp] theorem extentOf_none : extentOf r (none :: t) (k + 1) = extentOf r t k + r.length := by
  rw [extentOf, List.take_succ_cons, fill_none, List.length_append, Nat.add_comm]
  rfl

theorem take_extentOf : (fill r t).take (extentOf r t k) = fill r (t.take k) := by
  rw [← fill_take_append_drop r t k]
  exact List.take_left

theorem drop_extentOf : (fill r t).drop (extentOf r t k) = fill r (t.drop k) := by
  rw [← fill_take_append_drop r t k]
  exact List.drop_left

theorem extentOf_add (n : Nat) : extentOf r t (k + n) = extentOf r t k + extentOf r (t.drop k) n := by
  rw [extentOf, List.take_add, fill_append, List.length_append]
  rfl

end

def isFillerChar (c : Char) : Bool := c = '&' || c = '#' || c = ';' || c.isAlphanum

def IsFiller (r : List Char) : Prop :=
  ∃ word : List Char, r = '&' :: (word ++ [';']) ∧ word.all (fun c => c = '#' || c.isAlphanum) = true

theorem IsFiller.all {r : List Char} (h : IsFiller r) : ∀ c ∈ r, isFillerChar c = true := by
  obtain ⟨word, rfl, hword⟩ := h
  intro c hc
  rw [List.mem_cons, List.mem_append, List.mem_singleton] at hc
  rcases hc with rfl | hc | rfl
  · rfl
  · rcases (by simpa using List.all_eq_true.1 hword c hc : c = '#' ∨ c.isAlphanum = true) with h | h <;>
      simp [isFillerChar, h]
  · rfl

theorem IsFiller.not_mem {r : List Char} (h : IsFiller r) {d : Char} (hd : isFillerChar d = false) : d ∉ r := by
  intro hmem
  rw [h.all d hmem] at hd
  cases hd

theorem IsFiller.exists_cons {r : List Char} (h : IsFiller r) :
    ∃ tail, r = '&' :: tail ∧ ∀ c ∈ tail, isFillerChar c = true := by
  obtain ⟨word, rfl, hword⟩ := id h
  exact ⟨_, rfl, fun c hc => h.all c (List.mem_cons_of_mem _ hc)⟩

theorem IsFiller.length_pos {r : List Char} (h : IsFiller r) : 0 < r.length := by
  obtain ⟨tail, rfl, _⟩ := h.exists_cons
  exact Nat.succ_pos _

theorem isAlphanum_iff {c : Char} : c.isAlphanum = true ↔
    ((65 ≤ c.toNat ∧ c.toNat ≤ 90) ∨ (97 ≤ c.toNat ∧ c.toNat ≤ 122)) ∨ (48 ≤ c.toNat ∧ c.toNat ≤ 57) := by
  change ((65 ≤ c.val ∧ c.val ≤ 90) || (97 ≤ c.val && c.val ≤ 122) || (48 ≤ c.val && c.val ≤ 57)) = true ↔ _
  simp only [Bool.or_eq_true, Bool.and_eq_true, decide_eq_true_eq, UInt32.le_iff_toNat_le]
  rfl

theorem toNat_lt_of_isFillerChar {c : Char} (h : isFillerChar c = true) : c.toNat < 128 := by
  simp only [isFillerChar, Bool.or_eq_true, decide_eq_true_eq] at h
  rcases h with ((rfl | rfl) | rfl) | h
  · decide
  · decide
  · decide
  · have := isAlphanum_iff.1 h
    omega

/-- Fillers hold ASCII characters only, so that a property of theirs can be checked. -/
theorem forall_isFillerChar {p : Char → Bool}
    (h : ∀ n < 128, isFillerChar (Char.ofNat n) = true → p (Char.ofNat n) = true) (c : Char)
    (hc : isFillerChar c = true) : p c = true := by
  have hchecked := h c.toNat (toNat_lt_of_isFillerChar hc)
  rw [Char.ofNat_toNat] at hchecked
  exact hchecked hc

theorem isBlank_of_isFillerChar {c : Char} (h : isFillerChar c = true) : isBlank c = false := by
  have := forall_isFillerChar (p := fun c => !isBlank c) (by decide) c h
  simpa using this

/-- A run of characters goes over every filler, or it stops in front of each. -/
inductive Passes (p : Char → Bool) : Bool → Prop
  | whole (h : ∀ c, isFillerChar c = true → p c = true) : Passes p true
  | stops (h : p '&' = false) : Passes p false

def runOf (p : Char → Bool) (gap : Bool) (t : Cells) : Nat := (t.takeWhile fun cell => cell.elim gap p).length

theorem takeWhile_fill {p : Char → Bool} {gap : Bool} (h : Passes p gap) {r : List Char} (hr : IsFiller r)
    (t : Cells) : (fill r t).takeWhile p = fill r (t.take (runOf p gap t)) := by
  rw [runOf, ← List.prefix_iff_eq_take.1 (List.takeWhile_prefix _)]
  induction t with
  | nil => rfl
  | cons cell t ih =>
      cases cell with
      | some c => cases hc : p c <;> simp [hc, ih]
      | none =>
          cases h with
          | whole hall =>
              rw [fill_none, List.takeWhile_append_of_pos fun c hc => hall c (hr.all c hc), ih]
              rfl
          | stops hstop =>
              obtain ⟨tail, rfl, _⟩ := hr.exists_cons
              simp [hstop]

theorem dropWhile_fill {p : Char → Bool} {gap : Bool} (h : Passes p gap) {r : List Char} (hr : IsFiller r)
    (t : Cells) : (fill r t).dropWhile p = fill r (t.drop (runOf p gap t)) := by
  rw [← drop_length_takeWhile, takeWhile_fill h hr, ← drop_extentOf]
  rfl

theorem length_takeWhile_fill {p : Char → Bool} {gap : Bool} (h : Passes p gap) {r : List Char}
    (hr : IsFiller r) (t : Cells) : ((fill r t).takeWhile p).length = extentOf r t (runOf p gap t) := by
  rw [takeWhile_fill h hr]
  rfl

/-- A run that stops at gaps takes as many characters as cells. -/
theorem extentOf_runOf (r : List Char) (p : Char → Bool) (t : Cells) :
    extentOf r t (runOf p false t) = runOf p false t := by
  induction t with
  | nil => rfl
  | cons cell t ih =>
      cases cell with
      | none => rfl
      | some c =>
          rw [runOf, List.takeWhile_cons]
          cases hc : (some c).elim false p with
          | false => rfl
          | true => exact congrArg (· + 1) ih

theorem drop_runOf_fill (r : List Char) (p : Char → Bool) (t : Cells) :
    (fill r t).drop (runOf p false t) = fill r (t.drop (runOf p false t)) := by
  have hdrop := drop_extentOf r t (runOf p false t)
  rwa [extentOf_runOf] at hdrop

/-- A search stops at one cell, whatever fills the gaps, and `Q` holds of the cells from there on. -/
def StopsAt (Q : Cells → Prop) (f : List Char → Option Nat) (t : Cells) : Prop :=
  ∃ k : Option Nat, (∀ j ∈ k, Q (t.drop j)) ∧ ∀ r, IsFiller r → f (fill r t) = k.map (extentOf r t)

section

variable {Q : Cells → Prop} {f g : List Char → Option Nat} {t : Cells}

theorem StopsAt.fail (h : ∀ r, IsFiller r → f (fill r t) = none) : StopsAt Q f t :=
  ⟨none, by simp, h⟩

theorem StopsAt.here (hQ : Q t) (h : ∀ r, IsFiller r → f (fill r t) = some 0) : StopsAt Q f t :=
  ⟨some 0, by simpa using hQ, h⟩

theorem StopsAt.jump {k : Nat} (hg : StopsAt Q g (t.drop k))
    (h : ∀ r, IsFiller r → f (fill r t) = (g (fill r (t.drop k))).map (· + extentOf r t k)) :
    StopsAt Q f t := by
  obtain ⟨j, hQ, hj⟩ := hg
  refine ⟨j.map (k + ·), ?_, fun r hr => ?_⟩
  · intro i hi
    obtain ⟨j, hj, rfl⟩ := Option.map_eq_some_iff.1 hi
    rw [← List.drop_drop]
    exact hQ j hj
  · rw [h r hr, hj r hr, Option.map_map, Option.map_map]
    refine congrArg (Option.map · j) (funext fun j => ?_)
    simp only [Function.comp_apply, extentOf_add, Nat.add_comm]

end

theorem beforeRun?_append_bare (size : Nat) {p : List Char} (hp : '`' ∉ p) (cs : List Char) :
    beforeRun? size (p ++ cs) = (beforeRun? size cs).map (p ++ ·) := by
  induction p with
  | nil => simp
  | cons c p ih =>
      rw [List.mem_cons, not_or] at hp
      rw [List.cons_append, beforeRun?, if_neg (Ne.symm hp.1), ih hp.2, Option.map_map]
      rfl

theorem passes_backticks : Passes (· = '`') false := .stops rfl

theorem countLeading_fill {r : List Char} (hr : IsFiller r) (t : Cells) :
    countLeading '`' (fill r t) = runOf (· = '`') false t :=
  (length_takeWhile_fill passes_backticks hr t).trans (extentOf_runOf r _ t)

theorem fill_take_backticks {r : List Char} (hr : IsFiller r) (t : Cells) :
    fill r (t.take (runOf (· = '`') false t)) = List.replicate (runOf (· = '`') false t) '`' := by
  rw [← takeWhile_fill passes_backticks hr, List.eq_replicate_iff]
  exact ⟨countLeading_fill hr t, fun d hd => by simpa using List.all_eq_true.1 List.all_takeWhile d hd⟩

theorem length_drop_lt_cons (t : Cells) (cell : Option Char) (k : Nat) : (t.drop k).length < (cell :: t).length := by
  rw [List.length_drop, List.length_cons]
  omega

theorem beforeRun?_fill (size : Nat) (t : Cells) :
    ∃ k : Option Nat, ∀ r, IsFiller r → beforeRun? size (fill r t) = k.map fun k => fill r (t.take k) := by
  induction ht : t.length using Nat.strongRecOn generalizing t with
  | ind n ih =>
      cases t with
      | nil => exact ⟨none, fun r _ => by rw [fill_nil, beforeRun?]; rfl⟩
      | cons cell t =>
          cases cell with
          | none =>
              obtain ⟨k, hk⟩ := ih t.length (Nat.lt_of_lt_of_eq (Nat.lt_succ_self _) ht) t rfl
              refine ⟨k.map (· + 1), fun r hr => ?_⟩
              rw [fill_none, beforeRun?_append_bare size (hr.not_mem rfl), hk r hr, Option.map_map, Option.map_map]
              rfl
          | some c =>
              by_cases hc : c = '`'
              · subst hc
                by_cases hsize : runOf (· = '`') false t + 1 = size
                · refine ⟨some 0, fun r hr => ?_⟩
                  simp only [fill_some, beforeRun?, countLeading_fill hr, if_pos hsize]
                  rfl
                · obtain ⟨k, hk⟩ := ih (t.drop (runOf (· = '`') false t)).length
                    (Nat.lt_of_lt_of_eq (length_drop_lt_cons ..) ht) (t.drop (runOf (· = '`') false t)) rfl
                  refine ⟨k.map (runOf (· = '`') false t + 1 + ·), fun r hr => ?_⟩
                  simp only [fill_some, beforeRun?, countLeading_fill hr, if_neg hsize, if_true]
                  rw [drop_runOf_fill, hk r hr, Option.map_map, Option.map_map]
                  refine congrArg (Option.map · k) (funext fun k => ?_)
                  simp only [Function.comp_apply]
                  rw [Nat.add_right_comm, List.take_succ_cons, fill_some, List.take_add, fill_append,
                    fill_take_backticks hr, List.replicate_succ]
                  rfl
              · obtain ⟨k, hk⟩ := ih t.length (Nat.lt_of_lt_of_eq (Nat.lt_succ_self _) ht) t rfl
                refine ⟨k.map (· + 1), fun r hr => ?_⟩
                rw [fill_some, beforeRun?, if_neg hc, hk r hr, Option.map_map, Option.map_map]
                rfl

theorem replicate_prefix_fill_iff {r : List Char} (hr : IsFiller r) (n : Nat) (t : Cells) :
    List.replicate n '`' <+: fill r t ↔ List.replicate n (some '`') <+: t := by
  induction n generalizing t with
  | zero => simp
  | succ n ih =>
      cases t with
      | nil => simp
      | cons cell t =>
          cases cell with
          | some c =>
              rw [List.replicate_succ, List.replicate_succ, fill_some, List.cons_prefix_cons, List.cons_prefix_cons,
                ih, Option.some.injEq]
          | none =>
              obtain ⟨tail, rfl, _⟩ := hr.exists_cons
              rw [List.replicate_succ, List.replicate_succ, fill_none, List.cons_append, List.cons_prefix_cons,
                List.cons_prefix_cons]
              simp

theorem toBackticks?_append_bare {n : Nat} (hn : 0 < n) {p : List Char} (hp : '`' ∉ p) (cs : List Char) :
    toBackticks? n (p ++ cs) = (toBackticks? n cs).map (· + p.length) := by
  induction p with
  | nil => simp
  | cons c p ih =>
      rw [List.mem_cons, not_or] at hp
      have hfirst : ¬(List.replicate n '`').isPrefixOf (c :: (p ++ cs)) = true := by
        obtain ⟨n, rfl⟩ := Nat.exists_eq_succ_of_ne_zero hn.ne'
        rw [List.isPrefixOf_iff_prefix, List.replicate_succ, List.cons_prefix_cons]
        exact fun h => hp.1 h.1
      rw [List.cons_append, toBackticks?, if_neg hfirst, ih hp.2, Option.map_map]
      rfl

theorem toBackticks?_fill {n : Nat} (hn : 0 < n) (t : Cells) :
    StopsAt (List.replicate n (some '`') <+: ·) (toBackticks? n) t := by
  induction t with
  | nil => exact .fail fun r _ => rfl
  | cons cell t ih =>
      cases cell with
      | none =>
          refine ih.jump (k := 1) fun r hr => ?_
          rw [fill_none, toBackticks?_append_bare hn (hr.not_mem rfl), extentOf_none, extentOf_zero, Nat.zero_add]
          rfl
      | some c =>
          by_cases hprefix : List.replicate n (some '`') <+: some c :: t
          · refine .here hprefix fun r hr => ?_
            have hfilled := (replicate_prefix_fill_iff hr n _).2 hprefix
            rw [fill_some] at hfilled ⊢
            rw [toBackticks?, if_pos (List.isPrefixOf_iff_prefix.2 hfilled)]
          · refine ih.jump (k := 1) fun r hr => ?_
            have hfilled := mt (replicate_prefix_fill_iff hr n _).1 hprefix
            rw [fill_some] at hfilled ⊢
            rw [toBackticks?, if_neg (mt List.isPrefixOf_iff_prefix.1 hfilled)]
            rfl

theorem extentOf_of_prefix {r : List Char} {t : Cells} {cs : List Char} (h : cs.map some <+: t) :
    extentOf r t cs.length = cs.length := by
  obtain ⟨rest, rfl⟩ := h
  rw [extentOf, List.take_left' (List.length_map ..), fill_map_some]

theorem hiddenByBacktick_fill (t : Cells) :
    ∃ k, ∀ r, IsFiller r → hiddenByBacktick (fill r t) = extentOf r t k := by
  have hmore := fun r => extentOf_runOf r (· = '`') t
  obtain ⟨j, hrun, hj⟩ := toBackticks?_fill (n := runOf (· = '`') false t + 1) (Nat.succ_pos _)
    (t.drop (runOf (· = '`') false t))
  cases j with
  | none =>
      refine ⟨runOf (· = '`') false t, fun r hr => ?_⟩
      simp only [hiddenByBacktick, countLeading_fill hr, drop_runOf_fill, hj r hr, Option.map_none, hmore]
  | some j =>
      refine ⟨runOf (· = '`') false t + j + (runOf (· = '`') false t + 1), fun r hr => ?_⟩
      have hclosing := hrun j rfl
      rw [← List.map_replicate, List.drop_drop] at hclosing
      have hextent := extentOf_of_prefix (r := r) hclosing
      rw [List.length_replicate] at hextent
      simp only [hiddenByBacktick, countLeading_fill hr, drop_runOf_fill, hj r hr, Option.map_some,
        extentOf_add, hmore, hextent]

theorem isBareInLabel_of_isFillerChar {c : Char} (h : isFillerChar c = true) : IsBareInLabel c := by
  simp only [IsBareInLabel, List.mem_cons, List.not_mem_nil, or_false, not_or]
  refine ⟨?_, ?_, ?_, ?_⟩ <;> (rintro rfl; cases h)

theorem toClosingBracket?_append_filler {p : List Char} (hp : ∀ c ∈ p, isFillerChar c = true) (depth : Nat)
    (cs : List Char) : toClosingBracket? depth (p ++ cs) = (toClosingBracket? depth cs).map (· + p.length) :=
  (escaped_self fun c hc => isBareInLabel_of_isFillerChar (hp c hc)).toClosingBracket?_append depth cs

/-- Behind a backslash one character of a filler is skipped and the rest passed over, or a whole cell. -/
theorem map_drop_one {f : List Char → Option Nat} (hnil : f [] = none)
    (hskip : ∀ p, (∀ c ∈ p, isFillerChar c = true) → ∀ cs, f (p ++ cs) = (f cs).map (· + p.length)) {r : List Char}
    (hr : IsFiller r) (t : Cells) :
    (f ((fill r t).drop 1)).map (· + 2) = (f (fill r (t.drop 1))).map (· + (extentOf r t 1 + 1)) := by
  cases t with
  | nil => simp [hnil]
  | cons cell t =>
      cases cell with
      | some c => rfl
      | none =>
          obtain ⟨tail, rfl, htail⟩ := hr.exists_cons
          rw [fill_none, List.cons_append, List.drop_one, List.tail_cons, hskip tail htail, Option.map_map,
            extentOf_none, List.drop_one, List.tail_cons]
          refine congrArg (Option.map · _) (funext fun n => ?_)
          simp only [Function.comp_apply, extentOf_zero, List.length_cons]
          omega

theorem toClosingBracket?_fill (depth : Nat) (t : Cells) :
    StopsAt (·.head? = some (some ']')) (toClosingBracket? depth) t := by
  induction ht : t.length using Nat.strongRecOn generalizing t depth with
  | ind n ih =>
      cases t with
      | nil => exact .fail fun r _ => by cases depth <;> rw [fill_nil, toClosingBracket?]
      | cons cell t =>
          have hrest (depth : Nat) := ih t.length (Nat.lt_of_lt_of_eq (Nat.lt_succ_self _) ht) depth t rfl
          cases cell with
          | none =>
              refine (hrest depth).jump (k := 1) fun r hr => ?_
              rw [fill_none, toClosingBracket?_append_filler hr.all, extentOf_none, extentOf_zero, Nat.zero_add]
              rfl
          | some c =>
              by_cases hslash : c = '\\'
              · subst hslash
                have hbehind := ih (t.drop 1).length (Nat.lt_of_lt_of_eq (length_drop_lt_cons ..) ht) depth (t.drop 1) rfl
                refine hbehind.jump (k := 2) fun r hr => ?_
                rw [fill_some, toClosingBracket?_backslash, map_drop_one (by cases depth <;> rw [toClosingBracket?])
                  (fun p hp cs => toClosingBracket?_append_filler hp depth cs) hr]
                rfl
              by_cases htick : c = '`'
              · subst htick
                obtain ⟨k, hk⟩ := hiddenByBacktick_fill t
                have hbehind := ih (t.drop k).length (Nat.lt_of_lt_of_eq (length_drop_lt_cons ..) ht) depth (t.drop k) rfl
                refine hbehind.jump (k := k + 1) fun r hr => ?_
                rw [fill_some, toClosingBracket?_backtick, hk r hr, drop_extentOf]
                rfl
              by_cases hopening : c = '['
              · subst hopening
                exact (hrest (depth + 1)).jump (k := 1) fun r _ => toClosingBracket?_opening depth (fill r t)
              by_cases hclosing : c = ']'
              · subst hclosing
                cases depth with
                | zero => exact .here rfl fun r _ => toClosingBracket?_last (fill r t)
                | succ depth =>
                    exact (hrest depth).jump (k := 1) fun r _ => toClosingBracket?_closing depth (fill r t)
              · have hbare : IsBareInLabel c := by simp [IsBareInLabel, *]
                exact (hrest depth).jump (k := 1) fun r _ => toClosingBracket?_bare depth (fill r t) hbare

end MarkdownOutline.Inline
