import MarkdownOutline.Text.Slug

namespace MarkdownOutline.Text

namespace CharRef

def StartsLong (cs : List Char) : Prop :=
  ∃ digits, maxDigits < digits.length ∧ digits.all isDecimal ∧ '#' :: digits <+: cs

def HasLong (cs : List Char) : Prop :=
  ∃ digits, maxDigits < digits.length ∧ digits.all isDecimal ∧ '&' :: '#' :: digits <:+: cs

theorem HasLong.length_lt {cs : List Char} (h : HasLong cs) : maxDigits < cs.length := by
  obtain ⟨digits, hsize, _, hwithin⟩ := h
  have := hwithin.length_le
  simp only [List.length_cons] at this
  omega

def Behind (P : List Char → Prop) (cs : List Char) : Prop := ∃ rest, '&' :: rest <:+ cs ∧ P rest

section

variable {P : List Char → Prop}

theorem not_behind_nil : ¬Behind P [] := by
  rintro ⟨rest, h, _⟩
  cases List.suffix_nil.1 h

theorem behind_cons (c : Char) (cs : List Char) :
    Behind P (c :: cs) ↔ (c = '&' ∧ P cs) ∨ Behind P cs := by
  simp only [Behind, List.suffix_cons_iff, List.cons.injEq]
  constructor
  · rintro ⟨rest, ⟨rfl, rfl⟩ | h, hrest⟩
    · exact .inl ⟨rfl, hrest⟩
    · exact .inr ⟨rest, h, hrest⟩
  · rintro (⟨rfl, hrest⟩ | ⟨rest, h, hrest⟩)
    · exact ⟨cs, .inl ⟨rfl, rfl⟩, hrest⟩
    · exact ⟨rest, .inr h, hrest⟩

instance Behind.decidable [DecidablePred P] : ∀ cs, Decidable (Behind P cs)
  | [] => isFalse not_behind_nil
  | c :: cs =>
      have := Behind.decidable cs
      decidable_of_iff' _ (behind_cons c cs)

theorem behind_append {xs : List Char} (h : '&' ∉ xs) (ys : List Char) :
    Behind P (xs ++ ys) ↔ Behind P ys := by
  induction xs with
  | nil => rfl
  | cons x xs ih =>
      rw [List.mem_cons, not_or] at h
      rw [List.cons_append, behind_cons, ih h.2]
      simp [Ne.symm h.1]

theorem behind_drop {cs : List Char} {n : Nat} (h : '&' ∉ cs.take n) :
    Behind P (cs.drop n) ↔ Behind P cs := by
  rw [← behind_append h, List.take_append_drop]

end

theorem hasLong_iff_behind (cs : List Char) : HasLong cs ↔ Behind StartsLong cs := by
  simp only [HasLong, Behind, StartsLong, List.infix_iff_prefix_suffix]
  constructor
  · rintro ⟨digits, hsize, hall, _, ⟨tail, rfl⟩, h⟩
    exact ⟨'#' :: digits ++ tail, h, digits, hsize, hall, List.prefix_append _ _⟩
  · rintro ⟨rest, h, digits, hsize, hall, hprefix⟩
    exact ⟨digits, hsize, hall, '&' :: rest, List.cons_prefix_cons.2 ⟨rfl, hprefix⟩, h⟩

theorem not_hasLong_nil : ¬HasLong [] := by
  rw [hasLong_iff_behind]
  exact not_behind_nil

theorem hasLong_cons (c : Char) (cs : List Char) :
    HasLong (c :: cs) ↔ (c = '&' ∧ StartsLong cs) ∨ HasLong cs := by
  simp only [hasLong_iff_behind, behind_cons]

theorem hasLong_drop {cs : List Char} {n : Nat} (h : '&' ∉ cs.take n) :
    HasLong (cs.drop n) ↔ HasLong cs := by
  simp only [hasLong_iff_behind, behind_drop h]

theorem startsLong_numeral (cs : List Char) :
    StartsLong ('#' :: cs) ↔ maxDigits < (cs.takeWhile isDecimal).length := by
  constructor
  · rintro ⟨digits, hsize, hall, h⟩
    obtain ⟨rest, rfl⟩ := (List.cons_prefix_cons.1 h).2
    rw [List.takeWhile_append_of_pos (List.all_eq_true.1 hall), List.length_append]
    omega
  · intro h
    exact ⟨cs.takeWhile isDecimal, h, List.all_takeWhile,
      List.cons_prefix_cons.2 ⟨rfl, List.takeWhile_prefix _⟩⟩

theorem not_startsLong_of_head {cs : List Char} (h : cs.head? ≠ some '#') : ¬StartsLong cs := by
  rintro ⟨digits, _, _, rest, rfl⟩
  exact h rfl

theorem ampersand_not_mem_semicolon (cs : List Char) : '&' ∉ cs.take (semicolon cs) := by
  unfold semicolon
  split <;> simp

theorem ampersand_not_mem_takeWhile {p : Char → Bool} (hp : p '&' = false) (cs : List Char) :
    '&' ∉ cs.takeWhile p := by
  intro h
  rw [List.all_eq_true.1 List.all_takeWhile '&' h] at hp
  cases hp

theorem ampersand_not_mem_take (marks : List Char) {word cs : List Char} (hmarks : '&' ∉ marks)
    (hword : '&' ∉ word) (h : word <+: cs) :
    '&' ∉ (marks ++ cs).take (marks.length + word.length + semicolon (cs.drop word.length)) := by
  obtain ⟨rest, rfl⟩ := h
  rw [List.drop_left, Nat.add_assoc, List.take_length_add_append, List.take_length_add_append]
  simp only [List.mem_append, not_or]
  exact ⟨hmarks, hword, ampersand_not_mem_semicolon _⟩

theorem reference?_cases (cs : List Char) :
    (∃ rest, cs = '#' :: rest ∧ 0 < (rest.takeWhile isDecimal).length ∧
      reference? cs = some (.decimal (rest.takeWhile isDecimal), 1 + (rest.takeWhile isDecimal).length +
        semicolon (rest.drop (rest.takeWhile isDecimal).length))) ∨
    (¬StartsLong cs ∧ ∀ reference taken, reference? cs = some (reference, taken) →
      (∃ text, reference.decode = .ok text) ∧ '&' ∉ cs.take taken) := by
  by_cases hmark : ∃ rest, cs = '#' :: rest
  · obtain ⟨rest, rfl⟩ := hmark
    by_cases hsize : 0 < (rest.takeWhile isDecimal).length
    · exact .inl ⟨rest, rfl, hsize, by simp only [reference?, if_pos hsize]⟩
    · refine .inr ⟨by rw [startsLong_numeral]; omega, fun reference taken h => ?_⟩
      simp only [reference?, if_neg hsize] at h
      cases rest with
      | nil => cases h
      | cons x rest =>
          simp only [Option.ite_none_right_eq_some, Option.some.injEq, Prod.mk.injEq,
            Bool.and_eq_true, Bool.or_eq_true, decide_eq_true_eq] at h
          obtain ⟨⟨hx, _⟩, rfl, rfl⟩ := h
          refine ⟨⟨_, rfl⟩, ampersand_not_mem_take ['#', x] ?_
            (ampersand_not_mem_takeWhile (by decide) rest) (List.takeWhile_prefix _)⟩
          rcases hx with rfl | rfl <;> decide
  · refine .inr ⟨not_startsLong_of_head fun h => hmark ?_, fun reference taken h => ?_⟩
    · obtain ⟨rest, rfl⟩ := List.head?_eq_some_iff.1 h
      exact ⟨rest, rfl⟩
    · unfold reference? at h
      split at h
      · exact absurd ⟨_, rfl⟩ hmark
      · simp only [Option.ite_none_right_eq_some, Option.some.injEq, Prod.mk.injEq] at h
        obtain ⟨_, rfl, rfl⟩ := h
        refine ⟨⟨_, rfl⟩, ?_⟩
        simpa using ampersand_not_mem_take [] (by simp)
          (ampersand_not_mem_takeWhile (p := isNameChar) (by decide) (cs.take maxNameLength))
          ((List.takeWhile_prefix _).trans (List.take_prefix _ _))

theorem reference?_of_some {cs : List Char} {reference : Reference} {taken : Nat}
    (h : reference? cs = some (reference, taken)) :
    '&' ∉ cs.take taken ∧ ((∃ text, reference.decode = .ok text) ↔ ¬StartsLong cs) := by
  rcases reference?_cases cs with ⟨rest, rfl, _, hread⟩ | ⟨hlong, hother⟩
  · obtain ⟨rfl, rfl⟩ := Prod.mk.inj (Option.some.inj (hread.symm.trans h))
    refine ⟨ampersand_not_mem_take ['#'] (by decide)
      (ampersand_not_mem_takeWhile (by decide) rest) (List.takeWhile_prefix _), ?_⟩
    rw [startsLong_numeral, Reference.decode]
    split <;> simp_all
  · obtain ⟨hdecode, hampersand⟩ := hother reference taken h
    exact ⟨hampersand, by simp only [hdecode, hlong, not_false_iff]⟩

theorem reference?_of_none {cs : List Char} (h : reference? cs = none) : ¬StartsLong cs := by
  rcases reference?_cases cs with ⟨rest, rfl, _, hread⟩ | ⟨hlong, _⟩
  · rw [hread] at h
    cases h
  · exact hlong

theorem decode_ok_iff (cs : List Char) : (∃ text, decode cs = .ok text) ↔ ¬HasLong cs := by
  fun_induction decode cs with
  | case1 => simpa using not_hasLong_nil
  | case2 rest reference taken h ih =>
      obtain ⟨hampersand, hdecode⟩ := reference?_of_some h
      rw [hasLong_cons, not_or, ← hasLong_drop hampersand, ← ih]
      simp only [true_and, ← hdecode]
      cases reference.decode with
      | error e => simp [bind, Except.bind]
      | ok text => cases decode (rest.drop taken) <;> simp [bind, Except.bind, pure, Except.pure]
  | case3 rest h ih =>
      rw [hasLong_cons, not_or, ← ih]
      simp only [reference?_of_none h, and_false, not_false_iff, true_and]
      cases decode rest <;> simp [bind, Except.bind, pure, Except.pure]
  | case4 c rest hc ih =>
      rw [hasLong_cons, not_or, ← ih]
      simp only [hc, false_and, not_false_iff, true_and]
      cases decode rest <;> simp [bind, Except.bind, pure, Except.pure]

end CharRef

theorem slug_ok_iff (text : String) :
    (∃ result, slug text = .ok result) ↔ ¬CharRef.HasLong text.toList := by
  rw [← CharRef.decode_ok_iff, slug, Slug.ofChars.eq_def]
  cases text.toList with
  | nil => simp [CharRef.decode, Except.map]
  | cons c cs =>
      have hseparator : Separator.parse "-".toList = .ok [.text "-".toList] := rfl
      simp only [hseparator]
      cases CharRef.decode (c :: cs) <;> simp [Except.map]

end MarkdownOutline.Text
