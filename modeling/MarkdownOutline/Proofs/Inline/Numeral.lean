import MarkdownOutline.Proofs.Inline.GapStep

namespace MarkdownOutline.Inline

open Text CharRef

inductive IsNumeral : List Char → Prop
  | decimal {digits : List Char} (hne : digits ≠ []) (h : digits.all isDecimal = true) :
      IsNumeral ('&' :: '#' :: (digits ++ [';']))
  | hex {x : Char} (hx : x = 'x' ∨ x = 'X') {digits : List Char} (hne : digits ≠ [])
      (h : digits.all isHex = true) : IsNumeral ('&' :: '#' :: x :: (digits ++ [';']))

structure Denotes (r : List Char) (c : Char) : Prop where
  numeral : IsNumeral r
  decode : CharRef.decode r = .ok [c]

/-- What stands in the text for a reference to `c`: the character, or the whole reference if it has too many
digits. -/
def shown (r : List Char) (c : Char) : List Char := if (entity? r.tail).isSome then [c] else r

theorem isAlphanum_of_isHex {c : Char} (h : isHex c = true) : c.isAlphanum = true := by
  have hrange {lo hi : Char} (hc : (lo ≤ c && c ≤ hi) = true) : lo.toNat ≤ c.toNat ∧ c.toNat ≤ hi.toNat := by
    simpa [Char.le_def, UInt32.le_iff_toNat_le] using hc
  rw [isHex, hexValue?] at h
  rw [isAlphanum_iff]
  split_ifs at h with hdigit hlower hupper
  · exact .inr (hrange hdigit)
  · exact .inl (.inr ⟨(hrange hlower).1, (hrange hlower).2.trans (by decide)⟩)
  · exact .inl (.inl ⟨(hrange hupper).1, (hrange hupper).2.trans (by decide)⟩)
  · cases h

theorem isHex_of_isDecimal {c : Char} (h : isDecimal c = true) : isHex c = true := by
  rw [isDecimal] at h
  rw [isHex, hexValue?, if_pos h]
  rfl

theorem IsNumeral.isFiller {r : List Char} (h : IsNumeral r) : IsFiller r := by
  cases h with
  | @decimal digits _ hdigits =>
      refine ⟨'#' :: digits, rfl, ?_⟩
      simp only [List.all_eq_true, List.mem_cons, Bool.or_eq_true, decide_eq_true_eq] at hdigits ⊢
      rintro c (rfl | hc)
      · exact .inl rfl
      · exact .inr (isAlphanum_of_isHex (isHex_of_isDecimal (hdigits c hc)))
  | @hex x hx digits _ hdigits =>
      refine ⟨'#' :: x :: digits, rfl, ?_⟩
      simp only [List.all_eq_true, List.mem_cons, Bool.or_eq_true, decide_eq_true_eq] at hdigits ⊢
      rintro c (rfl | rfl | hc)
      · exact .inl rfl
      · rcases hx with rfl | rfl <;> exact .inr (by decide)
      · exact .inr (isAlphanum_of_isHex (hdigits c hc))

theorem takeWhile_digits {p : Char → Bool} (hp : p ';' = false) {digits : List Char} (h : digits.all p = true)
    (after : List Char) : (digits ++ ';' :: after).takeWhile p = digits := by
  rw [List.takeWhile_append_of_pos (List.all_eq_true.1 h), List.takeWhile_cons_of_neg (by simp [hp]), List.append_nil]

theorem endsAt_digits (digits after : List Char) : endsAt (digits ++ ';' :: after) digits.length = true := by
  rw [endsAt, List.drop_left]
  rfl

theorem decode_of_reference? {rest text : List Char} {reference : CharRef.Reference}
    (hread : reference? rest = some (reference, rest.length)) (h : decode ('&' :: rest) = .ok text) :
    reference.decode = .ok text := by
  rw [decode, if_pos rfl, hread] at h
  simp only [List.drop_length, decode] at h
  cases hreference : reference.decode with
  | error e =>
      rw [hreference] at h
      cases h
  | ok more =>
      rw [hreference] at h
      simpa [bind, Except.bind, pure, Except.pure] using h

section

variable {digits : List Char} (hne : digits ≠ [])
include hne

theorem entity?_decimal (h : digits.all isDecimal = true) (after : List Char) :
    entity? ('#' :: (digits ++ ';' :: after)) =
      if digits.length ≤ 7 then some (ofNumber (valueOf 10 digits), digits.length + 2) else none := by
  have htake := takeWhile_digits (p := isDecimal) (by decide) h after
  cases digits with
  | nil => exact absurd rfl hne
  | cons d digits =>
      have hmark : (decide (d = 'x') || decide (d = 'X')) = false := by
        have hd := List.all_eq_true.1 h d (List.mem_cons_self ..)
        rw [Bool.eq_false_iff]
        intro hx
        simp only [Bool.or_eq_true, decide_eq_true_eq] at hx
        rcases hx with rfl | rfl <;> cases hd
      rw [List.cons_append, entity?.eq_1, ← List.cons_append, htake, endsAt_digits]
      simp [hmark]

theorem entity?_hex {x : Char} (hx : x = 'x' ∨ x = 'X') (h : digits.all isHex = true) (after : List Char) :
    entity? ('#' :: x :: (digits ++ ';' :: after)) =
      if digits.length ≤ 6 then some (ofNumber (valueOf 16 digits), digits.length + 3) else none := by
  have hpos : 1 ≤ digits.length := List.length_pos_iff.2 hne
  have htake := takeWhile_digits (p := isHex) (by decide) h after
  have hfirst : isDecimal x = false := by rcases hx with rfl | rfl <;> decide
  have hmark : (decide (x = 'x') || decide (x = 'X')) = true := by rcases hx with rfl | rfl <;> decide
  simp only [entity?, List.takeWhile_cons, hfirst, htake, endsAt_digits, hmark, hpos]
  simp

theorem reference?_decimal (h : digits.all isDecimal = true) :
    reference? ('#' :: (digits ++ [';'])) = some (.decimal digits, digits.length + 2) := by
  have hpos : 0 < digits.length := List.length_pos_iff.2 hne
  simp only [reference?, takeWhile_digits (p := isDecimal) (by decide) h [], hpos, if_true, List.drop_left, semicolon]
  rw [Nat.add_comm 1]

theorem reference?_hex {x : Char} (hx : x = 'x' ∨ x = 'X') (h : digits.all isHex = true) :
    reference? ('#' :: x :: (digits ++ [';'])) = some (.hex digits, digits.length + 3) := by
  have hpos : 0 < digits.length := List.length_pos_iff.2 hne
  have hfirst : isDecimal x = false := by rcases hx with rfl | rfl <;> decide
  have hmark : (decide (x = 'x') || decide (x = 'X')) = true := by rcases hx with rfl | rfl <;> decide
  simp only [reference?, List.takeWhile_cons, hfirst, takeWhile_digits (p := isHex) (by decide) h [], hpos,
    List.drop_left, semicolon, hmark]
  simp
  omega

end

theorem Denotes.entity?_cases {r : List Char} {c : Char} (h : Denotes r c) :
    (shown r c = [c] ∧ ∀ after, entity? (r.tail ++ after) = some ([c], r.tail.length)) ∨
    (shown r c = r ∧ ∀ after, entity? (r.tail ++ after) = none) := by
  have hself (hread : ∀ after, entity? (r.tail ++ after) = entity? r.tail)
      (hcases : entity? r.tail = some ([c], r.tail.length) ∨ entity? r.tail = none) :
      (shown r c = [c] ∧ ∀ after, entity? (r.tail ++ after) = some ([c], r.tail.length)) ∨
      (shown r c = r ∧ ∀ after, entity? (r.tail ++ after) = none) := by
    simp only [hread, shown]
    rcases hcases with hcase | hcase <;> simp [hcase]
  obtain ⟨hnumeral, hdecode⟩ := h
  cases hnumeral with
  | @decimal digits hne hdigits =>
      have hlength : ('#' :: (digits ++ [';'])).length = digits.length + 2 := by simp
      have hread := decode_of_reference? ((reference?_decimal hne hdigits).trans (by rw [hlength])) hdecode
      have hentity := entity?_decimal hne hdigits
      refine hself (fun after => ?_) ?_
      · simp only [List.tail_cons, List.cons_append, List.append_assoc, List.nil_append, hentity]
      · rw [CharRef.Reference.decode] at hread
        split at hread
        · cases hread
        · rw [List.tail_cons, hentity, Except.ok.inj hread, hlength]
          split
          · exact .inl rfl
          · exact .inr rfl
  | @hex x hx digits hne hdigits =>
      have hlength : ('#' :: x :: (digits ++ [';'])).length = digits.length + 3 := by simp
      have hread := decode_of_reference? ((reference?_hex hne hx hdigits).trans (by rw [hlength])) hdecode
      have hentity := entity?_hex hne hx hdigits
      refine hself (fun after => ?_) ?_
      · simp only [List.tail_cons, List.cons_append, List.append_assoc, List.nil_append, hentity]
      · rw [List.tail_cons, hentity, Except.ok.inj hread, hlength]
        split
        · exact .inl rfl
        · exact .inr rfl

section

variable {ctx : Context} {source : List Char} {done : List Piece} {before : Option Char}

theorem step_of_isFillerChar {c : Char} (hc : isFillerChar c = true) (hne : c ≠ '&') (before : Option Char)
    (rest : List Char) : step ctx before c rest = ⟨.text [c], 0⟩ := by
  have hmark {d : Char} (hd : isFillerChar d = false) : c ≠ d := by
    rintro rfl
    rw [hc] at hd
    cases hd
  simp [step, hne, hmark (d := '\\') rfl, hmark (d := '`') rfl, hmark (d := '*') rfl, hmark (d := '_') rfl,
    hmark (d := '~') rfl, hmark (d := '!') rfl, hmark (d := '[') rfl, hmark (d := '<') rfl, hmark (d := '\n') rfl]

theorem Stands.word {word : List Char} (hword : ∀ c ∈ word, isFillerChar c = true ∧ c ≠ '&') {last : Char}
    {pending rest : List Char} (h : Stands ctx source done (some last) (some pending) (word ++ rest)) :
    Stands ctx source done (some (word.getLastD last)) (some (word.reverse ++ pending)) rest := by
  induction word generalizing last pending with
  | nil => exact h
  | cons c word ih =>
      obtain ⟨⟨hc, hne⟩, hword⟩ := List.forall_mem_cons.1 hword
      have hnext := ih hword (h.text (step_of_isFillerChar hc hne _ _))
      rw [List.getLastD_cons, List.reverse_cons, List.append_assoc]
      exact hnext

theorem Stands.reference {pending : Option (List Char)} {r rest : List Char} {c : Char}
    (h : Stands ctx source done before pending (r ++ rest)) (hr : Denotes r c) :
    Stands ctx source done (some ';') (some ((shown r c).reverse ++ pending.getD [])) rest := by
  have hcases := hr.entity?_cases
  obtain ⟨word, rfl, hword⟩ := hr.numeral.isFiller
  rw [List.cons_append] at h
  have hamp : step ctx before '&' ((word ++ [';']) ++ rest) = entityStep ((word ++ [';']) ++ rest) := rfl
  simp only [List.tail_cons] at hcases
  rcases hcases with ⟨hshown, hread⟩ | ⟨hshown, hread⟩
  · have hstep : step ctx before '&' ((word ++ [';']) ++ rest) = ⟨.text [c], (word ++ [';']).length⟩ := by
      rw [hamp, entityStep, hread]
    have hnext := h.text hstep
    rw [List.take_left, List.drop_left, List.getLastD_concat] at hnext
    rw [hshown]
    exact hnext
  · have hstep : step ctx before '&' ((word ++ [';']) ++ rest) = ⟨.text ['&'], 0⟩ := by
      rw [hamp, entityStep, hread]
    have hword' : ∀ d ∈ word ++ [';'], isFillerChar d = true ∧ d ≠ '&' := by
      intro d hd
      refine ⟨hr.numeral.isFiller.all d (List.mem_cons_of_mem _ hd), ?_⟩
      rintro rfl
      rcases List.mem_append.1 hd with hd | hd
      · cases List.all_eq_true.1 hword _ hd
      · cases List.mem_singleton.1 hd
    have hnext := (h.text hstep).word hword'
    rw [List.getLastD_concat] at hnext
    rw [hshown, List.reverse_cons, List.append_assoc]
    exact hnext

theorem Denotes.shown_ne_nil {r : List Char} {c : Char} (h : Denotes r c) : shown r c ≠ [] := by
  rcases h.entity?_cases with ⟨hshown, _⟩ | ⟨hshown, _⟩
  · rw [hshown]
    exact List.cons_ne_nil _ _
  · rw [hshown]
    obtain ⟨_, rfl, _⟩ := h.numeral.isFiller
    exact List.cons_ne_nil _ _

/-- Only a reference to a space that is read ends with one. -/
theorem Denotes.eq_space {r : List Char} {c : Char} (h : Denotes r c) (hlast : (shown r c).getLast? = some ' ') :
    c = ' ' ∧ shown r c = [' '] := by
  rcases h.entity?_cases with ⟨hshown, _⟩ | ⟨hshown, _⟩
  · rw [hshown] at hlast ⊢
    rw [List.getLast?_singleton, Option.some.injEq] at hlast
    exact ⟨hlast, by rw [hlast]⟩
  · rw [hshown] at hlast
    obtain ⟨word, rfl, _⟩ := h.numeral.isFiller
    rw [← List.cons_append, List.getLast?_concat, Option.some.injEq] at hlast
    cases hlast

end

end MarkdownOutline.Inline
