import MarkdownOutline.Inline.Read
import MarkdownOutline.Proofs.Text.Lighter
import MarkdownOutline.Proofs.Text.Names
import MarkdownOutline.Proofs.Text.Reference

namespace MarkdownOutline.Text.CharRef

def HasWhole : List Char → Prop := Behind fun rest => (Inline.entity? rest).isSome = true

instance : DecidablePred HasWhole := fun cs => inferInstanceAs (Decidable (Behind _ cs))

def IsBareName (name : List Char) : Prop := ';' ∉ name ∧ (lookup name).isSome = true

/-- The beginning of a number, or a bare name. Nothing is asked of what follows. -/
inductive StartsLoose : List Char → Prop
  | decimal {d : Char} (hdigit : isDecimal d = true) (rest : List Char) : StartsLoose ('#' :: d :: rest)
  | hex {x d : Char} (hx : x = 'x' ∨ x = 'X') (hdigit : isHex d = true) (rest : List Char) :
      StartsLoose ('#' :: x :: d :: rest)
  | bare {name : List Char} (hname : IsBareName name) (rest : List Char) : StartsLoose (name ++ rest)

def HasLoose : List Char → Prop := Behind StartsLoose

theorem hasWhole_cons (c : Char) (cs : List Char) :
    HasWhole (c :: cs) ↔ (c = '&' ∧ (Inline.entity? cs).isSome = true) ∨ HasWhole cs :=
  behind_cons c cs

theorem hasLoose_cons (c : Char) (cs : List Char) :
    HasLoose (c :: cs) ↔ (c = '&' ∧ StartsLoose cs) ∨ HasLoose cs :=
  behind_cons c cs

theorem isNameChar_of_isAlphanum {c : Char} (h : c.isAlphanum = true) : isNameChar c = true := by
  cases hc : isNameChar c with
  | true => rfl
  | false =>
      simp only [isNameChar, Bool.not_eq_false', Bool.or_eq_true, decide_eq_true_eq] at hc
      rcases hc with ((((((rfl | rfl) | rfl) | rfl) | rfl) | rfl) | rfl) | rfl <;>
        exact absurd h (by decide)

theorem semicolon_not_mem {cs : List Char} (h : cs.all Char.isAlphanum = true) : ';' ∉ cs :=
  fun hmem => absurd (List.all_eq_true.1 h _ hmem) (by decide)

theorem IsBareName.shape {name : List Char} (h : IsBareName name) :
    name.all Char.isAlphanum = true ∧ 0 < name.length ∧ name.length ≤ maxNameLength := by
  obtain ⟨hsemicolon, hlookup⟩ := h
  obtain ⟨text, htext⟩ := Option.isSome_iff_exists.1 hlookup
  obtain ⟨c, word, close, rfl, hc, hword, _, hsize, hclose⟩ := exists_of_isName (lookup_cases htext).1
  rcases hclose with rfl | rfl
  · simp only [List.append_nil, List.all_cons, List.length_cons, maxNameLength, hword,
      Char.isAlphanum, hc]
    simp; omega
  · simp at hsemicolon

theorem entity?_of_lookup {name text : List Char} (h : lookup (name ++ [';']) = some text)
    (rest : List Char) : (Inline.entity? (name ++ ';' :: rest)).isSome = true := by
  obtain ⟨c, word, close, hsplit, hc, hword, hmin, hmax, hclose⟩ := exists_of_isName (lookup_cases h).1
  obtain rfl : name = c :: word := by
    rcases hclose with rfl | rfl
    · have hmem : ';' ∈ c :: word := by
        rw [List.append_nil] at hsplit
        rw [← hsplit]
        simp
      exact absurd hmem (semicolon_not_mem (by simp [hword, Char.isAlphanum, hc]))
    · exact (List.append_inj' hsplit rfl).1
  have htake : (word ++ ';' :: rest).takeWhile Char.isAlphanum = word := by
    rw [List.takeWhile_append_of_pos (List.all_eq_true.1 hword), List.takeWhile_cons_of_neg (by decide), List.append_nil]
  have hmark : c ≠ '#' := by
    rintro rfl
    cases hc
  rw [List.cons_append, Inline.entity?.eq_def]
  split
  · cases ‹_ = '#' :: _›
    exact absurd rfl hmark
  · obtain ⟨rfl, rfl⟩ := List.cons.inj ‹_›
    simp [Inline.endsAt, htake, hc, hmin, hmax]
  · cases ‹_ = []›

theorem ofLongestName_cases (word : List Char) (size : Nat) :
    (∃ k text, 2 ≤ k ∧ k ≤ size ∧ lookup (word.take k) = some text ∧
      ofLongestName word size = some (text ++ word.drop k)) ∨
    (ofLongestName word size = none ∧ ∀ k, 2 ≤ k → k ≤ size → lookup (word.take k) = none) := by
  fun_induction ofLongestName word size with
  | case1 => exact .inr ⟨rfl, fun k hmin hmax => by omega⟩
  | case2 => exact .inr ⟨rfl, fun k hmin hmax => by omega⟩
  | case3 size hsize text htext => 
      exact .inl ⟨size + 1, text, Nat.succ_le_succ (Nat.pos_of_ne_zero hsize), Nat.le_refl _, htext, rfl⟩
  | case4 size hsize hnone ih =>
      rcases ih with ⟨k, text, hmin, hmax, hother⟩ | ⟨hread, hshorter⟩
      · exact .inl ⟨k, text, hmin, by omega, hother⟩
      · refine .inr ⟨hread, fun k hmin hmax => ?_⟩
        rcases Nat.lt_or_ge size k with h | h
        · obtain rfl : k = size + 1 := by omega
          exact hnone
        · exact hshorter k hmin h

theorem two_le_of_lookup {name text : List Char} (h : lookup name = some text) : 2 ≤ name.length := by
  obtain ⟨c, word, close, rfl, _, _, hmin, _⟩ := exists_of_isName (lookup_cases h).1
  simp
  omega

/-- A word stays as it is, or it begins with a name of the table and that name is replaced. -/
theorem ofWord_cases (word : List Char) :
    (∃ k text, k ≤ word.length ∧ lookup (word.take k) = some text ∧
      ofWord word = text ++ word.drop k) ∨
    (ofWord word = '&' :: word ∧ ∀ k, lookup (word.take k) = none) := by
  rw [ofWord.eq_def]
  cases hlookup : lookup word with
  | some text => exact .inl ⟨word.length, text, Nat.le_refl _, by rwa [List.take_length], by simp⟩
  | none =>
      rcases ofLongestName_cases word (word.length - 1) with
        ⟨k, text, _, hmax, htext, hread⟩ | ⟨hread, hshorter⟩
      · exact .inl ⟨k, text, by omega, htext, by rw [hread]; rfl⟩
      · refine .inr ⟨by rw [hread]; rfl, fun k => ?_⟩
        cases hk : lookup (word.take k) with
        | none => rfl
        | some text =>
            have hmin := two_le_of_lookup hk
            rw [List.length_take] at hmin
            rcases Nat.lt_or_ge k word.length with h | h
            · rw [hshorter k (by omega) (by omega)] at hk
              cases hk
            · rw [List.take_of_length_le h, hlookup] at hk
              cases hk

theorem length_ofNumber_le (n : Nat) : (ofNumber n).length ≤ 1 := by
  unfold ofNumber
  split
  · exact Nat.le_refl _
  · split
    · exact Nat.le_refl _
    · split <;> simp

theorem ofNumber_cases (n : Nat) : ofNumber n = ['&'] ∨ '&' ∉ ofNumber n := by
  have hsize := length_ofNumber_le n
  match ofNumber n, hsize with
  | [], _ => exact .inr (by simp)
  | [c], _ =>
      by_cases hc : c = '&'
      · exact .inl (by rw [hc])
      · exact .inr (by simpa using Ne.symm hc)

theorem lighter_ofNumber (n : Nat) {word : List Char} (hword : '&' ∉ word) (hsize : 0 < word.length) :
    Lighter (ofNumber n) ('&' :: word) := by
  simpa using lighter_replaced (ofNumber_cases n) hword hsize (Nat.le_refl _)

/-- The word behind an ampersand ends in front of a mark, or behind a semicolon. -/
theorem reference?_word {cs : List Char} (hhead : cs.head? ≠ some '#') :
    let name := (cs.take maxNameLength).takeWhile isNameChar
    reference? cs = if 0 < name.length then
      some (.word (cs.take (name.length + semicolon (cs.drop name.length))),
        name.length + semicolon (cs.drop name.length)) else none := by
  unfold reference?
  split
  · exact absurd rfl hhead
  · rfl

theorem IsBareName.prefix_word {name cs : List Char} (h : IsBareName name) (hfirst : name <+: cs) :
    name <+: (cs.take maxNameLength).takeWhile isNameChar := by
  obtain ⟨rest, rfl⟩ := hfirst
  obtain ⟨hword, _, hmax⟩ := h.shape
  rw [List.take_append, List.take_of_length_le hmax, List.takeWhile_append_of_pos fun c hc =>
    isNameChar_of_isAlphanum (List.all_eq_true.1 hword c hc)]
  exact List.prefix_append _ _

theorem IsBareName.head?_ne {name : List Char} (h : IsBareName name) (rest : List Char) :
    (name ++ rest).head? ≠ some '#' := by
  obtain ⟨hword, hsize, _⟩ := h.shape
  cases name with
  | nil => cases hsize
  | cons c name =>
      rintro ⟨⟩
      exact absurd hword (by simp)

theorem exists_of_startsLoose {cs : List Char} (h : StartsLoose cs) (hhead : cs.head? ≠ some '#') :
    ∃ name, IsBareName name ∧ name <+: cs := by
  cases h with
  | decimal | hex => exact absurd rfl hhead
  | bare hname rest => exact ⟨_, hname, List.prefix_append _ _⟩

theorem exists_of_takeWhile {p : Char → Bool} {cs : List Char} (h : 0 < (cs.takeWhile p).length) :
    ∃ d rest, cs = d :: rest ∧ p d = true := by
  cases cs with
  | nil => cases h
  | cons d rest =>
      refine ⟨d, rest, rfl, ?_⟩
      cases hd : p d with
      | true => rfl
      | false => simp [hd] at h

theorem not_startsLoose_of_none {cs : List Char} (h : reference? cs = none) : ¬StartsLoose cs := by
  intro hloose
  cases hloose with
  | decimal hdigit rest => simp [reference?, hdigit] at h
  | hex hx hdigit rest =>
      simp only [reference?, List.takeWhile_cons, hdigit] at h
      rcases hx with rfl | rfl <;> simp [isDecimal] at h
  | @bare name hname rest =>
      rw [reference?_word (hname.head?_ne rest)] at h
      have hle := (hname.prefix_word (List.prefix_append name rest)).length_le
      have := hname.shape.2.1
      simp only [ite_eq_right_iff, reduceCtorEq, imp_false] at h
      omega

theorem number_of_hash {rest : List Char} {reference : Reference} {taken : Nat}
    (h : reference? ('#' :: rest) = some (reference, taken)) :
    StartsLoose ('#' :: rest) ∧ 0 < taken ∧ ∀ text, reference.decode = .ok text → ∃ n, text = ofNumber n := by
  simp only [reference?] at h
  split at h
  · next hsize =>
      obtain ⟨d, rest, rfl, hd⟩ := exists_of_takeWhile hsize
      obtain ⟨rfl, rfl⟩ := Prod.mk.inj (Option.some.inj h)
      refine ⟨.decimal hd rest, by omega, fun text htext => ?_⟩
      simp only [Reference.decode] at htext
      split at htext
      · cases htext
      · exact ⟨_, (Except.ok.inj htext).symm⟩
  · cases rest with
    | nil => cases h
    | cons x rest =>
        simp only [Option.ite_none_right_eq_some, Bool.and_eq_true, Bool.or_eq_true,
          decide_eq_true_eq, Option.some.injEq, Prod.mk.injEq] at h
        obtain ⟨⟨hx, hsize⟩, rfl, rfl⟩ := h
        obtain ⟨d, rest, rfl, hd⟩ := exists_of_takeWhile hsize
        exact ⟨.hex hx hd rest, by omega, fun text htext => ⟨_, (Except.ok.inj htext).symm⟩⟩

/-- Without a whole reference at the place, a word stays as it is or begins with a bare name. -/
theorem word_of_not_whole {cs : List Char} (hhead : cs.head? ≠ some '#')
    (hwhole : Inline.entity? cs = none) {reference : Reference} {taken : Nat}
    (h : reference? cs = some (reference, taken)) :
    ∃ text, reference.decode = .ok text ∧
      LightensIf (StartsLoose cs) (.ok text) ('&' :: cs.take taken) := by
  have hampersand := (reference?_of_some h).1
  rw [reference?_word hhead] at h
  simp only [Option.ite_none_right_eq_some, Option.some.injEq, Prod.mk.injEq] at h
  obtain ⟨hsize, rfl, rfl⟩ := h
  have hbare : ∀ bare, IsBareName bare → bare <+: cs →
      bare <+: (cs.take maxNameLength).takeWhile isNameChar := fun _ h hfirst => h.prefix_word hfirst
  have hmark : ';' ∉ (cs.take maxNameLength).takeWhile isNameChar := fun h =>
    absurd (List.all_eq_true.1 List.all_takeWhile _ h) (by decide)
  obtain ⟨rest, hcs⟩ : (cs.take maxNameLength).takeWhile isNameChar <+: cs :=
    (List.takeWhile_prefix _).trans (List.take_prefix _ _)
  revert hsize hampersand hbare hmark hcs
  generalize (cs.take maxNameLength).takeWhile isNameChar = name
  rintro hsize hampersand hbare hmark rfl
  rw [List.drop_left, List.take_length_add_append] at hampersand ⊢
  refine ⟨_, rfl, ?_⟩
  rcases ofWord_cases (name ++ rest.take (semicolon rest)) with
    ⟨k, text, hk, htext, hread⟩ | ⟨hread, hnone⟩
  · refine .inr ⟨?_, ?_⟩
    · rcases Nat.lt_or_ge name.length k with hlong | hshort
      · -- The whole word is in the table, with the semicolon at its end.
        cases rest with
        | nil => simp at hk; omega
        | cons c tail =>
            by_cases hc : c = ';'
            · subst hc
              simp only [semicolon, List.take_succ_cons, List.take_zero] at hk htext
              rw [List.take_of_length_le (by simp; omega)] at htext
              have := entity?_of_lookup htext tail
              rw [hwhole] at this
              cases this
            · simp [semicolon, hc] at hk
              omega
      · rw [List.take_append_of_le_length hshort] at htext
        have hloose : StartsLoose (name.take k ++ (name.drop k ++ rest)) :=
          .bare ⟨fun h => hmark (List.mem_of_mem_take h), by rw [htext]; rfl⟩ _
        rwa [← List.append_assoc, List.take_append_drop] at hloose
    · have hmin := two_le_of_lookup htext
      rw [List.length_take] at hmin
      rintro _ ⟨⟩
      rw [hread]
      exact lighter_replaced (lookup_cases htext).2 hampersand (by omega) hk
  · refine .inl ⟨fun hloose => ?_, by rw [hread]⟩
    obtain ⟨bare, hname, hfirst⟩ := exists_of_startsLoose hloose hhead
    have hword : bare <+: name ++ rest.take (semicolon rest) :=
      (hbare bare hname hfirst).trans (List.prefix_append _ _)
    have := hname.2
    rw [List.prefix_iff_eq_take.1 hword, hnone] at this
    cases this

theorem decode_reference {cs : List Char} (hwhole : Inline.entity? cs = none) {reference : Reference}
    {taken : Nat} (h : reference? cs = some (reference, taken)) :
    LightensIf (StartsLoose cs) reference.decode ('&' :: cs.take taken) := by
  by_cases hhead : cs.head? = some '#'
  · obtain ⟨rest, rfl⟩ := List.head?_eq_some_iff.1 hhead
    obtain ⟨hloose, hsize, htext⟩ := number_of_hash h
    refine .inr ⟨hloose, fun text hdecode => ?_⟩
    obtain ⟨n, rfl⟩ := htext text hdecode
    exact lighter_ofNumber n (reference?_of_some h).1 (by rw [List.length_take, List.length_cons]; omega)
  · obtain ⟨text, hdecode, hlight⟩ := word_of_not_whole hhead hwhole h
    rwa [hdecode]

/-- A text without whole references is decoded to itself, unless a loose one makes it lighter. -/
theorem decode_of_not_hasWhole {cs : List Char} (h : ¬HasWhole cs) :
    LightensIf (HasLoose cs) (decode cs) cs := by
  fun_induction decode cs with
  | case1 => exact .inl ⟨not_behind_nil, rfl⟩
  | case2 rest reference taken hread ih =>
      have hampersand := (reference?_of_some hread).1
      rw [hasWhole_cons, not_or, HasWhole, ← behind_drop hampersand] at h
      have hwhole : Inline.entity? rest = none := by simpa using h.1
      have hlight := (decode_reference hwhole hread).append (ih h.2)
      rw [List.cons_append, List.take_append_drop, HasLoose, behind_drop hampersand] at hlight
      rw [hasLoose_cons, HasLoose]
      simpa only [true_and] using hlight
  | case3 rest hread ih =>
      rw [hasWhole_cons, not_or] at h
      simpa [hasLoose_cons, not_startsLoose_of_none hread] using (ih h.2).cons '&'
  | case4 c rest hc ih =>
      rw [hasWhole_cons, not_or] at h
      simpa [hasLoose_cons, hc] using (ih h.2).cons c

end MarkdownOutline.Text.CharRef
