import MarkdownOutline.Text.CharRef
import MarkdownOutline.Text.Escape

namespace MarkdownOutline.Text.CharRef

/-- A text has fewer ampersands than another, or as many and takes less room once encoded. -/
def Lighter (as bs : List Char) : Prop :=
  as.count '&' < bs.count '&' ∨
    as.count '&' = bs.count '&' ∧ (percentEncode as).length < (percentEncode bs).length

def LightensIf (loose : Prop) (read : Except NumeralTooLong (List Char)) (cs : List Char) : Prop :=
  (¬loose ∧ read = .ok cs) ∨ (loose ∧ ∀ text, read = .ok text → Lighter text cs)

theorem exists_of_append {read more : Except NumeralTooLong (List Char)} {text : List Char}
    (h : (do let front ← read; return front ++ (← more)) = .ok text) :
    ∃ front back, read = .ok front ∧ more = .ok back ∧ text = front ++ back := by
  cases read with
  | error e => cases h
  | ok front =>
      cases more with
      | error e => cases h
      | ok back => exact ⟨front, back, rfl, rfl, (Except.ok.inj h).symm⟩

theorem LightensIf.append {p q : Prop} {read more : Except NumeralTooLong (List Char)}
    {as bs : List Char} (h : LightensIf p read as) (h' : LightensIf q more bs) :
    LightensIf (p ∨ q) (do let text ← read; return text ++ (← more)) (as ++ bs) := by
  rcases h with ⟨hp, rfl⟩ | ⟨hp, hlight⟩ <;> rcases h' with ⟨hq, rfl⟩ | ⟨hq, hlight'⟩
  · exact .inl ⟨not_or.2 ⟨hp, hq⟩, rfl⟩
  all_goals
    refine .inr ⟨by simp [hp, hq], fun text htext => ?_⟩
    obtain ⟨front, back, hfront, hback, rfl⟩ := exists_of_append htext
  · obtain rfl := Except.ok.inj hfront
    have := hlight' back hback
    simp only [Lighter, List.count_append, percentEncode_append, List.length_append] at this ⊢
    omega
  · obtain rfl := Except.ok.inj hback
    have := hlight front hfront
    simp only [Lighter, List.count_append, percentEncode_append, List.length_append] at this ⊢
    omega
  · have := hlight front hfront
    have := hlight' back hback
    simp only [Lighter, List.count_append, percentEncode_append, List.length_append] at *
    omega

theorem LightensIf.cons {q : Prop} {more : Except NumeralTooLong (List Char)} {bs : List Char}
    (h : LightensIf q more bs) (c : Char) :
    LightensIf q (do return c :: (← more)) (c :: bs) := by
  have hself : LightensIf False (.ok [c]) [c] := .inl ⟨id, rfl⟩
  have hboth := hself.append h
  rw [false_or] at hboth
  exact hboth

theorem length_percentChar_pos (c : Char) : 0 < (percentChar c).length := by
  unfold percentChar
  split
  · simp
  · obtain ⟨b, bs, hbytes⟩ := List.exists_cons_of_ne_nil (String.utf8EncodeChar_ne_nil (c := c))
    simp [hbytes, percentByte]

theorem length_percentEncode_pos {cs : List Char} (h : 0 < cs.length) :
    0 < (percentEncode cs).length := by
  cases cs with
  | nil => cases h
  | cons c cs =>
      rw [percentEncode, List.flatMap_cons, List.length_append]
      exact Nat.add_pos_left (length_percentChar_pos c) _

theorem upperHexDigit_ne {n : Nat} (h : n < 16) : upperHexDigit n ≠ '&' := by
  revert n
  decide

theorem ampersand_not_mem_percentChar {c : Char} (h : c ≠ '&') : '&' ∉ percentChar c := by
  unfold percentChar
  split
  · simpa using Ne.symm h
  · simp only [List.mem_flatMap, percentByte, List.mem_cons, List.not_mem_nil, or_false, not_exists,
      not_and, not_or]
    intro b _
    have := b.toNat_lt
    exact ⟨by decide, (upperHexDigit_ne (by omega)).symm, (upperHexDigit_ne (by omega)).symm⟩

theorem count_percentEncode (cs : List Char) : (percentEncode cs).count '&' = cs.count '&' := by
  induction cs with
  | nil => rfl
  | cons c cs ih =>
      rw [← List.singleton_append, percentEncode_append, List.count_append, ih, List.count_append]
      by_cases hc : c = '&'
      · subst hc
        rfl
      · have := List.count_eq_zero.2 (ampersand_not_mem_percentChar hc)
        simpa [percentEncode, hc] using this

theorem Lighter.percentEncode_ne {as bs : List Char} (h : Lighter as bs) :
    percentEncode as ≠ percentEncode bs := by
  intro heq
  have hcount := congrArg (List.count '&') heq
  rw [count_percentEncode, count_percentEncode] at hcount
  rcases h with h | ⟨_, h⟩
  · omega
  · rw [heq] at h
    omega

/-- At least one character behind an ampersand goes, and the ampersand with it unless one is what
is denoted. -/
theorem lighter_replaced {text word : List Char} {k : Nat} (htext : text = ['&'] ∨ '&' ∉ text)
    (hword : '&' ∉ word) (hk : 0 < k) (hle : k ≤ word.length) :
    Lighter (text ++ word.drop k) ('&' :: word) := by
  have hrest : (word.drop k).count '&' = 0 :=
    List.count_eq_zero.2 fun h => hword (List.mem_of_mem_drop h)
  have hcount : word.count '&' = 0 := List.count_eq_zero.2 hword
  rcases htext with rfl | htext
  · have hsize : 0 < (percentEncode (word.take k)).length :=
      length_percentEncode_pos (by rw [List.length_take]; omega)
    refine .inr ⟨by simp [hrest, hcount], ?_⟩
    calc (percentEncode (['&'] ++ word.drop k)).length
        < (percentEncode (['&'] ++ (word.take k ++ word.drop k))).length := by
          simp only [percentEncode_append, List.length_append]
          omega
      _ = (percentEncode ('&' :: word)).length := by rw [List.take_append_drop]; rfl
  · refine .inl ?_
    rw [List.count_append, List.count_eq_zero.2 htext, hrest, List.count_cons_self]
    omega

end MarkdownOutline.Text.CharRef
