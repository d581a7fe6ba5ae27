import MarkdownOutline.Text.CharRef

namespace MarkdownOutline.Text.CharRef

def isName (cs : List Char) : Bool :=
  match cs with
  | c :: rest =>
    let word := rest.takeWhile Char.isAlphanum
    let close := rest.drop word.length
    c.isAlpha && 1 ≤ word.length && word.length ≤ 31 && (close.isEmpty || close == [';'])
  | [] => false

theorem exists_of_isName {cs : List Char} (h : isName cs = true) :
    ∃ c word close, cs = c :: word ++ close ∧ c.isAlpha = true ∧ word.all Char.isAlphanum = true ∧
      1 ≤ word.length ∧ word.length ≤ 31 ∧ (close = [] ∨ close = [';']) := by
  cases cs with
  | nil => cases h
  | cons c rest =>
      simp only [isName, Bool.and_eq_true, Bool.or_eq_true, decide_eq_true_eq,
        List.isEmpty_iff, beq_iff_eq] at h
      obtain ⟨⟨⟨hc, hmin⟩, hmax⟩, hclose⟩ := h
      have hsplit := List.prefix_iff_eq_append.1 (List.takeWhile_prefix (l := rest) Char.isAlphanum)
      exact ⟨c, _, _, by rw [List.cons_append, hsplit], hc, List.all_takeWhile, hmin, hmax, hclose⟩

def bytes (s : String) : List UInt8 := s.toByteArray.data.toList

theorem bytes_ofList (cs : List Char) :
    bytes (String.ofList cs) = cs.flatMap String.utf8EncodeChar := by
  rw [bytes, String.toByteArray_ofList, List.utf8Encode, List.data_toByteArray]

theorem utf8EncodeChar_of_lt {c : Char} (h : ∀ b ∈ String.utf8EncodeChar c, b < 0x80) :
    (String.utf8EncodeChar c).map (fun b => Char.ofNat b.toNat) = [c] := by
  by_cases hsize : c.val.toNat ≤ 127
  · have hvalue : (UInt8.ofNat c.val.toNat).toNat = c.toNat := by
      rw [UInt8.toNat_ofNat']
      exact Nat.mod_eq_of_lt (by omega)
    simp only [String.utf8EncodeChar, if_pos hsize, List.map_cons, List.map_nil, hvalue,
      Char.ofNat_toNat]
  · simp only [String.utf8EncodeChar, if_neg hsize] at h
    -- A first byte of several has its highest bit set.
    split at h
    all_goals try split at h
    all_goals
      have := h _ List.mem_cons_self
      rw [UInt8.lt_iff_toNat_lt, UInt8.toNat_ofNat'] at this
      simp only [UInt8.reduceToNat] at this
      omega

theorem bytes_ofList_of_lt {cs : List Char} (h : ∀ b ∈ bytes (String.ofList cs), b < 0x80) :
    (bytes (String.ofList cs)).map (fun b => Char.ofNat b.toNat) = cs := by
  rw [bytes_ofList] at h ⊢
  induction cs with
  | nil => rfl
  | cons c cs ih =>
      simp only [List.flatMap_cons, List.mem_append] at h
      rw [List.flatMap_cons, List.map_append, utf8EncodeChar_of_lt fun b hb => h b (.inl hb),
        ih fun b hb => h b (.inr hb), List.singleton_append]

theorem ampersand_not_mem_of_bytes {cs : List Char} (h : 0x26 ∉ bytes (String.ofList cs)) :
    '&' ∉ cs := by
  rw [bytes_ofList] at h
  exact fun hmem => h (List.mem_flatMap.2 ⟨'&', hmem, by decide⟩)

/-- Told of the bytes and not of the characters, which take far longer to be computed. -/
def isEntry (entry : String × String) : Bool :=
  let name := bytes entry.1
  name.all (· < 0x80) && isName (name.map fun b => Char.ofNat b.toNat) &&
    (entry.2 == "&" || !(bytes entry.2).contains 0x26)

theorem all_namesFrom (c : Char) : (namesFrom c).all isEntry = true := by
  unfold namesFrom
  split <;> decide +kernel

theorem lookup_cases {name text : List Char} (h : lookup name = some text) :
    isName name = true ∧ (text = ['&'] ∨ '&' ∉ text) := by
  cases name with
  | nil => cases h
  | cons c rest =>
      obtain ⟨value, hvalue, rfl⟩ := Option.map_eq_some_iff.1 h
      obtain ⟨before, after, hnames, _⟩ := List.lookup_eq_some_iff.1 hvalue
      have hentry := List.all_eq_true.1 (all_namesFrom c) (String.ofList (c :: rest), value)
        (by rw [hnames]; simp)
      simp only [isEntry, Bool.and_eq_true, List.all_eq_true, decide_eq_true_eq, Bool.or_eq_true,
        beq_iff_eq, Bool.not_eq_true', List.contains_eq_mem, decide_eq_false_iff_not] at hentry
      obtain ⟨⟨hbytes, hname⟩, hvalue⟩ := hentry
      refine ⟨by rwa [bytes_ofList_of_lt hbytes] at hname, hvalue.imp ?_ fun h => ?_⟩
      · rintro rfl
        rfl
      · exact ampersand_not_mem_of_bytes (by rwa [String.ofList_toList])

end MarkdownOutline.Text.CharRef
