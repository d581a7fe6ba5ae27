import MarkdownOutline.Proofs.Text.Loose
import MarkdownOutline.Text.Escape

namespace MarkdownOutline.Text

def writeName (name : List Char) : List Char := '&' :: (name ++ [';'])

namespace CharRef

/-- The semicolon ends the name, whatever stands behind it. -/
theorem reference?_closed {name : List Char} (hname : name.all isNameChar = true) (hne : name ≠ [])
    (hsize : name.length ≤ maxNameLength) (rest : List Char) :
    reference? (name ++ ';' :: rest) = some (.word (name ++ [';']), name.length + 1) := by
  have hhead : (name ++ ';' :: rest).head? ≠ some '#' := by
    cases name with
    | nil => exact absurd rfl hne
    | cons c name =>
        rintro ⟨⟩
        cases hname
  have hread : ((name ++ ';' :: rest).take maxNameLength).takeWhile isNameChar = name := by
    rw [List.take_append, List.take_of_length_le hsize, List.takeWhile_append_of_pos (List.all_eq_true.1 hname)]
    cases maxNameLength - name.length with
    | zero => simp
    | succ n => simp [isNameChar]
  have htaken : (name ++ ';' :: rest).take (name.length + 1) = name ++ [';'] := List.take_length_add_append 1
  rw [reference?_word hhead]
  simp only [hread, List.drop_left, semicolon, htaken, if_pos (List.length_pos_iff.2 hne)]

theorem decode_writeName {name : List Char} (hname : name.all isNameChar = true) (hne : name ≠ [])
    (hsize : name.length ≤ maxNameLength) {rest text : List Char} (h : decode rest = .ok text) :
    decode (writeName name ++ rest) = .ok (ofWord (name ++ [';']) ++ text) := by
  have hdrop : (name ++ ';' :: rest).drop (name.length + 1) = rest := List.drop_length_add_append 1
  have hread := reference?_closed hname hne hsize rest
  rw [writeName, List.cons_append, List.append_assoc, List.singleton_append, decode, if_pos rfl, hread]
  simp only [Reference.decode, hdrop, h]
  rfl

theorem decode_cons {c : Char} (hc : c ≠ '&') {cs text : List Char} (h : decode cs = .ok text) :
    decode (c :: cs) = .ok (c :: text) := by
  rw [decode, if_neg hc, h]
  rfl

end CharRef

def references : List (Char × List Char) :=
  [('&', "amp".toList), ('<', "lt".toList), ('>', "gt".toList), ('"', "quot".toList)]

theorem escapeChar_of_mem {r : Char × List Char} (h : r ∈ references) : escapeChar r.1 = writeName r.2 := by
  revert r
  decide

theorem escapeChar_of_not_mem {c : Char} (h : c ∉ references.map Prod.fst) : escapeChar c = [c] := by
  unfold escapeChar
  split <;> simp_all [references]

theorem decode_writeName_of_mem {r : Char × List Char} (h : r ∈ references) {rest text : List Char}
    (hrest : CharRef.decode rest = .ok text) : CharRef.decode (writeName r.2 ++ rest) = .ok (r.1 :: text) := by
  have hname : ∀ r ∈ references, r.2.all CharRef.isNameChar = true ∧ r.2 ≠ [] ∧
      r.2.length ≤ CharRef.maxNameLength ∧ CharRef.ofWord (r.2 ++ [';']) = [r.1] := by decide +kernel
  obtain ⟨hname, hne, hsize, hword⟩ := hname r h
  rw [CharRef.decode_writeName hname hne hsize hrest, hword, List.singleton_append]

/-- What escaping leaves: no mark of the markup stands bare, and no ampersand without its name. -/
structure IsEscaped (cs : List Char) : Prop where
  marks : ∀ c ∈ cs, c ≠ '<' ∧ c ≠ '>' ∧ c ≠ '"'
  ampersands : ∀ rest, '&' :: rest <:+ cs → ∃ r ∈ references, writeName r.2 <+: '&' :: rest

theorem escapeChars_cons (c : Char) (cs : List Char) : escapeChars (c :: cs) = escapeChar c ++ escapeChars cs :=
  List.flatMap_cons

theorem decode_escapeChars (cs : List Char) : CharRef.decode (escapeChars cs) = .ok cs := by
  induction cs with
  | nil => rw [escapeChars_nil, CharRef.decode]
  | cons c cs ih =>
      rw [escapeChars_cons]
      by_cases hc : c ∈ references.map Prod.fst
      · obtain ⟨r, hr, rfl⟩ := List.mem_map.1 hc
        rw [escapeChar_of_mem hr]
        exact decode_writeName_of_mem hr ih
      · rw [escapeChar_of_not_mem hc]
        have hampersand : c ≠ '&' := by
          rintro rfl
          exact hc (by decide)
        exact CharRef.decode_cons hampersand ih

theorem escapeChars_injective : Function.Injective escapeChars := by
  intro as bs h
  have has := decode_escapeChars as
  rw [h, decode_escapeChars] at has
  exact (Except.ok.inj has).symm

theorem IsEscaped.of_suffix {cs ds : List Char} (h : IsEscaped cs) (hsuffix : ds <:+ cs) : IsEscaped ds where
  marks c hc := h.marks c (hsuffix.subset hc)
  ampersands rest hrest := h.ampersands rest (hrest.trans hsuffix)

theorem IsEscaped.cons {c : Char} (hc : c ∉ references.map Prod.fst) {cs : List Char} (h : IsEscaped cs) :
    IsEscaped (c :: cs) := by
  simp only [references, List.map_cons, List.map_nil, List.mem_cons, List.not_mem_nil, or_false, not_or] at hc
  refine ⟨List.forall_mem_cons.2 ⟨hc.2, h.marks⟩, fun rest hrest => ?_⟩
  rcases List.suffix_cons_iff.1 hrest with heq | hrest
  · exact absurd (List.cons.inj heq).1.symm hc.1
  · exact h.ampersands rest hrest

theorem IsEscaped.append {front : List Char} (hfront : ∀ c ∈ front, c ∉ references.map Prod.fst) {cs : List Char}
    (h : IsEscaped cs) : IsEscaped (front ++ cs) := by
  induction front with
  | nil => exact h
  | cons c front ih =>
      obtain ⟨hc, hfront⟩ := List.forall_mem_cons.1 hfront
      exact (ih hfront).cons hc

theorem IsEscaped.writeName {r : Char × List Char} (hr : r ∈ references) {cs : List Char} (h : IsEscaped cs) :
    IsEscaped (writeName r.2 ++ cs) := by
  have hplain : ∀ r ∈ references, (r.2 ++ [';']).all (fun c => !(references.map Prod.fst).contains c) = true := by
    decide
  have hname : IsEscaped (r.2 ++ [';'] ++ cs) := h.append fun c hc => by
    simpa using List.all_eq_true.1 (hplain r hr) c hc
  refine ⟨List.forall_mem_cons.2 ⟨by decide, hname.marks⟩, fun rest hrest => ?_⟩
  rcases List.suffix_cons_iff.1 hrest with heq | hrest
  · exact ⟨r, hr, heq ▸ List.prefix_append _ _⟩
  · exact hname.ampersands rest hrest

theorem isEscaped_escapeChars (cs : List Char) : IsEscaped (escapeChars cs) := by
  induction cs with
  | nil => exact ⟨List.forall_mem_nil _, fun rest hrest => absurd (List.suffix_nil.1 hrest) (List.cons_ne_nil _ _)⟩
  | cons c cs ih =>
      rw [escapeChars_cons]
      by_cases hc : c ∈ references.map Prod.fst
      · obtain ⟨r, hr, rfl⟩ := List.mem_map.1 hc
        rw [escapeChar_of_mem hr]
        exact ih.writeName hr
      · rw [escapeChar_of_not_mem hc]
        exact ih.cons hc

theorem IsEscaped.exists_cons {c : Char} {cs : List Char} (h : IsEscaped (c :: cs)) :
    ∃ d rest, c :: cs = escapeChar d ++ rest ∧ IsEscaped rest ∧ rest.length ≤ cs.length := by
  by_cases hc : c ∈ references.map Prod.fst
  · obtain ⟨hless, hgreater, hquote⟩ := h.marks c List.mem_cons_self
    obtain rfl : c = '&' := by simpa [references, hless, hgreater, hquote] using hc
    obtain ⟨r, hr, rest, hrest⟩ := h.ampersands cs (List.suffix_refl _)
    refine ⟨r.1, rest, ?_, h.of_suffix ⟨_, hrest⟩, ?_⟩
    · rw [escapeChar_of_mem hr, hrest]
    · have hlength := congrArg List.length hrest
      simp only [Text.writeName, List.length_append, List.length_cons] at hlength
      omega
  · refine ⟨c, cs, ?_, h.of_suffix (List.suffix_cons c cs), Nat.le_refl _⟩
    rw [escapeChar_of_not_mem hc, List.singleton_append]

theorem exists_escapeChars {cs : List Char} (h : IsEscaped cs) : ∃ text, escapeChars text = cs := by
  induction hsize : cs.length using Nat.strongRecOn generalizing cs with
  | ind size ih =>
      cases cs with
      | nil => exact ⟨[], rfl⟩
      | cons c cs =>
          obtain ⟨d, rest, heq, hrest, hle⟩ := h.exists_cons
          rw [List.length_cons] at hsize
          obtain ⟨text, htext⟩ := ih rest.length (by omega) hrest rfl
          exact ⟨d :: text, by rw [escapeChars_cons, htext, heq]⟩

def replaceChar (old : Char) (new cs : List Char) : List Char := cs.flatMap fun c => if c = old then new else [c]

/-- The ampersand comes first, since the other references bring ampersands of their own. -/
theorem escapeChars_eq_foldl (cs : List Char) :
    escapeChars cs = references.foldl (fun text r => replaceChar r.1 (writeName r.2) text) cs := by
  simp only [references, List.foldl_cons, List.foldl_nil, replaceChar, List.flatMap_assoc, escapeChars]
  refine congrArg (List.flatMap · cs) (funext fun c => ?_)
  by_cases hc : c ∈ references.map Prod.fst
  · obtain ⟨r, hr, rfl⟩ := List.mem_map.1 hc
    revert r
    decide
  · rw [escapeChar_of_not_mem hc]
    simp only [references, List.map_cons, List.map_nil, List.mem_cons, List.not_mem_nil, or_false, not_or] at hc
    simp [hc]

/-- Escaping replaces four characters one after the other, and decoding undoes it, so no two texts become the
same. What escaping leaves are the texts without marks of the markup whose ampersands all begin one of the four
references. -/
theorem escaping_invertible :
    (∀ text, (escapeHtml text).toList =
      references.foldl (fun cs r => replaceChar r.1 (writeName r.2) cs) text.toList) ∧
    (∀ text, CharRef.decode (escapeHtml text).toList = .ok text.toList) ∧
    Function.Injective escapeHtml ∧
    ∀ cs, IsEscaped cs ↔ ∃ text, (escapeHtml text).toList = cs := by
  have hchars (text : String) : (escapeHtml text).toList = escapeChars text.toList := String.toList_ofList
  refine ⟨fun text => ?_, fun text => ?_, fun as bs h => ?_, fun cs => ⟨fun h => ?_, ?_⟩⟩
  · rw [hchars, escapeChars_eq_foldl]
  · rw [hchars, decode_escapeChars]
  · exact String.toList_injective (escapeChars_injective (String.ofList_injective h))
  · obtain ⟨text, rfl⟩ := exists_escapeChars h
    exact ⟨.ofList text, by rw [hchars, String.toList_ofList]⟩
  · rintro ⟨text, rfl⟩
    rw [hchars]
    exact isEscaped_escapeChars _

end MarkdownOutline.Text
