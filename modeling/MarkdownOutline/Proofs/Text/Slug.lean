import Mathlib.Data.List.Infix
import MarkdownOutline.Proofs.Text.Case
import MarkdownOutline.Proofs.Text.Escape

namespace MarkdownOutline.Text

namespace Ranges

def apart (as bs : Ranges) : Bool := as.all fun a => bs.all fun b => Nat.blt a.2 b.1 || Nat.blt b.2 a.1

theorem not_contains_of_apart {as bs : Ranges} (h : as.apart bs = true) {c : Char} (hc : as.contains c = true) :
    bs.contains c = false := by
  rw [Bool.eq_false_iff, ne_eq, contains_iff]
  rintro ⟨b, hb, hlow, hhigh⟩
  obtain ⟨a, ha, hfirst, hlast⟩ := (contains_iff as c).1 hc
  have hapart := List.all_eq_true.1 (List.all_eq_true.1 h a ha) b hb
  simp only [Bool.or_eq_true, Nat.blt_eq] at hapart
  omega

end Ranges

theorem isBlank_of_isWord {c : Char} (h : isWord c = true) : isBlank c = false :=
  Ranges.not_contains_of_apart (by decide +kernel) h

namespace Slug

theorem isGap_of_isWord {c : Char} (h : isWord c = true) : isGap c = false := by
  have hhyphen : c ≠ '-' := by
    rintro rfl
    revert h
    decide +kernel
  simp [isGap, hhyphen, isBlank_of_isWord h]

def hyphenated (cs : List Char) : List Char :=
  trim ['-'].contains (replaceGaps (fun _ => ['-']) ((trim isBlank (lower cs)).filter isKept))

variable {cs : List Char}

theorem head?_replaceGaps {fill : List Char → List Char} (h : ∀ c ∈ cs.head?, isGap c = false) :
    (replaceGaps fill cs).head? = cs.head? := by
  cases cs with
  | nil => rw [replaceGaps]
  | cons c cs => rw [replaceGaps, if_neg (by simpa using h c rfl)]; rfl

theorem mem_replaceGaps : ∀ c ∈ replaceGaps (fun _ => ['-']) cs, c = '-' ∨ c ∈ cs ∧ isGap c = false := by
  fun_induction replaceGaps (fun _ => ['-']) cs with
  | case1 => exact List.forall_mem_nil _
  | case2 c rest hgap ih =>
      refine List.forall_mem_append.2 ⟨List.forall_mem_singleton.2 (.inl rfl), fun d hd => ?_⟩
      refine (ih d hd).imp_right fun ⟨hmem, hd⟩ => ⟨?_, hd⟩
      exact List.mem_cons_of_mem c ((List.dropWhile_suffix _).subset hmem)
  | case3 c rest hgap ih =>
      refine List.forall_mem_cons.2 ⟨.inr ⟨List.mem_cons_self, by simpa using hgap⟩, fun d hd => ?_⟩
      exact (ih d hd).imp_right fun ⟨hmem, hd⟩ => ⟨List.mem_cons_of_mem c hmem, hd⟩

theorem infix_cons_iff_of_head {c : Char} (h : c = '-' → cs.head? ≠ some '-') :
    ['-', '-'] <:+: c :: cs ↔ ['-', '-'] <:+: cs := by
  rw [List.infix_cons_iff, or_iff_right]
  intro hprefix
  obtain ⟨rfl, rest, rfl⟩ := List.cons_prefix_cons.1 hprefix
  exact h rfl rfl

theorem not_infix_replaceGaps : ¬['-', '-'] <:+: replaceGaps (fun _ => ['-']) cs := by
  fun_induction replaceGaps (fun _ => ['-']) cs with
  | case1 => simp
  | case2 c rest hgap ih =>
      rw [List.singleton_append, infix_cons_iff_of_head]
      · exact ih
      · intro _ hhyphen
        have hstop : ∀ d ∈ (rest.dropWhile isGap).head?, isGap d = false := by
          intro d hd
          have hnot := List.head?_dropWhile_not isGap rest
          rwa [hd] at hnot
        rw [head?_replaceGaps hstop] at hhyphen
        cases hstop '-' hhyphen
  | case3 c rest hgap ih =>
      rw [infix_cons_iff_of_head]
      · exact ih
      · rintro rfl
        simp [isGap] at hgap

/-- Words joined by single hyphens. -/
structure IsSlug (cs : List Char) : Prop where
  chars : ∀ c ∈ cs, isWord c = true ∨ c = '-'
  first : cs.head? ≠ some '-'
  last : cs.getLast? ≠ some '-'
  single : ¬['-', '-'] <:+: cs

theorem contains_hyphen (c : Char) : ['-'].contains c = false ↔ c ≠ '-' := by simp

theorem trim_isInfix (p : Char → Bool) (cs : List Char) : trim p cs <:+: cs := by
  have hfront : trim p cs <+: trimLeft p cs := trimRight_prefix p _
  exact hfront.isInfix.trans (List.dropWhile_suffix p).isInfix

theorem mem_hyphenated {c : Char} (h : c ∈ hyphenated cs) : c = '-' ∨ isWord c = true ∧ lowerChar c = [c] := by
  refine (mem_replaceGaps c ((trim_isInfix _ _).subset h)).imp_right fun ⟨hkept, hgap⟩ => ?_
  obtain ⟨hmem, hkept⟩ := List.mem_filter.1 hkept
  refine ⟨by simpa [isKept, hgap] using hkept, ?_⟩
  exact lowerChar_of_mem_lower ((trim_isInfix _ _).subset hmem)

theorem isSlug_hyphenated (cs : List Char) : IsSlug (hyphenated cs) where
  chars _ hc := (mem_hyphenated hc).symm.imp_left And.left
  first h := (contains_hyphen '-').1 (head?_trim _ _ '-' h) rfl
  last h := (contains_hyphen '-').1 (getLast?_trimRight _ _ '-' h) rfl
  single h := not_infix_replaceGaps (h.trans (trim_isInfix _ _))

theorem lower_hyphenated (cs : List Char) : lower (hyphenated cs) = hyphenated cs := by
  refine lower_eq_self fun c hc => ?_
  rcases mem_hyphenated hc with rfl | ⟨_, hc⟩
  · decide +kernel
  · exact hc

namespace IsSlug

theorem isBlank_eq_false (h : IsSlug cs) {c : Char} (hc : c ∈ cs) : isBlank c = false := by
  rcases h.chars c hc with hword | rfl
  · exact isBlank_of_isWord hword
  · decide

theorem ampersand_not_mem (h : IsSlug cs) : '&' ∉ cs := by
  intro hmem
  rcases h.chars '&' hmem with hword | hhyphen
  · revert hword
    decide +kernel
  · cases hhyphen

theorem isKept_eq_true (h : IsSlug cs) {c : Char} (hc : c ∈ cs) : isKept c = true := by
  rcases h.chars c hc with hword | rfl
  · simp [isKept, hword]
  · decide +kernel

end IsSlug

theorem trim_eq_self {p : Char → Bool} (hfirst : ∀ c ∈ cs.head?, p c = false)
    (hlast : ∀ c ∈ cs.getLast?, p c = false) : trim p cs = cs := by
  rw [trim, trimLeft_eq_self hfirst, trimRight_eq_self hlast]

theorem replaceGaps_eq_self (hgaps : ∀ c ∈ cs, isGap c = true → c = '-') (hsingle : ¬['-', '-'] <:+: cs) :
    replaceGaps (fun _ => ['-']) cs = cs := by
  fun_induction replaceGaps (fun _ => ['-']) cs with
  | case1 => rfl
  | case2 c rest hgap ih =>
      obtain rfl := hgaps c List.mem_cons_self hgap
      have hgaps : ∀ d ∈ rest, isGap d = true → d = '-' := fun d hd => hgaps d (List.mem_cons_of_mem _ hd)
      have hdrop : rest.dropWhile isGap = rest := by
        refine trimLeft_eq_self fun d hd => ?_
        by_contra hnext
        obtain rfl := hgaps d (List.mem_of_mem_head? hd) (by simpa using hnext)
        obtain ⟨more, rfl⟩ := List.head?_eq_some_iff.1 hd
        exact hsingle (List.prefix_append ['-', '-'] more).isInfix
      rw [hdrop] at ih ⊢
      rw [ih hgaps fun h => hsingle (h.trans (List.suffix_cons _ rest).isInfix), List.singleton_append]
  | case3 c rest hgap ih =>
      rw [ih (fun d hd => hgaps d (List.mem_cons_of_mem c hd)) fun h =>
        hsingle (h.trans (List.suffix_cons c rest).isInfix)]

theorem hyphenated_eq_self (h : IsSlug cs) (hlower : lower cs = cs) : hyphenated cs = cs := by
  have hblank : trim isBlank cs = cs :=
    trim_eq_self (fun c hc => h.isBlank_eq_false (List.mem_of_mem_head? hc))
      fun c hc => h.isBlank_eq_false (List.mem_of_mem_getLast? hc)
  have hkept : cs.filter isKept = cs := List.filter_eq_self.2 fun c hc => h.isKept_eq_true hc
  have hgaps : replaceGaps (fun _ => ['-']) cs = cs := by
    refine replaceGaps_eq_self (fun c hc hgap => ?_) h.single
    rcases h.chars c hc with hword | hhyphen
    · rw [isGap_of_isWord hword] at hgap
      cases hgap
    · exact hhyphen
  have hends : trim ['-'].contains cs = cs := by
    refine trim_eq_self (fun c hc => ?_) fun c hc => ?_
    · exact (contains_hyphen c).2 fun heq => h.first (heq ▸ hc)
    · exact (contains_hyphen c).2 fun heq => h.last (heq ▸ hc)
  rw [hyphenated, hlower, hblank, hkept, hgaps, hends]

end Slug

open Slug

theorem ofChars_hyphen (cs : List Char) : ofChars "-".toList cs =
    match CharRef.decode cs with
    | .error e => .error (.numeral e)
    | .ok decoded => .ok (hyphenated decoded) := by
  cases cs with
  | nil =>
      have hnil : hyphenated [] = [] := by
        rw [hyphenated, lower, lowerFrom, trim_nil, List.filter_nil, replaceGaps, trim_nil]
      rw [CharRef.decode]
      exact congrArg Except.ok hnil.symm
  | cons c cs =>
      have hseparator : Separator.parse "-".toList = .ok [.text ['-']] := rfl
      simp only [ofChars, hseparator]
      rfl

theorem slug_eq_ok_iff {text result : String} :
    slug text = .ok result ↔
      ∃ decoded, CharRef.decode text.toList = .ok decoded ∧ hyphenated decoded = result.toList := by
  rw [slug, ofChars_hyphen]
  cases CharRef.decode text.toList with
  | error e => simp [Except.map]
  | ok decoded => simp [Except.map, String.ext_iff]

theorem decode_eq_self {cs : List Char} (h : '&' ∉ cs) : CharRef.decode cs = .ok cs := by
  induction cs with
  | nil => rw [CharRef.decode]
  | cons c cs ih =>
      rw [List.mem_cons, not_or] at h
      exact CharRef.decode_cons (Ne.symm h.1) (ih h.2)

theorem slug_eq_self_iff (text : String) :
    slug text = .ok text ↔ IsSlug text.toList ∧ lower text.toList = text.toList := by
  constructor
  · intro h
    obtain ⟨decoded, _, hresult⟩ := slug_eq_ok_iff.1 h
    rw [← hresult]
    exact ⟨isSlug_hyphenated decoded, lower_hyphenated decoded⟩
  · rintro ⟨hslug, hlower⟩
    exact slug_eq_ok_iff.2 ⟨_, decode_eq_self hslug.ampersand_not_mem, hyphenated_eq_self hslug hlower⟩

/-- Every text has a slug unless a decimal reference in it has too many digits. A slug consists of words that are
joined by single hyphens, with no white space, and is its own slug; so is every lower text of this kind. -/
theorem slug_normal (text : String) :
    ((∃ result, slug text = .ok result) ↔ ¬CharRef.HasLong text.toList) ∧
    (∀ result, slug text = .ok result →
      IsSlug result.toList ∧ (∀ c ∈ result.toList, isBlank c = false) ∧ slug result = .ok result) ∧
    (slug text = .ok text ↔ IsSlug text.toList ∧ lower text.toList = text.toList) := by
  refine ⟨slug_ok_iff text, fun result h => ?_, slug_eq_self_iff text⟩
  obtain ⟨decoded, _, hresult⟩ := slug_eq_ok_iff.1 h
  have hslug := isSlug_hyphenated decoded
  have hlower := lower_hyphenated decoded
  rw [hresult] at hslug hlower
  exact ⟨hslug, fun c hc => hslug.isBlank_eq_false hc, (slug_eq_self_iff result).2 ⟨hslug, hlower⟩⟩

/-- A letter that is lowered to two characters, a sigma at the end of a word, and gaps of all kinds. -/
theorem mixedHeading_normal :
    slug " \u0130 &amp; ΟΔΟΣ --!\u2003x_ -" = .ok "i-οδος-x_" ∧ IsSlug "i-οδος-x_".toList ∧
      (∀ c ∈ "i-οδος-x_".toList, isBlank c = false) ∧ slug "i-οδος-x_" = .ok "i-οδος-x_" := by
  have hslug : slug " \u0130 &amp; ΟΔΟΣ --!\u2003x_ -" = .ok "i-οδος-x_" := by decide +kernel
  exact ⟨hslug, (slug_normal _).2.1 _ hslug⟩

/-- Leading zeros count as digits of a reference. -/
theorem long_reference_not_slugged :
    ¬∃ result, slug (.ofList ('&' :: '#' :: (List.replicate 4299 '0' ++ ['6', '5']) ++ [';'])) = .ok result := by
  rw [slug_ok_iff, not_not, String.toList_ofList]
  refine ⟨List.replicate 4299 '0' ++ ['6', '5'], ?_, ?_, [], [';'], by rw [List.nil_append]⟩
  · rw [List.length_append, List.length_replicate]
    decide
  · rw [List.all_append, List.all_replicate]
    decide

end MarkdownOutline.Text
