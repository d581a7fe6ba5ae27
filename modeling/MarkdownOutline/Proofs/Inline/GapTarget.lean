import MarkdownOutline.Proofs.Inline.Gap

namespace MarkdownOutline.Inline

open Text

section

variable {t : Cells} {j : Nat} {c : Char} (h : (t.drop j).head? = some (some c)) (r : List Char)
include h

theorem extentOf_succ : extentOf r t (j + 1) = extentOf r t j + 1 := by
  obtain ⟨rest, hrest⟩ := List.head?_eq_some_iff.1 h
  rw [extentOf_add, hrest, extentOf_some, extentOf_zero]

theorem drop_extentOf_succ : (fill r t).drop (extentOf r t j + 1) = fill r (t.drop (j + 1)) := by
  rw [← extentOf_succ h, drop_extentOf]

end

theorem fill_congr {t : Cells} (h : none ∉ t) (r s : List Char) : fill r t = fill s t := by
  induction t with
  | nil => rfl
  | cons cell t ih =>
      rw [List.mem_cons, not_or] at h
      cases cell with
      | none => exact absurd rfl h.1
      | some c => rw [fill_some, fill_some, ih h.2]

/-- Only a character of the text begins with another character than an ampersand. -/
theorem exists_of_fill_eq_cons {r : List Char} (hr : IsFiller r) {c : Char} (hc : c ≠ '&') {t : Cells}
    {cs : List Char} (h : fill r t = c :: cs) : ∃ u, t = some c :: u := by
  cases t with
  | nil => cases h
  | cons cell t =>
      cases cell with
      | some d =>
          obtain ⟨rfl, _⟩ := List.cons.inj h
          exact ⟨t, rfl⟩
      | none =>
          obtain ⟨tail, rfl, _⟩ := hr.exists_cons
          exact absurd (List.cons.inj h).1.symm hc

theorem mem_fill_iff {r : List Char} {c : Char} (hc : c ∉ r) (t : Cells) : c ∈ fill r t ↔ some c ∈ t := by
  induction t with
  | nil => simp
  | cons cell t ih => cases cell <;> simp [ih, hc]

theorem head?_drop_runOf (p : Char → Bool) (t : Cells) : (t.drop (runOf p true t)).head? ≠ some none := by
  induction t with
  | nil => simp [runOf]
  | cons cell t ih =>
      cases hcell : cell.elim true p with
      | true => simpa [runOf, hcell] using ih
      | false =>
          cases cell with
          | none => cases hcell
          | some c => simp [runOf, hcell]

theorem bareLength_cons {c : Char} (h : c ≠ '\\') (depth : Nat) (cs : List Char) : bareLength depth (c :: cs) =
    if isBlank c then 0
    else if c = '(' then bareLength (depth + 1) cs + 1
    else if c = ')' then if depth = 0 then 0 else bareLength (depth - 1) cs + 1
    else bareLength depth cs + 1 := by
  have hslash : ∀ d ds, c = '\\' → cs = d :: ds → False := fun _ _ hc _ => h hc
  cases depth with
  | zero => rw [bareLength.eq_3 c cs hslash, if_pos rfl]
  | succ depth =>
      rw [bareLength.eq_4 c cs depth hslash, if_neg (Nat.succ_ne_zero depth)]
      rfl

theorem bareLength_append_filler {p : List Char} (hp : ∀ c ∈ p, isFillerChar c = true) (depth : Nat)
    (cs : List Char) : bareLength depth (p ++ cs) = bareLength depth cs + p.length := by
  induction p with
  | nil => rfl
  | cons c p ih =>
      obtain ⟨hc, hp⟩ := List.forall_mem_cons.1 hp
      have hne {d : Char} (hd : isFillerChar d = false) : c ≠ d := by
        rintro rfl
        rw [hc] at hd
        cases hd
      rw [List.cons_append, bareLength_cons (hne rfl), isBlank_of_isFillerChar hc, if_neg Bool.false_ne_true,
        if_neg (hne rfl), if_neg (hne rfl), ih hp]
      rfl

theorem bareLength_fill (depth : Nat) (t : Cells) :
    ∃ k, ∀ r, IsFiller r → bareLength depth (fill r t) = extentOf r t k := by
  induction ht : t.length using Nat.strongRecOn generalizing t depth with
  | ind n ih =>
      cases t with
      | nil => exact ⟨0, fun r _ => by rw [fill_nil, bareLength]; rfl⟩
      | cons cell t =>
          have hrest (depth : Nat) := ih t.length (Nat.lt_of_lt_of_eq (Nat.lt_succ_self _) ht) depth t rfl
          cases cell with
          | none =>
              obtain ⟨k, hk⟩ := hrest depth
              exact ⟨k + 1, fun r hr => by rw [fill_none, bareLength_append_filler hr.all, hk r hr, extentOf_none]⟩
          | some c =>
              by_cases hslash : c = '\\'
              · subst hslash
                cases t with
                | nil => exact ⟨1, fun r _ => rfl⟩
                | cons next t =>
                    obtain ⟨k, hk⟩ := ih t.length (Nat.lt_of_lt_of_eq (length_drop_lt_cons (_ :: t) _ 1) ht) depth t rfl
                    refine ⟨k + 2, fun r hr => ?_⟩
                    cases next with
                    | some d =>
                        rw [fill_some, fill_some, bareLength.eq_2, hk r hr]
                        rfl
                    | none =>
                        obtain ⟨tail, rfl, htail⟩ := hr.exists_cons
                        rw [fill_some, fill_none, List.cons_append, bareLength.eq_2, bareLength_append_filler htail,
                          hk _ hr, extentOf_some, extentOf_none]
                        rfl
              by_cases hblank : isBlank c = true
              · exact ⟨0, fun r _ => by rw [fill_some, bareLength_cons hslash, if_pos hblank]; rfl⟩
              by_cases hopening : c = '('
              · obtain ⟨k, hk⟩ := hrest (depth + 1)
                refine ⟨k + 1, fun r hr => ?_⟩
                rw [fill_some, bareLength_cons hslash, if_neg hblank, if_pos hopening, hk r hr, extentOf_some]
              by_cases hclosing : c = ')'
              · by_cases hdepth : depth = 0
                · refine ⟨0, fun r _ => ?_⟩
                  rw [fill_some, bareLength_cons hslash, if_neg hblank, if_neg hopening, if_pos hclosing, if_pos hdepth]
                  rfl
                · obtain ⟨k, hk⟩ := hrest (depth - 1)
                  refine ⟨k + 1, fun r hr => ?_⟩
                  rw [fill_some, bareLength_cons hslash, if_neg hblank, if_neg hopening, if_pos hclosing,
                    if_neg hdepth, hk r hr, extentOf_some]
              · obtain ⟨k, hk⟩ := hrest depth
                refine ⟨k + 1, fun r hr => ?_⟩
                rw [fill_some, bareLength_cons hslash, if_neg hblank, if_neg hopening, if_neg hclosing, hk r hr,
                  extentOf_some]

def Parted (t u v : Cells) : Prop := ∃ w, t = w ++ v ∧ u ⊆ w

theorem destination?_fill (t : Cells) : ∃ o : Option (Cells × Cells), (∀ p ∈ o, Parted t p.1 p.2) ∧
    ∀ r, IsFiller r → destination? (fill r t) = o.map fun p => (fill r p.1, fill r p.2) := by
  by_cases hangle : ∃ u, t = some '<' :: u
  · obtain ⟨u, rfl⟩ := hangle
    have hpasses : Passes (· != '>') true := .whole (forall_isFillerChar (by decide))
    by_cases hline : some '\n' ∈ u.take (runOf (· != '>') true u)
    · refine ⟨none, by simp, fun r hr => ?_⟩
      have hmem := (mem_fill_iff (hr.not_mem rfl) _).2 hline
      simp only [fill_some, destination?, takeWhile_fill hpasses hr]
      rw [if_pos (List.contains_iff_mem.2 hmem)]
      rfl
    · have hline' {r : List Char} (hr : IsFiller r) :
          ¬(fill r (u.take (runOf (· != '>') true u))).contains '\n' = true :=
        fun h => hline ((mem_fill_iff (hr.not_mem rfl) _).1 (List.contains_iff_mem.1 h))
      have hbehind := head?_drop_runOf (· != '>') u
      cases hdrop : u.drop (runOf (· != '>') true u) with
      | nil =>
          refine ⟨none, by simp, fun r hr => ?_⟩
          simp only [fill_some, destination?, takeWhile_fill hpasses hr, if_neg (hline' hr), ← extentOf.eq_1,
            drop_extentOf, hdrop]
          rfl
      | cons cell v =>
          rw [hdrop] at hbehind
          cases cell with
          | none => exact absurd rfl hbehind
          | some c =>
              refine ⟨some (u.take (runOf (· != '>') true u), v), ?_, fun r hr => ?_⟩
              · rintro _ ⟨⟩
                refine ⟨some '<' :: (u.take (runOf (· != '>') true u) ++ [some c]), ?_, ?_⟩
                · rw [List.cons_append, List.append_assoc, List.singleton_append, ← hdrop, List.take_append_drop]
                · exact fun x hx => List.mem_cons_of_mem _ (List.mem_append_left _ hx)
              · simp only [fill_some, destination?, takeWhile_fill hpasses hr, if_neg (hline' hr), ← extentOf.eq_1,
                  drop_extentOf, hdrop]
                rfl
  · obtain ⟨k, hk⟩ := bareLength_fill 0 t
    refine ⟨some (t.take k, t.drop k), ?_, fun r hr => ?_⟩
    · rintro _ ⟨⟩
      exact ⟨t.take k, (List.take_append_drop k t).symm, fun _ h => h⟩
    · have hne : ∀ cs, fill r t = '<' :: cs → False := fun _ h => hangle (exists_of_fill_eq_cons hr (by decide) h)
      rw [destination?.eq_2 _ hne]
      simp only [hk r hr, take_extentOf, drop_extentOf, Option.map_some]

theorem titleLength?_backslash (closer : Char) (rest : List Char) :
    titleLength? closer ('\\' :: rest) = (titleLength? closer (rest.drop 1)).map (· + 2) := by
  cases rest with
  | nil => rfl
  | cons c cs => exact titleLength?.eq_3 closer c cs

theorem titleLength?_cons {c : Char} (h : c ≠ '\\') (closer : Char) (cs : List Char) :
    titleLength? closer (c :: cs) =
      if c = closer then some 0 else (titleLength? closer cs).map (· + 1) :=
  titleLength?.eq_4 closer c cs (fun hc _ => h hc) fun _ _ hc _ => h hc

section

variable {closer : Char} (hcloser : isFillerChar closer = false)
include hcloser

theorem titleLength?_append_filler (p : List Char) (hp : ∀ c ∈ p, isFillerChar c = true) (cs : List Char) :
    titleLength? closer (p ++ cs) = (titleLength? closer cs).map (· + p.length) := by
  induction p with
  | nil => simp
  | cons c p ih =>
      obtain ⟨hc, hp⟩ := List.forall_mem_cons.1 hp
      have hne {d : Char} (hd : isFillerChar d = false) : c ≠ d := by
        rintro rfl
        rw [hc] at hd
        cases hd
      rw [List.cons_append, titleLength?_cons (hne rfl), if_neg (hne hcloser), ih hp, Option.map_map]
      rfl

theorem titleLength?_fill (t : Cells) : StopsAt (·.head? = some (some closer)) (titleLength? closer) t := by
  induction ht : t.length using Nat.strongRecOn generalizing t with
  | ind n ih =>
      cases t with
      | nil => exact .fail fun r _ => rfl
      | cons cell t =>
          have hrest := ih t.length (Nat.lt_of_lt_of_eq (Nat.lt_succ_self _) ht) t rfl
          cases cell with
          | none =>
              refine hrest.jump (k := 1) fun r hr => ?_
              rw [fill_none, titleLength?_append_filler hcloser r hr.all, extentOf_none, extentOf_zero, Nat.zero_add]
              rfl
          | some c =>
              by_cases hslash : c = '\\'
              · subst hslash
                have hbehind := ih (t.drop 1).length (Nat.lt_of_lt_of_eq (length_drop_lt_cons ..) ht) (t.drop 1) rfl
                refine hbehind.jump (k := 2) fun r hr => ?_
                rw [fill_some, titleLength?_backslash, map_drop_one rfl (titleLength?_append_filler hcloser) hr]
                rfl
              by_cases hc : c = closer
              · subst hc
                exact .here rfl fun r _ => by rw [fill_some, titleLength?_cons hslash, if_pos rfl]
              · refine hrest.jump (k := 1) fun r _ => ?_
                rw [fill_some, titleLength?_cons hslash, if_neg hc]
                rfl

end

theorem isFillerChar_of_titleCloser? {c closer : Char} (h : titleCloser? c = some closer) :
    isFillerChar closer = false := by
  unfold titleCloser? at h
  split at h <;> cases h <;> rfl

theorem passes_isLinkSpace : Passes isLinkSpace false := .stops rfl

theorem skipLinkSpace_fill {r : List Char} (hr : IsFiller r) (t : Cells) :
    skipLinkSpace (fill r t) = fill r (t.drop (runOf isLinkSpace false t)) :=
  dropWhile_fill passes_isLinkSpace hr t

theorem title?_fill (t : Cells) : ∃ o : Option (Option Cells × Cells),
    (∀ p ∈ o, Parted t (p.1.getD []) p.2) ∧
    ∀ r, IsFiller r → title? (fill r t) =
      o.map fun p => (p.1.map fun u => unescape (fill r u), fill r p.2) := by
  have hsplit := List.take_append_drop (runOf isLinkSpace false t) t
  have hlength (r : List Char) : (fill r t).length =
      runOf isLinkSpace false t + (fill r (t.drop (runOf isLinkSpace false t))).length := by
    rw [← fill_take_append_drop r t (runOf isLinkSpace false t), List.length_append]
    exact congrArg (· + _) (extentOf_runOf r isLinkSpace t)
  cases hdrop : t.drop (runOf isLinkSpace false t) with
  | nil =>
      refine ⟨some (none, []), ?_, fun r hr => ?_⟩
      · rintro _ ⟨⟩
        exact ⟨t, by simp, by simp⟩
      · simp only [title?, skipLinkSpace_fill hr, hdrop]
        rfl
  | cons cell v =>
      have hnone : Parted t [] (cell :: v) := ⟨t.take (runOf isLinkSpace false t), by rw [← hdrop, hsplit], by simp⟩
      cases cell with
      | none =>
          refine ⟨some (none, none :: v), by rintro _ ⟨⟩; exact hnone, fun r hr => ?_⟩
          have hskip := skipLinkSpace_fill hr t
          obtain ⟨tail, rfl, _⟩ := hr.exists_cons
          rw [hdrop, fill_none, List.cons_append] at hskip
          simp only [title?, hskip]
          have hcloser : titleCloser? '&' = none := rfl
          rw [hcloser, ite_self]
          rfl
      | some c =>
          have hif (r : List Char) : (if (fill r v).length + 1 < (fill r t).length then titleCloser? c else none) =
              if 0 < runOf isLinkSpace false t then titleCloser? c else none := by
            rw [hlength r, hdrop, fill_some, List.length_cons]
            exact if_congr (by omega) rfl rfl
          cases hcloser : (if 0 < runOf isLinkSpace false t then titleCloser? c else none) with
          | none =>
              refine ⟨some (none, some c :: v), by rintro _ ⟨⟩; exact hnone, fun r hr => ?_⟩
              simp only [title?, skipLinkSpace_fill hr, hdrop, fill_some, hif, hcloser]
              rfl
          | some closer =>
              have hfiller := isFillerChar_of_titleCloser? (Option.ite_none_right_eq_some.1 hcloser).2
              obtain ⟨j, hstop, hj⟩ := titleLength?_fill hfiller v
              refine ⟨j.map fun j => (some (v.take j), v.drop (j + 1)), ?_, fun r hr => ?_⟩
              · rintro _ hp
                obtain ⟨j, rfl, rfl⟩ := Option.map_eq_some_iff.1 hp
                refine ⟨t.take (runOf isLinkSpace false t) ++ some c :: v.take (j + 1), ?_, ?_⟩
                · rw [List.append_assoc, List.cons_append, List.take_append_drop, ← hdrop, hsplit]
                · intro x hx
                  refine List.mem_append_right _ (List.mem_cons_of_mem _ ?_)
                  exact (List.take_sublist_take_left (Nat.le_succ j)).subset hx
              · simp only [title?, skipLinkSpace_fill hr, hdrop, fill_some, hif, hcloser, hj r hr]
                cases j with
                | none => rfl
                | some j => simp only [Option.map_some, take_extentOf, drop_extentOf_succ (hstop j rfl)]

end MarkdownOutline.Inline
