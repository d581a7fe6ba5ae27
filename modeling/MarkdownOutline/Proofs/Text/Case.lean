import MarkdownOutline.Text.Case

namespace MarkdownOutline.Text

namespace CaseRun

def shifted (r : CaseRun) (n : Nat) : Nat := ((n : Int) + r.shift).toNat

/-- The table has too many code points to go through each: a whole run is compared with another. -/
def misses (r s : CaseRun) : Bool :=
  Nat.blt (r.shifted r.last) s.first || Nat.blt s.last (r.shifted r.first) ||
    (s.step == 2 && (r.first == r.last || r.step == 2) && (r.shifted r.first + s.first) % 2 == 1)

def lands (r : CaseRun) : Bool :=
  decide (0 ≤ r.first + r.shift) &&
    (Nat.blt (r.shifted r.last) 0xD800 || Nat.blt 0xDFFF (r.shifted r.first) && Nat.blt (r.shifted r.last) 0x110000)

variable {r s : CaseRun} {n : Nat}

theorem contains_iff : r.contains n = true ↔ r.first ≤ n ∧ n ≤ r.last ∧ (n - r.first) % r.step = 0 := by
  simp [contains, and_assoc]

theorem shifted_bounds (h : r.contains n = true) :
    r.shifted r.first ≤ r.shifted n ∧ r.shifted n ≤ r.shifted r.last := by
  obtain ⟨hfirst, hlast, _⟩ := contains_iff.1 h
  simp only [shifted]
  omega

theorem isValidChar_shifted (hlands : r.lands = true) (h : r.contains n = true) : (r.shifted n).isValidChar := by
  have hbounds := shifted_bounds h
  simp only [lands, Bool.and_eq_true, Bool.or_eq_true, Nat.blt_eq] at hlands
  rw [Nat.isValidChar]
  omega

theorem not_contains_shifted (hlands : r.lands = true) (hmisses : r.misses s = true) (h : r.contains n = true) :
    s.contains (r.shifted n) = false := by
  rw [Bool.eq_false_iff, ne_eq, contains_iff]
  rintro ⟨hfirst, hlast, hstep⟩
  have hbounds := shifted_bounds h
  obtain ⟨hlow, hhigh, hparity⟩ := contains_iff.1 h
  simp only [lands, Bool.and_eq_true, decide_eq_true_eq] at hlands
  simp only [misses, Bool.or_eq_true, Bool.and_eq_true, Nat.blt_eq, beq_iff_eq] at hmisses
  rcases hmisses with (hfront | hbehind) | ⟨⟨htwo, hsingle | hown⟩, hodd⟩
  · omega
  · omega
  · rw [htwo] at hstep
    simp only [shifted] at *
    omega
  · rw [htwo] at hstep
    rw [hown] at hparity
    simp only [shifted] at *
    omega

end CaseRun

/-- The lower forms of the table have no other form in it, neither by a run nor as several characters. -/
theorem lowerRuns_apart : lowerRuns.all (fun r => r.lands && lowerRuns.all r.misses &&
    longLower.all fun e => r.misses ⟨e.1, e.1, 1, 0⟩) = true := by
  decide +kernel

theorem lowerChar_of_long {c : Char} {codes : List Nat} (h : longLower.lookup c.toNat = some codes) :
    ∀ d ∈ lowerChar c, lowerChar d = [d] := by
  have hcodes : ∀ e ∈ longLower, ∀ code ∈ e.2, lowerChar (Char.ofNat code) = [Char.ofNat code] := by
    decide +kernel
  obtain ⟨before, after, heq, _⟩ := List.lookup_eq_some_iff.1 h
  intro d hd
  rw [lowerChar, otherCase, h] at hd
  obtain ⟨code, hcode, rfl⟩ := List.mem_map.1 hd
  exact hcodes (c.toNat, codes) (by rw [heq]; simp) code hcode

theorem lowerChar_of_run {c : Char} (hlong : longLower.lookup c.toNat = none) {r : CaseRun}
    (h : lowerRuns.find? (·.contains c.toNat) = some r) : ∀ d ∈ lowerChar c, lowerChar d = [d] := by
  intro d hd
  simp only [lowerChar, otherCase, hlong, h, List.mem_singleton] at hd
  subst hd
  have hr := List.all_eq_true.1 lowerRuns_apart r (List.mem_of_find?_eq_some h)
  simp only [Bool.and_eq_true, List.all_eq_true] at hr
  obtain ⟨⟨hlands, hruns⟩, hlongs⟩ := hr
  have hcontains : r.contains c.toNat = true := by simpa using List.find?_some h
  have hcode : (Char.ofNat (r.shifted c.toNat)).toNat = r.shifted c.toNat := by
    rw [Char.ofNat, dif_pos (CaseRun.isValidChar_shifted hlands hcontains)]
    rfl
  have hlookup : longLower.lookup (r.shifted c.toNat) = none := by
    refine List.lookup_eq_none_iff.2 fun e he => bne_iff_ne.2 fun heq => ?_
    have hmissed := CaseRun.not_contains_shifted hlands (hlongs e he) hcontains
    simp [CaseRun.contains, heq] at hmissed
  have hfind : lowerRuns.find? (·.contains (r.shifted c.toNat)) = none := by
    refine List.find?_eq_none.2 fun s hs => ?_
    rw [CaseRun.not_contains_shifted hlands (hruns s hs) hcontains]
    exact Bool.false_ne_true
  change lowerChar (Char.ofNat (r.shifted c.toNat)) = [Char.ofNat (r.shifted c.toNat)]
  rw [lowerChar, otherCase, hcode, hlookup, hfind]

/-- A lower form has no other lower form. -/
theorem lowerChar_lowerChar (c : Char) : ∀ d ∈ lowerChar c, lowerChar d = [d] := by
  cases hlong : longLower.lookup c.toNat with
  | some codes => exact lowerChar_of_long hlong
  | none =>
      cases hrun : lowerRuns.find? (·.contains c.toNat) with
      | some r => exact lowerChar_of_run hlong hrun
      | none =>
          have hself : lowerChar c = [c] := by
            rw [lowerChar, otherCase, hlong, hrun]
          intro d hd
          rw [hself, List.mem_singleton] at hd
          rw [hd, hself]

theorem lowerChar_lowerSigma (afterCased : Bool) (rest : List Char) :
    lowerChar (lowerSigma afterCased rest) = [lowerSigma afterCased rest] := by
  rw [lowerSigma]
  split <;> decide +kernel

theorem mem_lowerFrom {cs : List Char} (afterCased : Bool) : ∀ d ∈ lowerFrom afterCased cs, lowerChar d = [d] := by
  induction cs generalizing afterCased with
  | nil => exact List.forall_mem_nil _
  | cons c cs ih =>
      rw [lowerFrom]
      refine List.forall_mem_append.2 ⟨?_, ih _⟩
      split
      · exact List.forall_mem_singleton.2 (lowerChar_lowerSigma afterCased cs)
      · exact lowerChar_lowerChar c

theorem lowerChar_of_mem_lower {cs : List Char} {d : Char} (h : d ∈ lower cs) : lowerChar d = [d] :=
  mem_lowerFrom false d h

theorem lowerFrom_eq_self {cs : List Char} (h : ∀ c ∈ cs, lowerChar c = [c]) (afterCased : Bool) :
    lowerFrom afterCased cs = cs := by
  induction cs generalizing afterCased with
  | nil => rfl
  | cons c cs ih =>
      obtain ⟨hc, hcs⟩ := List.forall_mem_cons.1 h
      have hsigma : c ≠ 'Σ' := by
        rintro rfl
        revert hc
        decide +kernel
      rw [lowerFrom, if_neg hsigma, hc, ih hcs, List.singleton_append]

theorem lower_eq_self {cs : List Char} (h : ∀ c ∈ cs, lowerChar c = [c]) : lower cs = cs :=
  lowerFrom_eq_self h false

end MarkdownOutline.Text
