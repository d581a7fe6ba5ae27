import Mathlib.Data.List.Nodup
import Mathlib.Data.List.Perm.Subperm
import Mathlib.Order.Nat
import Std.Data.String.ToNat
import MarkdownOutline.Html.Renderer

namespace MarkdownOutline.Html

@[simp] theorem numbered_zero (base : String) : numbered base 0 = base := rfl

theorem numbered_of_pos (base : String) {n : Nat} (h : 0 < n) : numbered base n = base ++ "-" ++ toString n :=
  if_neg h.ne'

theorem numbered_injective (base : String) : Function.Injective (numbered base) := by
  have hlonger {n : Nat} (hn : 0 < n) : numbered base n ≠ base := by
    intro h
    have hlength := congrArg String.length h
    rw [numbered_of_pos base hn, String.length_append, String.length_append] at hlength
    have hhyphen : "-".length = 1 := rfl
    omega
  intro m n h
  rcases Nat.eq_zero_or_pos m with rfl | hm
  · rcases Nat.eq_zero_or_pos n with rfl | hn
    · rfl
    · exact absurd h.symm (hlonger hn)
  · rcases Nat.eq_zero_or_pos n with rfl | hn
    · exact absurd h (hlonger hm)
    · rw [numbered_of_pos base hm, numbered_of_pos base hn, String.append_right_inj] at h
      exact Nat.repr_injective h

section

variable (used : String → Prop) (base : String)

/-- The search for a slug that is not in use: `candidate` is tried, and if it is in use the next one has the
number `counter`. -/
inductive Search : String → Nat → String → Prop
  | found {candidate : String} {counter : Nat} (h : ¬used candidate) : Search candidate counter candidate
  | next {candidate slug : String} {counter : Nat} (h : used candidate)
      (hrest : Search (base ++ "-" ++ toString counter) (counter + 1) slug) : Search candidate counter slug

/-- The base if it is not in use, or else the base with the smallest positive number that makes it so. -/
inductive IsFresh : String → Prop
  | bare (h : ¬used base) : IsFresh base
  | numbered {n : Nat} (hbase : used base) (hn : 0 < n) (h : ¬used (base ++ "-" ++ toString n))
      (hleast : ∀ m, 0 < m → m < n → used (base ++ "-" ++ toString m)) : IsFresh (base ++ "-" ++ toString n)

structure FirstFrom (k n : Nat) : Prop where
  le : k ≤ n
  unused : ¬used (numbered base n)
  below : ∀ m, k ≤ m → m < n → used (numbered base m)

end

section

variable {used : String → Prop} {base slug : String} {k n : Nat}

theorem FirstFrom.unique {m : Nat} (hm : FirstFrom used base k m) (hn : FirstFrom used base k n) : m = n := by
  rcases Nat.lt_trichotomy m n with hlt | heq | hlt
  · exact absurd (hn.below m hm.le hlt) hm.unused
  · exact heq
  · exact absurd (hm.below n hn.le hlt) hn.unused

theorem FirstFrom.search (h : FirstFrom used base k n) :
    Search used base (numbered base k) (k + 1) (numbered base n) := by
  induction hd : n - k generalizing k with
  | zero =>
      obtain rfl : k = n := by have := h.le; omega
      exact .found h.unused
  | succ d ih =>
      have hrest : FirstFrom used base (k + 1) n :=
        ⟨by omega, h.unused, fun m hm => h.below m (Nat.le_of_succ_le hm)⟩
      refine .next (h.below k (Nat.le_refl k) (by omega)) ?_
      rw [← numbered_of_pos base (Nat.succ_pos k)]
      exact ih hrest (by omega)

theorem exists_firstFrom_of_search {candidate : String} {counter : Nat}
    (h : Search used base candidate counter slug) (hcandidate : candidate = numbered base k)
    (hcounter : counter = k + 1) : ∃ n, slug = numbered base n ∧ FirstFrom used base k n := by
  induction h generalizing k with
  | found h =>
      rw [hcandidate] at h
      exact ⟨k, hcandidate, Nat.le_refl k, h, fun m hm hlt => absurd hm (Nat.not_le.2 hlt)⟩
  | @next candidate slug counter h hrest ih =>
      subst hcounter
      obtain ⟨n, rfl, hn⟩ := ih (numbered_of_pos base (Nat.succ_pos k)).symm rfl
      refine ⟨n, rfl, Nat.le_of_succ_le hn.le, hn.unused, fun m hm hlt => ?_⟩
      rcases Nat.eq_or_lt_of_le hm with rfl | hlater
      · rwa [← hcandidate]
      · exact hn.below m hlater hlt

/-- The search returns the first numbered form that is not in use and nothing else. -/
theorem search_iff_of_firstFrom (h : FirstFrom used base 0 n) :
    Search used base base 1 slug ↔ slug = numbered base n := by
  constructor
  · intro hsearch
    obtain ⟨m, rfl, hm⟩ := exists_firstFrom_of_search hsearch (numbered_zero base).symm rfl
    rw [hm.unique h]
  · rintro rfl
    exact h.search

theorem FirstFrom.isFresh (h : FirstFrom used base 0 n) : IsFresh used base (numbered base n) := by
  rcases Nat.eq_zero_or_pos n with rfl | hn
  · exact .bare h.unused
  · have hunused := h.unused
    rw [numbered_of_pos base hn] at hunused ⊢
    refine .numbered (h.below 0 (Nat.le_refl 0) hn) hn hunused fun m hm hlt => ?_
    rw [← numbered_of_pos base hm]
    exact h.below m (Nat.zero_le m) hlt

end

/-- There are more numbered forms than slugs in use. -/
theorem exists_numbered_not_mem (used : Std.HashSet String) (base : String) :
    ∃ n < used.size + 1, numbered base n ∉ used := by
  by_contra hall
  push Not at hall
  have hforms : ((List.range (used.size + 1)).map (numbered base)).Nodup :=
    List.nodup_range.map (numbered_injective base)
  have hwithin : (List.range (used.size + 1)).map (numbered base) ⊆ used.toList := by
    intro form hform
    obtain ⟨n, hn, rfl⟩ := List.mem_map.1 hform
    exact Std.HashSet.mem_toList.2 (hall n (List.mem_range.1 hn))
  have hlength := (hforms.subperm hwithin).length_le
  rw [List.length_map, List.length_range, Std.HashSet.length_toList] at hlength
  exact absurd hlength (Nat.not_succ_le_self _)

theorem not_contains_iff {used : Std.HashSet String} {slug : String} :
    (!used.contains slug) = true ↔ slug ∉ used := by
  rw [Bool.not_eq_true', ← Bool.not_eq_true, Std.HashSet.contains_iff_mem]

theorem exists_firstFrom (used : Std.HashSet String) (base : String) :
    ∃ n, freshSlug used base = numbered base n ∧ FirstFrom (· ∈ used) base 0 n := by
  obtain ⟨k, hk, hunused⟩ := exists_numbered_not_mem used base
  have hsome : ((List.range (used.size + 1)).find? fun n => !used.contains (numbered base n)).isSome = true := by
    rw [List.find?_isSome]
    exact ⟨k, List.mem_range.2 hk, not_contains_iff.2 hunused⟩
  obtain ⟨n, hn⟩ := Option.isSome_iff_exists.1 hsome
  obtain ⟨hfirst, _, hbelow⟩ := List.find?_range_eq_some.1 hn
  refine ⟨n, by rw [freshSlug, hn, Option.getD_some], Nat.zero_le n, not_contains_iff.1 hfirst, fun m _ hm => ?_⟩
  have hused := hbelow m hm
  rwa [Bool.not_not, Std.HashSet.contains_iff_mem] at hused

theorem freshSlug_not_mem (used : Std.HashSet String) (base : String) : freshSlug used base ∉ used := by
  obtain ⟨n, hfresh, hn⟩ := exists_firstFrom used base
  rw [hfresh]
  exact hn.unused

theorem freshSlug_of_not_mem {used : Std.HashSet String} {base : String} (h : base ∉ used) :
    freshSlug used base = base := by
  obtain ⟨n, hfresh, hn⟩ := exists_firstFrom used base
  rcases Nat.eq_zero_or_pos n with rfl | hpos
  · exact hfresh
  · exact absurd (hn.below 0 (Nat.le_refl 0) hpos) h

def handOut (used : Std.HashSet String) : List String → List String
  | [] => []
  | base :: bases => freshSlug used base :: handOut (used.insert (freshSlug used base)) bases

@[simp] theorem length_handOut (used : Std.HashSet String) (bases : List String) :
    (handOut used bases).length = bases.length := by
  induction bases generalizing used with
  | nil => rfl
  | cons base bases ih => rw [handOut, List.length_cons, List.length_cons, ih]

theorem not_mem_of_mem_handOut {used : Std.HashSet String} {bases : List String} :
    ∀ slug ∈ handOut used bases, slug ∉ used := by
  induction bases generalizing used with
  | nil => exact List.forall_mem_nil _
  | cons base bases ih =>
      refine List.forall_mem_cons.2 ⟨freshSlug_not_mem used base, fun slug hslug hused => ?_⟩
      exact ih slug hslug (Std.HashSet.mem_insert.2 (.inr hused))

theorem nodup_handOut (used : Std.HashSet String) (bases : List String) : (handOut used bases).Nodup := by
  induction bases generalizing used with
  | nil => exact List.nodup_nil
  | cons base bases ih =>
      refine List.nodup_cons.2 ⟨fun hmem => ?_, ih _⟩
      exact not_mem_of_mem_handOut _ hmem Std.HashSet.mem_insert_self

theorem exists_base_of_mem_handOut {used : Std.HashSet String} {bases : List String} {slug : String}
    (h : slug ∈ handOut used bases) : ∃ base ∈ bases, ∃ n, slug = numbered base n := by
  induction bases generalizing used with
  | nil => cases h
  | cons base bases ih =>
      rcases List.mem_cons.1 h with rfl | h
      · obtain ⟨n, hn, _⟩ := exists_firstFrom used base
        exact ⟨base, List.mem_cons_self, n, hn⟩
      · obtain ⟨base', hbase, n, hn⟩ := ih h
        exact ⟨base', List.mem_cons_of_mem _ hbase, n, hn⟩

/-- Each slug is the first numbered form of its base that is not in use and not handed out before. -/
theorem firstFrom_of_handOut {used : Std.HashSet String} {bases : List String} {i : Nat} {base slug : String}
    (hbase : bases[i]? = some base) (hslug : (handOut used bases)[i]? = some slug) :
    ∃ n, slug = numbered base n ∧
      FirstFrom (fun other => other ∈ used ∨ other ∈ (handOut used bases).take i) base 0 n := by
  induction bases generalizing used i with
  | nil => cases hbase
  | cons first bases ih =>
      cases i with
      | zero =>
          obtain rfl : first = base := Option.some.inj hbase
          obtain rfl : freshSlug used first = slug := Option.some.inj hslug
          simpa using exists_firstFrom used first
      | succ i =>
          obtain ⟨n, hform, hn⟩ := @ih (used.insert (freshSlug used first)) i hbase hslug
          have hsame : (fun other => other ∈ used.insert (freshSlug used first) ∨
              other ∈ (handOut (used.insert (freshSlug used first)) bases).take i) =
              fun other => other ∈ used ∨ other ∈ (handOut used (first :: bases)).take (i + 1) := by
            funext other
            rw [handOut, List.take_succ_cons, List.mem_cons, Std.HashSet.mem_insert, beq_iff_eq,
              @eq_comm _ other, or_assoc, or_left_comm]
          rw [hsame] at hn
          exact ⟨n, hform, hn⟩

end MarkdownOutline.Html
