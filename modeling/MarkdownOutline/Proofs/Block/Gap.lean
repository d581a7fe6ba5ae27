import Mathlib.Algebra.Group.Nat.Even
import MarkdownOutline.Proofs.Block.Layer

namespace MarkdownOutline.Block

open Text

/-- A line that begins a block of an item if it stands behind a gap: neither indented like the content of
an inner item, nor marked as one. -/
structure IsApart (line : Line) : Prop where
  full : isBlankLine line = false
  indent : indentOf line < 2
  marker : marker? line = none

theorem opensBlock_iff {lines : List Line} : opensBlock lines = true ↔
    ∃ gap line behind, lines = gap ++ line :: behind ∧ (∀ l ∈ gap, isBlankLine l = true) ∧ IsApart line := by
  rw [opensBlock, Option.any_eq_true]
  constructor
  · rintro ⟨line, hfind, hline⟩
    rw [List.find?_eq_some_iff_append] at hfind
    obtain ⟨hfull, gap, behind, hlines, hgap⟩ := hfind
    simp only [Bool.and_eq_true, decide_eq_true_eq, Option.isNone_iff_eq_none] at hline
    refine ⟨gap, line, behind, hlines, ?_, ⟨by simpa using hfull, hline.1, hline.2⟩⟩
    intro l hl
    simpa using hgap l hl
  · rintro ⟨gap, line, behind, rfl, hgap, hline⟩
    refine ⟨line, List.find?_eq_some_iff_append.2 ⟨by simp [hline.full], gap, behind, rfl, ?_⟩, ?_⟩
    · intro l hl
      simp [hgap l hl]
    · simp [hline.indent, hline.marker]

structure HasGapAt (lines front gap : List Line) (line : Line) (behind : List Line) : Prop where
  eq : lines = front ++ (gap ++ line :: behind)
  gap_ne_nil : gap ≠ []
  blank : ∀ l ∈ gap, isBlankLine l = true
  apart : IsApart line

theorem HasGapAt.cons {lines front gap behind : List Line} {line : Line}
    (h : HasGapAt lines front gap line behind) (first : Line) :
    HasGapAt (first :: lines) (first :: front) gap line behind :=
  ⟨congrArg (first :: ·) h.eq, h.gap_ne_nil, h.blank, h.apart⟩

theorem HasGapAt.of_cons {lines front gap behind : List Line} {first line : Line}
    (h : HasGapAt (first :: lines) front gap line behind) :
    (∃ front', front = first :: front' ∧ HasGapAt lines front' gap line behind) ∨
      front = [] ∧ isBlankLine first = true ∧ opensBlock lines = true := by
  cases front with
  | cons l front =>
      obtain ⟨rfl, hlines⟩ := List.cons.inj h.eq
      exact .inl ⟨front, rfl, hlines, h.gap_ne_nil, h.blank, h.apart⟩
  | nil =>
      obtain ⟨l, gap, rfl⟩ := List.exists_cons_of_ne_nil h.gap_ne_nil
      obtain ⟨rfl, hlines⟩ := List.cons.inj h.eq
      obtain ⟨hfirst, hgap⟩ := List.forall_mem_cons.1 h.blank
      exact .inr ⟨rfl, hfirst, opensBlock_iff.2 ⟨gap, line, behind, hlines, hgap, h.apart⟩⟩

theorem even_toNat_iff (b : Bool) : Even b.toNat ↔ b = false := by
  cases b <;> decide

/-- A gap counts where the number of fences in front of it is even. -/
theorem gapIn_iff (inFence : Bool) (lines : List Line) : gapIn inFence lines = true ↔
    ∃ front gap line behind, HasGapAt lines front gap line behind ∧
      Even (inFence.toNat + front.countP isFence) := by
  induction lines generalizing inFence with
  | nil =>
      constructor
      · intro h
        cases h
      · rintro ⟨front, gap, line, behind, hgap, _⟩
        have hlength := congrArg List.length hgap.eq
        simp only [List.length_nil, List.length_append, List.length_cons] at hlength
        omega
  | cons first rest ih =>
      rw [gapIn]
      by_cases hfence : isFence first = true
      · rw [if_pos hfence, ih]
        have hparity (n : Nat) : Even (inFence.toNat + (n + 1)) ↔ Even ((!inFence).toNat + n) := by
          cases inFence with
          | false => rw [Bool.toNat_false, Bool.not_false, Bool.toNat_true, Nat.zero_add, Nat.add_comm]
          | true =>
              rw [Bool.toNat_true, Bool.not_true, Bool.toNat_false, Nat.zero_add, Nat.add_comm,
                Nat.even_add_one, Nat.even_add_one, not_not]
        constructor
        · rintro ⟨front, gap, line, behind, hgap, heven⟩
          refine ⟨first :: front, gap, line, behind, hgap.cons first, ?_⟩
          rwa [List.countP_cons_of_pos hfence, hparity]
        · rintro ⟨front, gap, line, behind, hgap, heven⟩
          rcases hgap.of_cons with ⟨front, rfl, hrest⟩ | ⟨_, hblank, _⟩
          · rw [List.countP_cons_of_pos hfence, hparity] at heven
            exact ⟨front, gap, line, behind, hrest, heven⟩
          · rw [isFence_of_isBlankLine hblank] at hfence
            cases hfence
      · rw [if_neg hfence]
        by_cases hopens : (!inFence && isBlankLine first && opensBlock rest) = true
        · rw [if_pos hopens]
          refine iff_of_true rfl ?_
          simp only [Bool.and_eq_true, Bool.not_eq_true'] at hopens
          obtain ⟨gap, line, behind, rfl, hgap, hline⟩ := opensBlock_iff.1 hopens.2
          refine ⟨[], first :: gap, line, behind, ⟨rfl, List.cons_ne_nil _ _, ?_, hline⟩, ?_⟩
          · exact List.forall_mem_cons.2 ⟨hopens.1.2, hgap⟩
          · rw [hopens.1.1]
            exact Even.zero
        · rw [if_neg hopens, ih]
          constructor
          · rintro ⟨front, gap, line, behind, hgap, heven⟩
            refine ⟨first :: front, gap, line, behind, hgap.cons first, ?_⟩
            rwa [List.countP_cons_of_neg hfence]
          · rintro ⟨front, gap, line, behind, hgap, heven⟩
            rcases hgap.of_cons with ⟨front, rfl, hrest⟩ | ⟨rfl, hblank, hrest⟩
            · rw [List.countP_cons_of_neg hfence] at heven
              exact ⟨front, gap, line, behind, hrest, heven⟩
            · rw [List.countP_nil, Nat.add_zero, even_toNat_iff] at heven
              rw [heven, hblank, hrest] at hopens
              exact absurd rfl hopens

/-- The first line of an item is never part of a gap. -/
theorem hasGap_iff (lines : List Line) : hasGap lines = true ↔
    ∃ front gap line behind, front ≠ [] ∧ HasGapAt lines front gap line behind ∧
      Even (front.countP isFence) := by
  cases lines with
  | nil =>
      constructor
      · intro h
        cases h
      · rintro ⟨front, gap, line, behind, hne, hgap, _⟩
        obtain ⟨first, front, rfl⟩ := List.exists_cons_of_ne_nil hne
        cases hgap.eq
  | cons first rest =>
      have hcount (front : List Line) :
          (first :: front).countP isFence = (isFence first).toNat + front.countP isFence := by
        cases hfence : isFence first with
        | true => rw [List.countP_cons_of_pos hfence, Nat.add_comm, Bool.toNat_true]
        | false => rw [List.countP_cons_of_neg (by simp [hfence]), Bool.toNat_false, Nat.zero_add]
      rw [hasGap, gapIn_iff]
      constructor
      · rintro ⟨front, gap, line, behind, hgap, heven⟩
        rw [← hcount] at heven
        exact ⟨first :: front, gap, line, behind, List.cons_ne_nil _ _, hgap.cons first, heven⟩
      · rintro ⟨front, gap, line, behind, hne, hgap, heven⟩
        rcases hgap.of_cons with ⟨front, rfl, hrest⟩ | ⟨hnil, _⟩
        · rw [hcount] at heven
          exact ⟨front, gap, line, behind, hrest, heven⟩
        · exact absurd hnil hne

namespace Passage

def fencesAbove (p : Passage) (n : Int) : Nat := (p.lines.take (n - p.line).toNat).countP isFence

theorem fencesAbove_line_add (p : Passage) (k : Nat) :
    p.fencesAbove (p.line + k) = (p.lines.take k).countP isFence := by
  rw [fencesAbove, show p.line + k - p.line = k by omega, Int.toNat_natCast]

structure LooksParted (p : Passage) (n : Int) : Prop where
  apart : ∃ l, p.lineAt? n = some l ∧ IsApart l
  fences : Even (p.fencesAbove n)

variable {p : Passage}

theorem hasGap_iff : hasGap p.lines = true ↔ ∃ n, p.line + 1 < n ∧ p.IsBlankAt (n - 1) ∧ p.LooksParted n := by
  rw [Block.hasGap_iff]
  constructor
  · rintro ⟨front, gap, line, behind, hfront, hgap, heven⟩
    have hlines : p.lines = (front ++ gap) ++ line :: behind := by rw [hgap.eq, List.append_assoc]
    obtain ⟨before, blank, rfl⟩ := List.eq_nil_or_concat gap |>.resolve_left hgap.gap_ne_nil
    have hpos : 0 < front.length := List.length_pos_iff.2 hfront
    have hnone : (front ++ before.concat blank).countP isFence = front.countP isFence := by
      rw [List.countP_append, Nat.add_eq_left, List.countP_eq_zero]
      intro l hl
      rw [isFence_of_isBlankLine (hgap.blank l hl)]
      exact Bool.false_ne_true
    refine ⟨p.line + (front ++ before.concat blank).length, ?_, ⟨blank, ?_, ?_⟩, ⟨line, ?_, hgap.apart⟩, ?_⟩
    · simp only [List.concat_eq_append, List.length_append, List.length_singleton]
      omega
    · have hn : p.line + (front ++ before.concat blank).length - 1 = p.line + (front ++ before).length := by
        simp only [List.concat_eq_append, List.length_append, List.length_singleton]
        omega
      rw [hn, lineAt?_line_add, hlines]
      simp
    · exact hgap.blank blank (by simp)
    · rw [lineAt?_line_add, hlines, List.getElem?_append_right (Nat.le_refl _), Nat.sub_self]
      rfl
    · rw [fencesAbove_line_add, hlines, List.take_left, hnone]
      exact heven
  · rintro ⟨n, hn, ⟨blank, hblank, hisBlank⟩, ⟨line, hline, happart⟩, heven⟩
    obtain ⟨k, rfl⟩ : ∃ k : Nat, n = p.line + (k + 1 : Nat) := ⟨(n - p.line - 1).toNat, by omega⟩
    rw [show p.line + (k + 1 : Nat) - 1 = p.line + (k : Nat) by omega, lineAt?_line_add] at hblank
    rw [lineAt?_line_add] at hline
    have hk : k < p.lines.length := (List.getElem?_eq_some_iff.1 hblank).1
    have hk' : k + 1 < p.lines.length := (List.getElem?_eq_some_iff.1 hline).1
    have htake : p.lines.take (k + 1) = p.lines.take k ++ [blank] := by
      rw [List.take_add_one, hblank]
      rfl
    refine ⟨p.lines.take k, [blank], line, p.lines.drop (k + 2), ?_, ⟨?_, List.cons_ne_nil _ _, ?_, happart⟩, ?_⟩
    · intro hnil
      have hlength := congrArg List.length hnil
      rw [List.length_take, List.length_nil] at hlength
      omega
    · have hdrop : p.lines.drop (k + 1) = line :: p.lines.drop (k + 2) := by
        rw [List.drop_eq_getElem_cons hk', (List.getElem?_eq_some_iff.1 hline).2]
      rw [← List.append_assoc, ← htake, ← hdrop, List.take_append_drop]
    · exact List.forall_mem_singleton.2 hisBlank
    · rw [fencesAbove_line_add, htake, List.countP_append,
        List.countP_singleton, if_neg (by rw [isFence_of_isBlankLine hisBlank]; exact Bool.false_ne_true),
        Nat.add_zero] at heven
      exact heven

end Passage

/-- A line behind a blank one that begins a block of an item if the item holds it. -/
structure IsBehindGap (lines : List Line) (k : Nat) : Prop where
  blank : ∃ l, lines[k]? = some l ∧ isBlankLine l = true
  apart : ∃ l, lines[k + 1]? = some l ∧ IsApart l

section

variable {ctx : Context} {line : Int} {first content : Line} {lines rest : List Line}

theorem IsBehindGap.of_cons {k : Nat} (h : IsBehindGap (first :: rest) k) (hfirst : isBlankLine first = false) :
    ∃ j, k = j + 1 ∧ IsBehindGap rest j := by
  cases k with
  | succ j => exact ⟨j, rfl, h.blank, h.apart⟩
  | zero =>
      obtain ⟨l, hl, hblank⟩ := h.blank
      cases hl
      rw [hfirst] at hblank
      cases hblank

theorem isBlankLine_of_quoteTail {k : Nat} {l : Line}
    (hk : k < (quoteTail (!isBlankLine content) rest).length) (hl : rest[k]? = some l) : isBlankLine l = false := by
  have htail := List.getElem?_eq_getElem hk
  obtain ⟨_, line, _, hline, htake⟩ := Layer.quote.take?_of_tail htail
  rw [hl] at hline
  cases hline
  exact Layer.isBlankLine_of_quote_take? htake

/-- Behind a blank line an item takes only lines indented like its content. -/
theorem le_of_itemTail {column k : Nat} (hcolumn : 2 ≤ column)
    (hk : k + 1 < (itemTail column (!isBlankLine content) rest).length) : ¬IsBehindGap rest k := by
  rintro ⟨⟨blank, hblank, hisBlank⟩, l, hl, hapart⟩
  have htail := List.getElem?_eq_getElem hk
  obtain ⟨above, line, habove, hline, htake⟩ := (Layer.item column).take?_of_tail htail
  obtain ⟨_, outer, _, houter, htakeAbove⟩ := (Layer.item column).take?_of_tail habove
  rw [hl] at hline
  cases hline
  rw [hblank] at houter
  cases houter
  rw [Layer.isBlankLine_of_take? htakeAbove, hisBlank, Bool.not_true, Layer.take?_false, Layer.own?,
    if_neg (by simp [hapart.full]), if_neg (by have := hapart.indent; omega)] at htake
  cases htake

theorem exists_sibling?_of_readItems {bullet : Bullet} {items : Items}
    (h : readItems ctx bullet line lines = .ok items) (hlines : 0 < items.lines) :
    ∃ first rest m, lines = first :: rest ∧ sibling? bullet first = some m := by
  rw [readItems.eq_def] at h
  split at h
  · cases h
    exact absurd hlines (Nat.lt_irrefl 0)
  · rename_i first rest
    split at h
    · cases h
      exact absurd hlines (Nat.lt_irrefl 0)
    · rename_i m hm
      exact ⟨first, rest, m, rfl, hm⟩

/-- A list holds no line that begins a block beside it behind a gap. -/
theorem not_isBehindGap_of_readItems {bullet : Bullet} {items : Items} {k : Nat}
    (h : readItems ctx bullet line lines = .ok items) (hk : k + 1 < items.lines) : ¬IsBehindGap lines k := by
  fun_induction readItems ctx bullet line lines generalizing items k with
  | case1 =>
      cases h
      exact absurd hk (Nat.not_lt_zero _)
  | case2 =>
      cases h
      exact absurd hk (Nat.not_lt_zero _)
  | case3 line first rest m hm tail kept trailing =>
      rename_i after ih
      obtain ⟨children, _, h⟩ := exists_of_bind_eq_ok h
      obtain ⟨later, hlater, h⟩ := exists_of_bind_eq_ok h
      cases h
      intro hbehind
      have hmarker := marker?_of_sibling? hm
      obtain ⟨j, rfl, hgap⟩ := hbehind.of_cons (isBlankLine_of_marker? hmarker)
      have hafter (i : Nat) : after[i]? = rest[tail.length + i]? := List.getElem?_drop
      rcases Nat.lt_trichotomy (j + 1) tail.length with hlt | heq | hgt
      · exact le_of_itemTail (two_le_column hmarker) hlt hgap
      · -- The line behind the item begins the next one, and so has a marker.
        obtain ⟨next, others, m', hnext, hm'⟩ := exists_sibling?_of_readItems hlater (by simp only at hk; omega)
        obtain ⟨l, hl, hapart⟩ := hgap.apart
        have hhead := hafter 0
        rw [Nat.add_zero, ← heq, hl, hnext] at hhead
        cases hhead
        have hnone := hapart.marker
        rw [marker?_of_sibling? hm'] at hnone
        cases hnone
      · obtain ⟨i, rfl⟩ : ∃ i, j = tail.length + i := ⟨j - tail.length, by omega⟩
        refine ih hlater (show i + 1 < later.lines by simp only at hk; omega) ⟨?_, ?_⟩
        · rw [hafter]
          exact hgap.blank
        · rw [hafter]
          exact hgap.apart

/-- A block that goes on behind a gap is fenced code. -/
theorem fenced_of_isBehindGap {taken : Taken} {k : Nat} (h : readBlock ctx line first rest = .ok taken)
    (hk : k + 1 < taken.more) (hgap : IsBehindGap rest k) :
    ∃ loc code info, taken.node = .leaf loc (.codeBlock code info true) := by
  obtain ⟨blank, hblank, hisBlank⟩ := hgap.blank
  obtain ⟨l, hl, hapart⟩ := hgap.apart
  have htakeWhile {q : Line → Bool} {j : Nat} {l : Line} (hj : j < (rest.takeWhile q).length)
      (hl : rest[j]? = some l) : q l = true := by
    have hmem : l ∈ rest.takeWhile q := by
      rw [List.prefix_iff_getElem?.1 (List.takeWhile_prefix q) j hj] at hl
      cases hl
      exact List.getElem_mem hj
    exact List.all_eq_true.1 List.all_takeWhile l hmem
  rw [readBlock_eq] at h
  cases hopener : opener first with
  | fence f =>
      rw [hopener] at h
      cases h
      exact ⟨_, _, _, rfl⟩
  | atx level content =>
      rw [hopener] at h
      cases h
      exact absurd hk (Nat.not_lt_zero _)
  | thematic =>
      rw [hopener] at h
      cases h
      exact absurd hk (Nat.not_lt_zero _)
  | indented =>
      rw [hopener] at h
      cases h
      have hcode := htakeWhile hk hl
      have hindent := hapart.indent
      rw [isCodeLine, hapart.full, Bool.false_or, decide_eq_true_eq, codeIndent] at hcode
      exact absurd hapart.indent (by omega)
  | html =>
      rw [hopener] at h
      cases h
      have hfull := htakeWhile (Nat.lt_of_succ_lt hk) hblank
      rw [hisBlank] at hfull
      cases hfull
  | quote inner =>
      rw [hopener] at h
      obtain ⟨children, _, h⟩ := exists_of_bind_eq_ok h
      cases h
      rw [isBlankLine_of_quoteTail (Nat.lt_of_succ_lt hk) hblank] at hisBlank
      cases hisBlank
  | item m =>
      rw [hopener] at h
      obtain ⟨items, hitems, h⟩ := exists_of_bind_eq_ok h
      cases h
      exact absurd ⟨hgap.blank, hgap.apart⟩
        (not_isBehindGap_of_readItems hitems (k := k + 1) (by simp only at hk; omega))
  | text =>
      rw [hopener] at h
      cases h
      have hk' : k < (paragraphTail rest).1.length := by
        have hunderline : (paragraphTail rest).2.toList.length ≤ 1 := by
          cases (paragraphTail rest).2 <;> simp
        rw [more_paragraphBlock] at hk
        omega
      have hfull := (paragraphTail_eq_map rest).2 blank
        (List.mem_iff_getElem?.2 ⟨k, by rw [List.getElem?_take_of_lt hk', hblank]⟩)
      rw [hisBlank] at hfull
      cases hfull

end

end MarkdownOutline.Block
