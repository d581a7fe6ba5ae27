import MarkdownOutline.Proofs.Block.Gap

namespace MarkdownOutline.Block

section

variable {ctx : Context} {p : Passage} {line : Int} {lines : List Line} {nodes : List Node}

/-- The first block begins at the first line, or a blank line is above it. -/
theorem head_readBlocks {node : Node} {others : List Node} (h : readBlocks ctx line lines = .ok (node :: others))
    (hp : p.since line = lines) : ∃ n first rest more, line ≤ n ∧ p.since n = first :: rest ∧
      isBlankLine first = false ∧ readBlock ctx n first rest = .ok ⟨node, more⟩ ∧ (n = line ∨ p.IsBlankAt (n - 1)) := by
  fun_induction readBlocks ctx line lines with
  | case1 => cases h
  | case2 line first rest hblank ih =>
      obtain ⟨n, first', rest', more, hn, hsince, hfull, hread, habove⟩ := ih h (Passage.since_succ hp)
      refine ⟨n, first', rest', more, by omega, hsince, hfull, hread, .inr ?_⟩
      rcases habove with rfl | habove
      · rw [Int.add_sub_cancel]
        exact ⟨first, Passage.lineAt?_of_since hp, hblank⟩
      · exact habove
  | case3 line first rest hblank ih =>
      obtain ⟨block, hblock, h⟩ := exists_of_bind_eq_ok h
      obtain ⟨blocks, _, h⟩ := exists_of_bind_eq_ok h
      cases h
      exact ⟨line, first, rest, block.more, Int.le_refl _, hp, Bool.eq_false_iff.2 hblank, hblock, .inl rfl⟩

variable (hinner : ∀ line lines nodes, ctx.inner line lines = .ok nodes → Lays line lines nodes)
include hinner

/-- A line that begins a block behind a gap is the first of one, or lies in fenced code. -/
theorem exists_block_of_isApart {n : Int} {l : Line} (h : readBlocks ctx line lines = .ok nodes)
    (hp : p.since line = lines) (hline : p.line ≤ line) (hn : line ≤ n) (hl : p.lineAt? n = some l)
    (hapart : IsApart l) (habove : n = line ∨ p.IsBlankAt (n - 1)) : ∃ node ∈ nodes, node.loc.line = n ∨
      (∃ loc code info, node = .leaf loc (.codeBlock code info true)) ∧ node.loc.line < n ∧ n ≤ node.loc.last := by
  have hfull := hapart.full
  fun_induction readBlocks ctx line lines generalizing nodes with
  | case1 line =>
      obtain ⟨k, rfl⟩ : ∃ k : Nat, n = line + k := ⟨(n - line).toNat, by omega⟩
      rw [Passage.lineAt?_add hline, hp] at hl
      cases hl
  | case2 line first rest hblank ih =>
      have hne : n ≠ line := by
        rintro rfl
        rw [Passage.lineAt?_of_since hp] at hl
        cases hl
        rw [hblank] at hfull
        cases hfull
      exact ih h (Passage.since_succ hp) (by omega) (by omega) (.inr (habove.resolve_left hne))
  | case3 line first rest hblank ih =>
      obtain ⟨block, hblock, h⟩ := exists_of_bind_eq_ok h
      obtain ⟨blocks, hblocks, h⟩ := exists_of_bind_eq_ok h
      cases h
      have hspans := spans_readBlock hinner hblock
      have hfirst := hspans.first
      have hlast := hspans.last
      by_cases hbegin : n = line
      · exact ⟨block.node, List.mem_cons_self .., .inl (by omega)⟩
      have hgap := habove.resolve_left hbegin
      by_cases hbehind : line + block.more < n
      · obtain ⟨node, hnode, hplace⟩ :=
          ih block hblocks (Passage.since_skip hp block.more) (by omega) (by omega) (.inr hgap)
        exact ⟨node, List.mem_cons_of_mem _ hnode, hplace⟩
      -- The line lies in the block, behind a blank line that is not the first.
      have habove' := Passage.ne_of_isBlankAt hp (Bool.eq_false_iff.2 hblank) hgap
      obtain ⟨k, rfl⟩ : ∃ k : Nat, n = line + 1 + (k + 1 : Nat) := ⟨(n - line - 2).toNat, by omega⟩
      rw [Passage.lineAt?_behind hp] at hl
      rw [show line + 1 + (k + 1 : Nat) - 1 = line + 1 + (k : Nat) by omega] at hgap
      obtain ⟨blank, hat, hisBlank⟩ := hgap
      rw [Passage.lineAt?_behind hp] at hat
      have hcode := fenced_of_isBehindGap hblock (k := k) (by omega) ⟨⟨blank, hat, hisBlank⟩, l, hl, hapart⟩
      exact ⟨block.node, List.mem_cons_self .., .inr ⟨hcode, by omega, by omega⟩⟩

/-- Between paragraphs side by side is a blank line. -/
theorem blank_between_paragraphs {front back cs ds : List Node} {c d : Location}
    (h : readBlocks ctx line lines = .ok nodes) (hp : p.since line = lines)
    (hnodes : nodes = front ++ .branch c .paragraph cs :: .branch d .paragraph ds :: back) :
    p.IsBlankAt (d.line - 1) ∧ c.line + 1 < d.line ∧
      ∃ l, p.lineAt? d.line = some l ∧ isBlankLine l = false ∧ IsText l := by
  fun_induction readBlocks ctx line lines generalizing nodes front with
  | case1 =>
      cases h
      simp at hnodes
  | case2 line first rest hblank ih => exact ih h (Passage.since_succ hp) hnodes
  | case3 line first rest hblank ih =>
      obtain ⟨block, hblock, h⟩ := exists_of_bind_eq_ok h
      obtain ⟨blocks, hblocks, h⟩ := exists_of_bind_eq_ok h
      cases h
      have hbehind := Passage.since_skip hp block.more
      cases front with
      | cons node front =>
          obtain ⟨-, rfl⟩ := List.cons.inj hnodes
          exact ih block hblocks hbehind rfl
      | nil =>
          obtain ⟨hc, rfl⟩ := List.cons.inj hnodes
          obtain ⟨node, more⟩ := block
          cases hc
          have hline := (spans_readBlock hinner hblock).first
          have hc := readsParagraph_of_readBlock hblock
          obtain ⟨n, first', rest', more', hn, hsince, hfull, hread, habove⟩ := head_readBlocks hblocks hbehind
          have htext := (readsParagraph_of_readBlock hread).text
          have hd := (spans_readBlock hinner hread).first
          simp only [Node.loc] at hline hd
          rw [hd, hline]
          -- Without a blank line between them the second would have gone on with the first.
          have hgap : p.IsBlankAt (n - 1) := by
            refine habove.resolve_left ?_
            rintro rfl
            have hhead : (rest.drop (paragraphTail rest).1.length).head? = some first' := by
              rw [← hc.more, hbehind.symm.trans hsince]
              rfl
            rcases stop_of_paragraphTail hc.level first' hhead with hstop | hstop
            · rw [hfull] at hstop
              cases hstop
            · rw [htext.startsBlock_eq_false] at hstop
              cases hstop
          refine ⟨hgap, ?_, first', Passage.lineAt?_of_since hsince, hfull, htext⟩
          have hne := Passage.ne_of_isBlankAt hp (Bool.eq_false_iff.2 hblank) hgap
          omega

end

end MarkdownOutline.Block
