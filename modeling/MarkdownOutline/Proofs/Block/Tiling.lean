import MarkdownOutline.Proofs.Block.Opener

namespace MarkdownOutline

namespace Node

def liesOn (node : Node) (line : Int) : Bool := node.loc.line ≤ line && line ≤ node.loc.last

theorem liesOn_eq_true_iff {node : Node} {line : Int} :
    node.liesOn line = true ↔ node.loc.line ≤ line ∧ line ≤ node.loc.last := by
  simp [liesOn]

end Node

namespace Block

open Text

/-- Lines with blocks on them, where the first line of each block is not blank and only blank lines are in no
block. -/
inductive Tiles : Int → List Line → List Node → Prop
  | nil {line : Int} : Tiles line [] []
  | blank {line : Int} {first : Line} {rest : List Line} {blocks : List Node} : isBlankLine first = true →
      Tiles (line + 1) rest blocks → Tiles line (first :: rest) blocks
  | block {line : Int} {first : Line} {rest : List Line} {node : Node} {more : Nat} {blocks : List Node} :
      isBlankLine first = false → node.loc.line = line → node.loc.last = line + more → more ≤ rest.length →
      Tiles (line + 1 + more) (rest.drop more) blocks → Tiles line (first :: rest) (node :: blocks)

namespace Tiles

variable {line : Int} {lines : List Line} {blocks : List Node}

theorem stacked (h : Tiles line lines blocks) : Stacked line (line + lines.length) blocks := by
  induction h with
  | nil => exact .nil
  | blank _ _ ih =>
      refine ih.widen (by omega) ?_
      rw [List.length_cons]
      omega
  | @block line first rest node more blocks _ hfirst hlast hmore _ ih =>
      refine .cons (Int.le_of_eq hfirst.symm) (by omega) (by omega) ?_ (ih.widen (Int.le_refl _) ?_)
      · rw [List.length_cons]
        omega
      · rw [List.length_drop, List.length_cons]
        omega

theorem exists_first (h : Tiles line lines blocks) : ∀ b ∈ blocks, b.loc.line ≤ b.loc.last ∧
    ∃ (k : Nat) (l : Line), lines[k]? = some l ∧ isBlankLine l = false ∧ b.loc.line = line + k := by
  induction h with
  | nil => exact fun _ hb => (List.not_mem_nil hb).elim
  | blank _ _ ih =>
      intro b hb
      obtain ⟨hvalid, k, l, hk, hl, hline⟩ := ih b hb
      exact ⟨hvalid, k + 1, l, hk, hl, by omega⟩
  | @block line first rest node more blocks hfull hfirst hlast hmore _ ih =>
      refine List.forall_mem_cons.2 ⟨⟨by omega, 0, first, rfl, hfull, by omega⟩, fun b hb => ?_⟩
      obtain ⟨hvalid, k, l, hk, hl, hline⟩ := ih b hb
      rw [List.getElem?_drop] at hk
      exact ⟨hvalid, more + k + 1, l, hk, hl, by omega⟩

/-- A line that is not blank is in one block and in no other. -/
theorem countP_liesOn (h : Tiles line lines blocks) {k : Nat} {l : Line} (hk : lines[k]? = some l)
    (hl : isBlankLine l = false) : blocks.countP (fun b => b.liesOn (line + k)) = 1 := by
  induction h generalizing k with
  | nil => cases hk
  | @blank line first rest blocks hblank _ ih =>
      cases k with
      | zero =>
          cases hk
          rw [hblank] at hl
          cases hl
      | succ k =>
          rw [Int.natCast_succ, Int.add_comm (k : Int) 1, ← Int.add_assoc]
          exact ih hk
  | @block line first rest node more blocks _ hfirst hlast hmore hrest ih =>
      by_cases hin : k ≤ more
      · have hnode : node.liesOn (line + k) = true := Node.liesOn_eq_true_iff.2 ⟨by omega, by omega⟩
        have hlater : blocks.countP (fun b => b.liesOn (line + k)) = 0 := by
          refine List.countP_eq_zero.2 fun b hb hlies => ?_
          have hbounds := hrest.stacked.bounds b hb
          have hlies := Node.liesOn_eq_true_iff.1 hlies
          omega
        rw [List.countP_cons, hlater, if_pos hnode]
      -- Below the block its lines are those that the blocks behind it tile.
      · obtain ⟨j, rfl⟩ := Nat.exists_eq_add_of_lt (Nat.lt_of_not_le hin)
        have hnode : ¬node.liesOn (line + (more + j + 1 : Nat)) = true := by
          rw [Node.liesOn_eq_true_iff]
          omega
        have hline : line + (more + j + 1 : Nat) = line + 1 + more + j := by omega
        rw [List.countP_cons, if_neg hnode, hline]
        refine ih ?_
        rw [List.getElem?_drop]
        exact hk

end Tiles

theorem isBlankLine_of_titleLine? {first text : Line} (h : titleLine? first = some text) :
    isBlankLine first = false := by
  cases hblank : isBlankLine first with
  | false => rfl
  | true =>
      rw [titleLine?_of_isBlankLine hblank] at h
      cases h

section

variable {settings : Settings} {file : Option String} {room : Nat} {line : Int} {lines : List Line}
  {nodes : List Node}

theorem tiles_readBlocks (h : readBlocks (contextWithin settings file room) line lines = .ok nodes) :
    Tiles line lines nodes := by
  fun_induction readBlocks (contextWithin settings file room) line lines generalizing nodes with
  | case1 =>
      cases h
      exact .nil
  | case2 line first rest hblank ih => exact .blank hblank (ih h)
  | case3 line first rest hblank ih =>
      obtain ⟨block, hblock, h⟩ := exists_of_bind_eq_ok h
      obtain ⟨blocks, hblocks, h⟩ := exists_of_bind_eq_ok h
      cases h
      have hspans := spans_readBlock (lays_readWithin settings file room) hblock
      exact .block (Bool.eq_false_iff.2 hblank) hspans.first hspans.last (more_readBlock_le hblock) (ih block hblocks)

theorem tiles_readTitled (h : readTitled (contextWithin settings file room) line lines = .ok nodes) :
    Tiles line lines nodes := by
  cases lines with
  | nil => exact tiles_readBlocks h
  | cons first rest =>
      cases htitle : titleLine? first with
      | none =>
          rw [readTitled, List.map_cons, htitle] at h
          exact tiles_readBlocks h
      | some text =>
          have hparts : ((first :: rest).map titleLine?).takeWhile Option.isSome =
              some text :: (rest.map titleLine?).takeWhile Option.isSome := by
            rw [List.map_cons, htitle]
            rfl
          have hmore : ((rest.map titleLine?).takeWhile Option.isSome).length ≤ rest.length := by
            simpa using (List.takeWhile_prefix (l := rest.map titleLine?) Option.isSome).length_le
          simp only [readTitled, hparts, List.isEmpty_cons, Bool.false_eq_true, if_false] at h
          obtain ⟨blocks, hblocks, h⟩ := exists_of_bind_eq_ok h
          cases h
          refine .block (isBlankLine_of_titleLine? htitle) rfl rfl hmore ?_
          have hline : line + (some text :: (rest.map titleLine?).takeWhile Option.isSome).length =
              line + 1 + ((rest.map titleLine?).takeWhile Option.isSome).length := by
            rw [List.length_cons]
            omega
          rw [hline] at hblocks
          exact tiles_readBlocks hblocks

theorem tiles_readWithin (h : readWithin settings file room line lines = .ok nodes) :
    Tiles line (dropEmptyLast lines) nodes := by
  cases room with
  | zero => cases h
  | succ room =>
      rw [readWithin_succ, readLevel] at h
      split at h
      · exact tiles_readTitled h
      · exact tiles_readBlocks h

end

/-- Tabs are as blank as the spaces that they stand for. -/
theorem isBlankLine_expandTabs (line : Line) : isBlankLine (expandTabs line) = isBlankLine line := by
  have hfrom (column : Nat) : isBlankLine (expandTabsFrom tabWidth column line) = isBlankLine line := by
    induction line generalizing column with
    | nil => rfl
    | cons c cs ih =>
        simp only [isBlankLine, expandTabsFrom, List.all_cons] at ih ⊢
        split
        · rename_i htab
          have hspaces (n : Nat) : (List.replicate n ' ').all isBlank = true :=
            List.all_eq_true.2 fun d hd => List.eq_of_mem_replicate hd ▸ rfl
          have hblank : isBlank c = true := htab ▸ rfl
          rw [List.all_append, ih, hspaces, hblank]
        split
        · rw [List.all_cons, ih]
        · rw [List.all_cons, ih]
  exact hfrom 0

theorem expandTabs_eq_nil_iff {line : Line} : expandTabs line = [] ↔ line = [] := by
  constructor
  · intro h
    cases line with
    | nil => rfl
    | cons c cs =>
        rw [expandTabs, expandTabsFrom] at h
        split at h
        · cases h
        split at h
        · cases h
        · cases h
  · rintro rfl
    rfl

theorem dropEmptyLast_expandTabs (lines : List Line) :
    dropEmptyLast (lines.map fun line => expandTabs line) = (dropEmptyLast lines).map fun line => expandTabs line := by
  have hempty : (lines.map fun line => expandTabs line).getLast? = some [] ↔ lines.getLast? = some [] := by
    simp [List.getLast?_map, expandTabs_eq_nil_iff]
  rw [dropEmptyLast, dropEmptyLast]
  by_cases hlast : lines.getLast? = some []
  · rw [if_pos (beq_iff_eq.2 (hempty.2 hlast)), if_pos (beq_iff_eq.2 hlast), List.map_dropLast]
  · rw [if_neg (mt beq_iff_eq.1 (mt hempty.1 hlast)), if_neg (mt beq_iff_eq.1 hlast)]

theorem getElem?_dropEmptyLast {lines : List Line} {k : Nat} {line : Line} (hline : isBlankLine line = false) :
    (dropEmptyLast lines)[k]? = some line ↔ lines[k]? = some line := by
  rcases dropEmptyLast_cases lines with hlines | hlines
  · rw [← hlines]
  · conv => rhs; rw [hlines]
    rcases Nat.lt_or_ge k (dropEmptyLast lines).length with hk | hk
    · rw [List.getElem?_append_left hk]
    · rw [List.getElem?_append_right hk, List.getElem?_eq_none hk]
      refine iff_of_false (Option.some_ne_none line).symm fun hempty => ?_
      rw [List.mem_singleton.1 (List.mem_of_getElem? hempty)] at hline
      cases hline

theorem tiles_readAt {settings : Settings} {file : Option String} {offset depth : Int} {text : List Char}
    {blocks : List Node} (h : readAt settings file offset depth text = .ok blocks) :
    Tiles (offset + 1) ((dropEmptyLast (splitLines text)).map fun line => expandTabs line) blocks := by
  rw [← dropEmptyLast_expandTabs]
  exact tiles_readWithin h

/-- Wherever a text is read, the lines of its blocks are lines of the text, those of each block behind those of the
one before it. Each line that is not blank is in one block, and each block begins with such a line. -/
theorem blocks_tile {settings : Settings} {file : Option String} {offset depth : Int} {text : List Char}
    {blocks : List Node} (h : readAt settings file offset depth text = .ok blocks) :
    (∀ b ∈ blocks, offset < b.loc.line ∧ b.loc.line ≤ b.loc.last ∧
      b.loc.last ≤ offset + (dropEmptyLast (splitLines text)).length) ∧
    blocks.Pairwise (fun a b => a.loc.last < b.loc.line) ∧
    (∀ (k : Nat) (line : Line), (splitLines text)[k]? = some line → isBlankLine line = false →
      blocks.countP (fun b => b.liesOn (offset + 1 + k)) = 1) ∧
    ∀ b ∈ blocks, ∃ (k : Nat) (line : Line), (splitLines text)[k]? = some line ∧ isBlankLine line = false ∧
      b.loc.line = offset + 1 + k := by
  have htiles := tiles_readAt h
  refine ⟨fun b hb => ?_, htiles.stacked.pairwise.imp fun hbefore => hbefore.last, fun k line hk hline => ?_,
    fun b hb => ?_⟩
  · have hbounds := htiles.stacked.bounds b hb
    rw [List.length_map] at hbounds
    exact ⟨by omega, (htiles.exists_first b hb).1, by omega⟩
  · have hkept := (getElem?_dropEmptyLast hline).2 hk
    refine htiles.countP_liesOn ?_ ((isBlankLine_expandTabs line).trans hline)
    rw [List.getElem?_map, hkept, Option.map_some]
  · obtain ⟨_, k, expanded, hk, hfull, hline⟩ := htiles.exists_first b hb
    rw [List.getElem?_map, Option.map_eq_some_iff] at hk
    obtain ⟨line, hk, rfl⟩ := hk
    rw [isBlankLine_expandTabs] at hfull
    exact ⟨k, line, (getElem?_dropEmptyLast hfull).1 hk, hfull, hline⟩

def tiledText : List Char := "% t\n\ta\n\n\tb\n\n> c\nd\n \n~~~\n\n".toList

/-- The line behind the quote is in no block, the blank line below the code is in its block. -/
def tiledBlocks : List Node :=
  [.branch ⟨4, 1, some 4, none⟩ (.heading { isTitle := true, style := .title })
      [.leaf ⟨4, 1, some 4, none⟩ (.text "t")],
    .leaf ⟨5, 1, some 8, none⟩ (.codeBlock "a\n\nb\n" none false),
    .branch ⟨9, 1, some 10, none⟩ .blockQuote
      [.branch ⟨9, 1, some 10, none⟩ .paragraph
        [.leaf ⟨9, 1, some 10, none⟩ (.text "c"), .leaf ⟨9, 1, some 10, none⟩ .softBreak,
          .leaf ⟨9, 1, some 10, none⟩ (.text "d")]],
    .leaf ⟨12, 1, some 13, none⟩ (.codeBlock "\n" none true)]

theorem tiledBlocks_tile : readAt {} none 3 0 tiledText = .ok tiledBlocks ∧
    (∀ b ∈ tiledBlocks, 3 < b.loc.line ∧ b.loc.line ≤ b.loc.last ∧ b.loc.last ≤ 13) ∧
    tiledBlocks.Pairwise (fun a b => a.loc.last < b.loc.line) ∧
    (∀ (k : Nat) (line : Line), (splitLines tiledText)[k]? = some line → isBlankLine line = false →
      tiledBlocks.countP (fun b => b.liesOn (3 + 1 + k)) = 1) ∧
    ∀ b ∈ tiledBlocks, ∃ (k : Nat) (line : Line), (splitLines tiledText)[k]? = some line ∧
      isBlankLine line = false ∧ b.loc.line = 3 + 1 + k := by
  have hread : readAt {} none 3 0 tiledText = .ok tiledBlocks := ok_of_toOption (by decide +kernel)
  exact ⟨hread, blocks_tile hread⟩

end Block

end MarkdownOutline
