import MarkdownOutline.Proofs.Block.Beginning
import MarkdownOutline.Proofs.Block.Tiling

namespace MarkdownOutline

def Node.IsParagraph (node : Node) : Prop := ∃ loc children, node = .branch loc .paragraph children

namespace Block

open Text

section

variable {ctx : Context} {line : Int} {first l : Line} {rest lines : List Line} {nodes : List Node}

theorem not_isParagraph_of_startsBlock {taken : Taken} (hstarts : startsBlock first = true)
    (h : readBlock ctx line first rest = .ok taken) : ¬taken.node.IsParagraph := by
  obtain ⟨node, more⟩ := taken
  rintro ⟨loc, children, rfl⟩
  have htext := (readsParagraph_of_readBlock h).text
  rw [htext.startsBlock_eq_false] at hstarts
  cases hstarts

/-- A line right behind a paragraph interrupts it and begins the next block, unless it is blank. -/
def EndsAt (p : Passage) (loc : Location) (behind : List Node) : Prop :=
  ∀ l, p.lineAt? (loc.last + 1) = some l → isBlankLine l = false →
    startsBlock l = true ∧
      ∃ next others, behind = next :: others ∧ next.loc.line = loc.last + 1 ∧ ¬next.IsParagraph

def ParagraphsEnd (p : Passage) (nodes : List Node) : Prop :=
  ∀ front loc children back, nodes = front ++ .branch loc .paragraph children :: back → EndsAt p loc back

theorem ParagraphsEnd.cons {p : Passage} {node : Node} (h : ParagraphsEnd p nodes)
    (hnode : ∀ loc children, node = .branch loc .paragraph children → EndsAt p loc nodes) :
    ParagraphsEnd p (node :: nodes) := by
  intro front loc children back hnodes
  cases front with
  | nil =>
      obtain ⟨hloc, rfl⟩ := List.cons.inj hnodes
      exact hnode loc children hloc
  | cons other front => exact h front loc children back (List.cons.inj hnodes).2

section

variable (hinner : ∀ line lines nodes, ctx.inner line lines = .ok nodes → Lays line lines nodes)
include hinner

theorem exists_next (hl : isBlankLine l = false) (hstarts : startsBlock l = true)
    (h : readBlocks ctx line (l :: rest) = .ok nodes) :
    ∃ next others, nodes = next :: others ∧ next.loc.line = line ∧ ¬next.IsParagraph := by
  rw [readBlocks, hl, if_neg Bool.false_ne_true] at h
  obtain ⟨block, hblock, h⟩ := exists_of_bind_eq_ok h
  obtain ⟨blocks, _, h⟩ := exists_of_bind_eq_ok h
  cases h
  exact ⟨block.node, blocks, rfl, (spans_readBlock hinner hblock).first, not_isParagraph_of_startsBlock hstarts hblock⟩

theorem paragraphsEnd_readBlocks {p : Passage} (h : readBlocks ctx line lines = .ok nodes)
    (hp : p.since line = lines) : ParagraphsEnd p nodes := by
  fun_induction readBlocks ctx line lines generalizing nodes with
  | case1 =>
      cases h
      intro front loc children back hnodes
      simp at hnodes
  | case2 line first rest hblank ih => exact ih h (Passage.since_succ hp)
  | case3 line first rest hblank ih =>
      obtain ⟨block, hblock, h⟩ := exists_of_bind_eq_ok h
      obtain ⟨blocks, hblocks, h⟩ := exists_of_bind_eq_ok h
      cases h
      have hbehind := Passage.since_skip hp block.more
      refine (ih block hblocks hbehind).cons fun loc children hnode l hl hfull => ?_
      have hlast := (spans_readBlock hinner hblock).last
      obtain ⟨node, more⟩ := block
      cases hnode
      have hnext : loc.last + 1 = line + 1 + more := by
        simp only [Node.loc] at hlast
        omega
      rw [hnext] at hl ⊢
      have hhead : (rest.drop more).head? = some l := by
        rw [← hbehind]
        exact hl
      have hparagraph := readsParagraph_of_readBlock hblock
      have hstop := stop_of_paragraphTail hparagraph.level l (by rw [← hparagraph.more]; exact hhead)
      have hstarts := hstop.resolve_left (Bool.eq_false_iff.1 hfull)
      obtain ⟨rest', hrest⟩ := List.head?_eq_some_iff.1 hhead
      rw [hrest] at hblocks
      exact ⟨hstarts, exists_next hinner hfull hstarts hblocks⟩

end

variable {settings : Settings} {file : Option String}

theorem paragraphsEnd_readTitled {room : Nat}
    (h : readTitled (contextWithin settings file room) line lines = .ok nodes) :
    ParagraphsEnd ⟨line, lines⟩ nodes := by
  have hinner := lays_readWithin settings file room
  have hsince := Passage.since_line ⟨line, lines⟩
  simp only [readTitled] at h
  split at h
  · exact paragraphsEnd_readBlocks hinner h hsince
  · obtain ⟨blocks, hblocks, h⟩ := exists_of_bind_eq_ok h
    cases h
    refine ParagraphsEnd.cons ?_ fun loc children hnode => by cases hnode
    refine paragraphsEnd_readBlocks hinner hblocks ?_
    rw [Passage.since_add (Int.le_refl line), hsince]

theorem paragraphsEnd_readWithin {room : Nat} (h : readWithin settings file room line lines = .ok nodes) :
    ParagraphsEnd ⟨line, dropEmptyLast lines⟩ nodes := by
  cases room with
  | zero => cases h
  | succ room =>
      rw [readWithin_succ, readLevel] at h
      split at h
      · exact paragraphsEnd_readTitled h
      · exact paragraphsEnd_readBlocks (lays_readWithin settings file room) h (Passage.since_line ⟨line, _⟩)

end

def textPassage (offset : Int) (text : List Char) : Passage :=
  ⟨offset + 1, (dropEmptyLast (splitLines text)).map fun line => expandTabs line⟩

theorem lineAt?_textPassage (offset : Int) (text : List Char) (k : Nat) :
    (textPassage offset text).lineAt? (offset + 1 + k) =
      ((dropEmptyLast (splitLines text))[k]?).map fun line => expandTabs line := by
  rw [← List.getElem?_map]
  exact Passage.lineAt?_line_add (textPassage offset text) k

theorem getElem?_of_dropEmptyLast {lines : List Line} {k : Nat} {line : Line}
    (hk : (dropEmptyLast lines)[k]? = some line) : lines[k]? = some line := by
  rcases dropEmptyLast_cases lines with hlines | hlines
  · rw [hlines]
    exact hk
  · rw [hlines, List.getElem?_append_left (List.getElem?_eq_some_iff.1 hk).1]
    exact hk

section

variable {settings : Settings} {file : Option String} {offset depth : Int} {text : List Char} {blocks : List Node}
  (h : readAt settings file offset depth text = .ok blocks)
include h

theorem paragraphsEnd_readAt : ParagraphsEnd (textPassage offset text) blocks := by
  rw [textPassage, ← dropEmptyLast_expandTabs]
  exact paragraphsEnd_readWithin h

/-- The line behind a paragraph begins none, so a paragraph further down has a blank line in front of it. -/
theorem blank_behind_paragraph {front back cs ds : List Node} {c d : Location}
    (hblocks : blocks = front ++ .branch c .paragraph cs :: .branch d .paragraph ds :: back) :
    ∃ (k : Nat) (line : Line), (splitLines text)[k]? = some line ∧ isBlankLine line = true ∧
      c.last < offset + 1 + k ∧ offset + 1 + k < d.line := by
  have htiles := tiles_readAt h
  have hstacked := htiles.stacked.pairwise
  rw [hblocks, List.pairwise_append, List.pairwise_cons] at hstacked
  have hbefore : c.last < d.line := (hstacked.2.1.1 _ (List.mem_cons_self ..)).last
  obtain ⟨hvalid, i, -, -, -, hfirst⟩ := htiles.exists_first (.branch c .paragraph cs) (by simp [hblocks])
  obtain ⟨-, j, l, hj, hfull, hline⟩ := htiles.exists_first (.branch d .paragraph ds) (by simp [hblocks])
  simp only [Node.loc] at hvalid hfirst hline
  obtain ⟨k, hk⟩ : ∃ k : Nat, c.last + 1 = offset + 1 + k := ⟨(c.last - offset).toNat, by omega⟩
  have hle : k ≤ j := by omega
  rw [List.getElem?_map, Option.map_eq_some_iff] at hj
  obtain ⟨raw, hraw, rfl⟩ := hj
  obtain ⟨behind, hbehind⟩ : ∃ behind, (dropEmptyLast (splitLines text))[k]? = some behind :=
    ⟨_, List.getElem?_eq_getElem (Nat.lt_of_le_of_lt hle (List.getElem?_eq_some_iff.1 hraw).1)⟩
  have hblank : isBlankLine (expandTabs behind) = true := by
    rw [← Bool.not_eq_false]
    intro hfull
    have hat : (textPassage offset text).lineAt? (c.last + 1) = some (expandTabs behind) := by
      rw [hk, lineAt?_textPassage, hbehind]
      rfl
    obtain ⟨-, next, others, hnext, -, hother⟩ := paragraphsEnd_readAt h front c cs _ hblocks _ hat hfull
    exact hother ⟨d, ds, (List.cons.inj hnext).1.symm⟩
  have hne : k ≠ j := by
    rintro rfl
    rw [hraw] at hbehind
    cases hbehind
    rw [hblank] at hfull
    cases hfull
  rw [isBlankLine_expandTabs] at hblank
  exact ⟨k, behind, getElem?_of_dropEmptyLast hbehind, hblank, by omega, by omega⟩

/-- Between two paragraphs side by side is a blank line. Where a paragraph stops in front of a line that is not
blank, this line interrupts it, and the block that begins there is none; no line that interrupts a paragraph is
ever read as the first of one. -/
theorem paragraphs_parted :
    (∀ (front back cs ds : List Node) (c d : Location),
      blocks = front ++ .branch c .paragraph cs :: .branch d .paragraph ds :: back →
      ∃ (k : Nat) (line : Line), (splitLines text)[k]? = some line ∧ isBlankLine line = true ∧
        c.last < offset + 1 + k ∧ offset + 1 + k < d.line) ∧
    (∀ (front back cs : List Node) (c : Location), blocks = front ++ .branch c .paragraph cs :: back →
      ∀ (k : Nat) (line : Line), (splitLines text)[k]? = some line → isBlankLine line = false →
        offset + 1 + k = c.last + 1 →
        startsBlock (expandTabs line) = true ∧
          ∃ next others, back = next :: others ∧ next.loc.line = offset + 1 + k ∧ ¬next.IsParagraph) ∧
    ∀ (ctx : Context) (n : Int) (first : Line) (rest : List Line) (taken : Taken), startsBlock first = true →
      readBlock ctx n first rest = .ok taken → ¬taken.node.IsParagraph := by
  refine ⟨fun front back cs ds c d hblocks => blank_behind_paragraph h hblocks, ?_,
    fun ctx n first rest taken hstarts hread => not_isParagraph_of_startsBlock hstarts hread⟩
  intro front back cs c hblocks k line hk hfull hline
  have hat : (textPassage offset text).lineAt? (c.last + 1) = some (expandTabs line) := by
    rw [← hline, lineAt?_textPassage, (getElem?_dropEmptyLast hfull).2 hk]
    rfl
  rw [hline]
  exact paragraphsEnd_readAt h front c cs back hblocks _ hat ((isBlankLine_expandTabs line).trans hfull)

end

/-- An indented line and the number two interrupt no paragraph, a quote does. -/
def partedText : List Char := "a
    b
2. c
> d
 
e
	
f
".toList

def partedBlocks : List Node :=
  [.branch ⟨1, 1, some 3, none⟩ .paragraph
      [.leaf ⟨1, 1, some 3, none⟩ (.text "a"), .leaf ⟨1, 1, some 3, none⟩ .softBreak,
        .leaf ⟨1, 1, some 3, none⟩ (.text "b"), .leaf ⟨1, 1, some 3, none⟩ .softBreak,
        .leaf ⟨1, 1, some 3, none⟩ (.text "2. c")],
    .branch ⟨4, 1, some 4, none⟩ .blockQuote
      [.branch ⟨4, 1, some 4, none⟩ .paragraph [.leaf ⟨4, 1, some 4, none⟩ (.text "d")]],
    .branch ⟨6, 1, some 6, none⟩ .paragraph [.leaf ⟨6, 1, some 6, none⟩ (.text "e")],
    .branch ⟨8, 1, some 8, none⟩ .paragraph [.leaf ⟨8, 1, some 8, none⟩ (.text "f")]]

theorem partedBlocks_parted :
    readAt {} none 0 0 partedText = .ok partedBlocks ∧
      (∃ (k : Nat) (line : Line), (splitLines partedText)[k]? = some line ∧ isBlankLine line = true ∧
        6 < 0 + 1 + (k : Int) ∧ 0 + 1 + (k : Int) < 8) ∧
      startsBlock (expandTabs "> d".toList) = true := by
  have hread : readAt {} none 0 0 partedText = .ok partedBlocks := ok_of_toOption (by decide +kernel)
  have hparted := paragraphs_parted hread
  exact ⟨hread, hparted.1 (partedBlocks.take 2) [] _ _ ⟨6, 1, some 6, none⟩ ⟨8, 1, some 8, none⟩ rfl,
    (hparted.2.1 [] (partedBlocks.drop 1) _ ⟨1, 1, some 3, none⟩ rfl 3 "> d".toList (by decide) (by decide) (by decide)).1⟩

end Block

end MarkdownOutline
