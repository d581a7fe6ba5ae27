import MarkdownOutline.Proofs.Block.Blank
import MarkdownOutline.Proofs.Inline.Runs

namespace MarkdownOutline

namespace Block

def untitled (settings : Settings) : Settings := { settings with titleBlock := false }

end Block

namespace Inline

theorem scanFrom_untitled (settings : Settings) (loc : Location)
    (label : Option (List Char → List Node)) (before : Option Char) (pending : Option (List Char))
    (cs : List Char) : scanFrom ⟨Block.untitled settings, loc, label⟩ before pending cs =
      scanFrom ⟨settings, loc, label⟩ before pending cs := by
  fun_induction scanFrom ⟨settings, loc, label⟩ before pending cs with
  | case1 before pending => rw [scanFrom]
  | case2 before pending c rest s last text hfound ih =>
      have hstep : step ⟨Block.untitled settings, loc, label⟩ before c rest = ⟨.text text, s.taken⟩ := by
        rw [← hfound]
        rfl
      rw [scanFrom_of_text _ hstep]
      exact ih
  | case3 before pending c rest s last piece hfound ih =>
      have hstep : step ⟨Block.untitled settings, loc, label⟩ before c rest = ⟨.piece piece, s.taken⟩ := by
        rw [← hfound]
        rfl
      rw [scanFrom_of_piece _ hstep]
      exact congrArg (flush pending ++ piece :: ·) ih
  | case4 before pending c rest s last hfound ih =>
      have hstep : step ⟨Block.untitled settings, loc, label⟩ before c rest = ⟨.newline, s.taken⟩ := by
        rw [← hfound]
        rfl
      rw [scanFrom_of_newline _ hstep]
      exact congrArg (newlinePieces ⟨settings, loc, label⟩ pending ++ ·) ih

theorem read_untitled (settings : Settings) : read (Block.untitled settings) = read settings := by
  have hwithin (loc : Location) (room : Nat) :
      readWithin (Block.untitled settings) loc room = readWithin settings loc room := by
    induction room with
    | zero =>
        funext cs
        rw [readWithin, readWithin, scan, scan, scanFrom_untitled]
    | succ room ih =>
        funext cs
        rw [readWithin, readWithin, scan, scan, ih, scanFrom_untitled]
  funext loc
  exact hwithin loc maxLabelNesting

end Inline

namespace Block

open Text

section

variable (settings : Settings) (file : Option String) (inner : Reader)

theorem readItems_untitled (bullet : Bullet) (line : Int) (lines : List Line) :
    readItems ⟨untitled settings, file, inner⟩ bullet line lines =
      readItems ⟨settings, file, inner⟩ bullet line lines := by
  fun_induction readItems ⟨settings, file, inner⟩ bullet line lines with
  | case1 => rw [readItems]
  | case2 line first rest hm => rw [readItems, hm]
  | case3 line first rest m hm tail kept trailing after ih =>
      rw [readItems, hm]
      simp only
      rw [ih]
      rfl

theorem readBlock_untitled (line : Int) (first : Line) (rest : List Line) :
    readBlock ⟨untitled settings, file, inner⟩ line first rest =
      readBlock ⟨settings, file, inner⟩ line first rest := by
  rw [readBlock_eq, readBlock_eq]
  cases opener first with
  | atx level content =>
      simp only [Opener.read, atxNode, headingNode, Inline.read_untitled]
      rfl
  | item m =>
      simp only [Opener.read, listBlock, readItems_untitled]
      rfl
  | text =>
      simp only [Opener.read, paragraphBlock, headingNode, Inline.read_untitled]
      rfl
  | _ => rfl

theorem readBlocks_untitled (line : Int) (lines : List Line) :
    readBlocks ⟨untitled settings, file, inner⟩ line lines =
      readBlocks ⟨settings, file, inner⟩ line lines := by
  fun_induction readBlocks ⟨settings, file, inner⟩ line lines with
  | case1 => rw [readBlocks]
  | case2 line first rest hfirst ih => rw [readBlocks, if_pos hfirst, ih]
  | case3 line first rest hfirst ih =>
      rw [readBlocks, if_neg hfirst, readBlock_untitled]
      refine bind_congr fun block => ?_
      rw [ih]

/-- Below the outermost level the setting makes no difference. -/
theorem readWithin_untitled {room : Nat} (h : room ≤ maxNesting) :
    readWithin (untitled settings) file room = readWithin settings file room := by
  induction room with
  | zero => rfl
  | succ room ih =>
      have hroom : room ≠ maxNesting := Nat.ne_of_lt h
      funext line lines
      simp only [readWithin, hroom, decide_false, Bool.false_and, Bool.false_eq_true, if_false,
        ih (Nat.le_of_lt h), readBlocks_untitled]

end

def readLevel (ctx : Context) (titled : Bool) : Reader :=
  if titled then readTitled ctx else readBlocks ctx

theorem readLevel_append {ctx : Context} {titled : Bool} {line : Int} {lines : List Line}
    {nodes : List Node} (h : readLevel ctx titled line (dropEmptyLast lines) = .ok nodes)
    (hend : ∀ n ∈ nodes.getLast?, n.EndsAtBlank) (more : List Line) :
    readLevel ctx titled line (lines ++ [] :: more) =
      (readBlocks ctx (line + lines.length + 1) more).map (nodes ++ ·) := by
  have hparted (more : List Line) : readLevel ctx titled line (dropEmptyLast lines ++ [] :: more) =
      (readBlocks ctx (line + (dropEmptyLast lines).length + 1) more).map (nodes ++ ·) := by
    cases titled with
    | false => exact readBlocks_append rfl more h hend
    | true => exact readTitled_append rfl more h hend
  rcases dropEmptyLast_cases lines with hlines | hlines
  · rw [← hlines] at hparted
    exact hparted more
  · have hskip : readBlocks ctx (line + (dropEmptyLast lines).length + 1) ([] :: more) =
        readBlocks ctx (line + lines.length + 1) more := by
      have hlength : lines.length = (dropEmptyLast lines).length + 1 := by
        conv => lhs; rw [hlines]
        exact List.length_append
      have hempty : isBlankLine [] = true := rfl
      rw [readBlocks, if_pos hempty, hlength, Int.natCast_succ, ← Int.add_assoc]
    have htwo := hparted ([] :: more)
    rw [hskip] at htwo
    rw [← htwo]
    conv => lhs; rw [hlines]
    rw [List.append_assoc, List.singleton_append]

theorem readWithin_succ (settings : Settings) (file : Option String) (room : Nat) (line : Int)
    (lines : List Line) : readWithin settings file (room + 1) line lines =
      readLevel ⟨settings, file, readWithin settings file room⟩ (room = maxNesting && settings.titleBlock)
        line (dropEmptyLast lines) := by
  rw [readWithin, readLevel]
  split <;> rfl

/-- Texts on the two sides of a blank line are read apart, at any depth. The second has no title
block, and its lines are counted on. -/
theorem readAt_append_blank {settings : Settings} {file : Option String} {offset : Int} {depth : Nat}
    {a b : List Char} {as bs : List Node} (ha : readAt settings file offset depth a = .ok as)
    (hend : ∀ n ∈ as.getLast?, n.EndsAtBlank)
    (hb : readAt (untitled settings) file (offset + (a.count '\n' + 2)) depth b = .ok bs) :
    readAt settings file offset depth (a ++ '\n' :: '\n' :: b) = .ok (as ++ bs) := by
  rw [readAt] at ha hb ⊢
  have hlines : (splitLines (a ++ '\n' :: '\n' :: b)).map (fun line => expandTabs line) =
      (splitLines a).map (fun line => expandTabs line) ++ [] ::
        (splitLines b).map fun line => expandTabs line := by
    rw [splitLines_append_newline, splitLines_newline, List.map_append, List.map_cons]
    rfl
  have hcount : ((splitLines a).map fun line => expandTabs line).length = a.count '\n' + 1 := by
    rw [List.length_map, length_splitLines]
  have hmore : (splitLines b).map (fun line => expandTabs line) ≠ [] := by
    simpa using splitLines_ne_nil b
  rw [hlines]
  generalize (splitLines a).map (fun line => expandTabs line) = before at ha hcount ⊢
  generalize (splitLines b).map (fun line => expandTabs line) = behind at hb hmore ⊢
  have hroom : ((maxNesting : Int) + 1 - depth).toNat ≤ maxNesting + 1 := by omega
  generalize ((maxNesting : Int) + 1 - depth).toNat = room at ha hb hroom ⊢
  cases room with
  | zero => cases ha
  | succ room =>
      have hbehind : readBlocks ⟨settings, file, readWithin settings file room⟩
          (offset + 1 + before.length + 1) (dropEmptyLast behind) = .ok bs := by
        have hstart : offset + (a.count '\n' + 2) + 1 = offset + 1 + before.length + 1 := by
          rw [hcount]
          omega
        rw [readWithin_succ, readWithin_untitled settings file (Nat.le_of_succ_le_succ hroom), untitled,
          Bool.and_false, hstart] at hb
        exact (readBlocks_untitled settings file _ _ _).symm.trans hb
      rw [readWithin_succ] at ha
      rw [readWithin_succ, dropEmptyLast_append_cons before [] hmore, readLevel_append ha hend, hbehind]
      rfl

def titledQuote : List Char := "% T\n> q\np".toList

def percentList : List Char := "% x\n- a".toList

def titledQuoteBlocks : List Node :=
  [.branch ⟨4, 1, some 4, none⟩ (.heading { isTitle := true, style := .title })
      [.leaf ⟨4, 1, some 4, none⟩ (.text "T")],
    .branch ⟨5, 1, some 6, none⟩ .blockQuote
      [.branch ⟨5, 1, some 6, none⟩ .paragraph
        [.leaf ⟨5, 1, some 6, none⟩ (.text "q"), .leaf ⟨5, 1, some 6, none⟩ .softBreak,
          .leaf ⟨5, 1, some 6, none⟩ (.text "p")]]]

def percentListBlocks : List Node :=
  [.branch ⟨8, 1, some 8, none⟩ .paragraph [.leaf ⟨8, 1, some 8, none⟩ (.text "% x")],
    .branch ⟨9, 1, some 9, none⟩ (.list false 1 true)
      [.branch ⟨9, 1, some 9, none⟩ .listItem
        [.branch ⟨9, 1, some 9, none⟩ .paragraph [.leaf ⟨9, 1, some 9, none⟩ (.text "a")]]]]

theorem percentList_behind_titledQuote :
    readAt {} none 3 (0 : Nat) titledQuote = .ok titledQuoteBlocks ∧
    (∀ n ∈ titledQuoteBlocks.getLast?, n.EndsAtBlank) ∧
    readAt (untitled {}) none (3 + (titledQuote.count '\n' + 2)) (0 : Nat) percentList =
      .ok percentListBlocks ∧
    readAt {} none 3 (0 : Nat) (titledQuote ++ '\n' :: '\n' :: percentList) =
      .ok (titledQuoteBlocks ++ percentListBlocks) := by
  have ha : readAt {} none 3 (0 : Nat) titledQuote = .ok titledQuoteBlocks :=
    ok_of_toOption (by decide +kernel)
  have hend : ∀ n ∈ titledQuoteBlocks.getLast?, n.EndsAtBlank := by
    rintro n ⟨⟩
    trivial
  have hb : readAt (untitled {}) none (3 + (titledQuote.count '\n' + 2)) (0 : Nat) percentList =
      .ok percentListBlocks := ok_of_toOption (by decide +kernel)
  exact ⟨ha, hend, hb, readAt_append_blank ha hend hb⟩

end Block

end MarkdownOutline
