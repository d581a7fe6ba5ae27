import MarkdownOutline.Proofs.Block.Append
import MarkdownOutline.Proofs.Block.Literal
import MarkdownOutline.Proofs.Inline.Reference

namespace MarkdownOutline

open Text

def IsAddress (url : List Char) : Prop :=
  ∀ c ∈ url, isBlank c = false ∧ c ∉ ['\\', '(', ')', '<', '[']

namespace Inline

def linkText (url : List Char) : List Char := '[' :: 'x' :: ']' :: '(' :: (url ++ [')'])

theorem link?_address {url : List Char} (h : IsAddress url) :
    link? ('x' :: ']' :: '(' :: (url ++ [')'])) = some (⟨['x'], ⟨url, none⟩⟩, url.length + 4) := by
  have hlabel : Escaped IsBareInLabel ['x'] ['x'] := .bare (show 'x' ∉ _ by decide) .nil
  have haddress : Escaped IsBareInAddress url url :=
    escaped_self fun c hc => ⟨(h c hc).1, fun hmark => (h c hc).2 (List.mem_append_left ['['] hmark)⟩
  refine (link?_append hlabel (target?_bare haddress [])).trans ?_
  simp only [List.length_singleton, Option.some.injEq, Prod.mk.injEq, true_and]
  omega

theorem read_link {url : List Char} (h : IsAddress url) (settings : Settings) (loc : Location) :
    read settings loc (linkText url) =
      [.branch loc (.link (String.ofList url) none) [.leaf loc (.text "x")]] := by
  have hlink : link? ('x' :: ']' :: '(' :: (url ++ [')'])) =
      some (⟨['x'], ⟨url, none⟩⟩, ('x' :: ']' :: '(' :: (url ++ [')'])).length) := by
    rw [link?_address h]
    simp
  have hline : '\n' ∉ ['x'] := by decide
  have hlabel : readWithin settings loc (maxLabelNesting - 1) ['x'] = textNodes loc ['x'] :=
    readWithin_backslash settings loc _ hline
  refine (read_eq_link settings loc hlink).trans ?_
  rw [hlabel]
  rfl

end Inline

def linkDocument (file : Option String) (url : List Char) : Node :=
  .branch ⟨1, 1, some 1, file⟩ .document
    [.branch ⟨1, 1, some 1, file⟩ .paragraph
      [.branch ⟨1, 1, some 1, file⟩ (.link (String.ofList url) none)
        [.leaf ⟨1, 1, some 1, file⟩ (.text "x")]]]

section

variable {url : List Char} (h : IsAddress url)
include h

theorem not_blank_of_mem_linkText {c : Char} (hc : c ∈ Inline.linkText url) : isBlank c = false := by
  simp only [Inline.linkText, List.mem_cons, List.mem_append, List.not_mem_nil, or_false] at hc
  rcases hc with rfl | rfl | rfl | rfl | hc | rfl
  case inr.inr.inr.inr.inl => exact (h c hc).1
  all_goals rfl

theorem not_mem_linkText {c : Char} (hc : isBlank c = true) : c ∉ Inline.linkText url := by
  intro hmem
  rw [not_blank_of_mem_linkText h hmem] at hc
  cases hc

theorem prepareChars_linkText : Source.prepareChars (Inline.linkText url) = Inline.linkText url := by
  have hmarker {cs : List Char} (hcs : '[' ∉ cs) : Source.afterMarker? cs = none := by
    induction cs with
    | nil => rfl
    | cons c cs ih =>
        rw [List.mem_cons, not_or] at hcs
        rw [Source.afterMarker?, ih hcs.2, if_neg (by simp [Source.marker, List.isPrefixOf, hcs.1])]
  have hbehind : Source.afterMarker? ('x' :: ']' :: '(' :: (url ++ [')'])) = none := by
    refine hmarker ?_
    have hurl : '[' ∉ url := fun hmem => (h _ hmem).2 (by decide)
    simp [hurl]
  rw [Source.prepareChars, foldNewlines_eq_self (not_mem_linkText h rfl), Source.cutMarker, Inline.linkText,
    Source.afterMarker?, if_neg (by simp [Source.marker, List.isPrefixOf]), hbehind]

theorem readLevel_linkText (ctx : Block.Context) (titled : Bool) (line : Int) :
    Block.readLevel ctx titled line [Inline.linkText url] =
      .ok [.branch (ctx.span line 0) .paragraph
        (Inline.read ctx.settings (ctx.span line 0) (Inline.linkText url))] := by
  have htrim : trimRight isBlank (Inline.linkText url) = Inline.linkText url :=
    trimRight_eq_self fun c hc => not_blank_of_mem_linkText h (List.mem_of_getLast? hc)
  have hparagraph : Block.paragraphBlock ctx line (Inline.linkText url) [] =
      ⟨.branch (ctx.span line 0) .paragraph
        (Inline.read ctx.settings (ctx.span line 0) (Inline.linkText url)), 0⟩ := by
    have hleft : trimLeft isBlank (Inline.linkText url) = Inline.linkText url := rfl
    simp only [Block.paragraphBlock, Block.paragraphTail, hleft, joinLines_singleton, htrim,
      List.length_nil]
  have hblock : Block.readBlock ctx line (Inline.linkText url) [] =
      .ok (Block.paragraphBlock ctx line (Inline.linkText url) []) := Block.readBlock_eq ..
  have hblocks : Block.readBlocks ctx line [Inline.linkText url] =
      .ok [.branch (ctx.span line 0) .paragraph
        (Inline.read ctx.settings (ctx.span line 0) (Inline.linkText url))] := by
    have hblank : Block.isBlankLine (Inline.linkText url) = false := rfl
    rw [Block.readBlocks, hblank, hblock, hparagraph]
    simp [bind, Except.bind, Block.readBlocks, pure, Except.pure]
  cases titled <;> exact hblocks

theorem parse_link (settings : Settings) (file : Option String) :
    parse settings file (String.ofList (Inline.linkText url)) = .ok (linkDocument file url) := by
  have hread : Block.read settings file (Inline.linkText url) =
      .ok [.branch ⟨1, 1, some 1, file⟩ .paragraph
        [.branch ⟨1, 1, some 1, file⟩ (.link (String.ofList url) none)
          [.leaf ⟨1, 1, some 1, file⟩ (.text "x")]]] := by
    have hlevel := readLevel_linkText h ⟨settings, file, Block.readWithin settings file Block.maxNesting⟩
      (Block.maxNesting = Block.maxNesting && settings.titleBlock) 1
    rw [Inline.read_link h] at hlevel
    rw [Block.read, Block.readAt, splitLines_of_not_mem (not_mem_linkText h rfl), List.map_singleton,
      expandTabs_eq_self (not_mem_linkText h rfl)]
    exact (Block.readWithin_succ ..).trans hlevel
  have hcount : (Inline.linkText url).count '\n' = 0 := List.count_eq_zero.2 (not_mem_linkText h rfl)
  rw [parse, String.toList_ofList, prepareChars_linkText h, hread]
  simp only [bind, Except.bind, hcount]
  rfl

end

end MarkdownOutline
