import MarkdownOutline.Proofs.Block.Literal
import MarkdownOutline.Proofs.Block.Whole
import MarkdownOutline.Proofs.Source.Marker

namespace MarkdownOutline.Block

open Text

def IsId (id : Line) : Prop := id ≠ [] ∧ ∀ c ∈ id, isIdChar c = true

def headingText (text : Line) : Option Line → Line
  | none => backslash text
  | some id => backslash text ++ (' ' :: '{' :: '#' :: id ++ ['}'])

def closingHashes : Nat → Line
  | 0 => []
  | size + 1 => ' ' :: List.replicate (size + 1) '#'

def headingLine (level : Nat) (text : Line) (id : Option Line) (closing : Nat) : Line :=
  List.replicate level '#' ++ ' ' :: (headingText text id ++ closingHashes closing)

section

variable {text : Line} (h : IsSolid text) (id : Option Line)
include h

theorem head?_headingText : ∀ c ∈ (headingText text id).head?, isBlank c = false := by
  obtain ⟨c, cs, hcs, hc⟩ := (isLiteral_backslash h).first
  cases id <;> simp [headingText, hcs, hc]

theorem getLast?_headingText : ∀ c ∈ (headingText text id).getLast?, isBlank c = false := by
  cases id with
  | none => exact (isLiteral_backslash h).last
  | some id =>
      rw [headingText, ← List.append_assoc, List.getLast?_concat]
      rintro c ⟨⟩
      decide

theorem headingText_ne_nil : headingText text id ≠ [] := by
  obtain ⟨c, cs, hcs, _⟩ := (isLiteral_backslash h).first
  cases id <;> simp [headingText, hcs]

omit h in
theorem dropClosingHashes_eq_self {content : Line} {c : Char} {before : Line}
    (h : content.reverse.dropWhile (· = '#') = c :: before) (hc : c ≠ ' ') :
    dropClosingHashes content = content := by
  simp only [dropClosingHashes, h, if_neg hc, ite_self]

/-- Behind a text a hash stands behind a backslash, which is no space. -/
theorem dropClosingHashes_headingText : dropClosingHashes (headingText text id) = headingText text id := by
  cases id with
  | some id =>
      have hbefore : (headingText text (some id)).reverse.dropWhile (· = '#') =
          '}' :: (backslash text ++ ' ' :: '{' :: '#' :: id).reverse := by simp [headingText]
      exact dropClosingHashes_eq_self hbefore (by decide)
  | none =>
      obtain ⟨init, c, rfl⟩ := List.eq_nil_or_concat text |>.resolve_left h.ne_nil
      have hspace : c ≠ ' ' := ne_of_isBlank (h.last c (by simp)) rfl
      rw [headingText, List.concat_eq_append, backslash_append, backslash_cons, backslash_nil, List.append_nil]
      rcases backslashChar_cases c with ⟨_, hc⟩ | ⟨hplain, hc⟩
      · by_cases hhash : c = '#'
        · have hbefore : (backslash init ++ backslashChar c).reverse.dropWhile (· = '#') =
              '\\' :: (backslash init).reverse := by
            rw [hc]
            simp [hhash]
          exact dropClosingHashes_eq_self hbefore (by decide)
        · have hbefore : (backslash init ++ backslashChar c).reverse.dropWhile (· = '#') =
              c :: '\\' :: (backslash init).reverse := by simp [hc, hhash]
          exact dropClosingHashes_eq_self hbefore hspace
      · have hhash : c ≠ '#' := ne_of_isAsciiPunctuation hplain rfl
        have hbefore : (backslash init ++ backslashChar c).reverse.dropWhile (· = '#') =
            c :: (backslash init).reverse := by simp [hc, hhash]
        exact dropClosingHashes_eq_self hbefore hspace

theorem dropClosingHashes_append (closing : Nat) :
    dropClosingHashes (headingText text id ++ closingHashes closing) = headingText text id := by
  cases closing with
  | zero => rw [closingHashes, List.append_nil, dropClosingHashes_headingText h]
  | succ size =>
      have hbefore : (headingText text id ++ closingHashes (size + 1)).reverse.dropWhile (· = '#') =
          ' ' :: (headingText text id).reverse := by
        rw [closingHashes, List.reverse_append, List.reverse_cons, List.reverse_replicate,
          List.append_assoc, List.dropWhile_append_of_pos fun c hc => by
            simp [List.eq_of_mem_replicate hc], List.singleton_append,
          List.dropWhile_cons_of_neg (by decide)]
      have hlast : trimRight isSpace (headingText text id) = headingText text id :=
        trimRight_eq_self fun c hc => by
          simp [isSpace, ne_of_isBlank (getLast?_headingText h id c hc) (d := ' ') rfl]
      have hshorter : (' ' :: (headingText text id).reverse).length ≠
          (headingText text id ++ closingHashes (size + 1)).length := by simp [closingHashes]
      simp only [dropClosingHashes, hbefore, if_neg hshorter, if_true]
      rw [List.dropWhile_cons_of_pos (by decide), ← trimRight, hlast]

/-- A brace at the end of the text stands behind a backslash, which ends the search for an identifier. -/
theorem splitId_headingText (hid : ∀ i ∈ id, IsId i) : splitId (headingText text id) = (backslash text, id) := by
  cases id with
  | none =>
      obtain ⟨init, c, rfl⟩ := List.eq_nil_or_concat text |>.resolve_left h.ne_nil
      rw [headingText, List.concat_eq_append, backslash_append, backslash_cons, backslash_nil, List.append_nil]
      rcases backslashChar_cases c with ⟨_, hc⟩ | ⟨hplain, hc⟩
      · by_cases hbrace : c = '}'
        · subst hbrace
          have hid : isIdChar '\\' = false := by decide
          simp [splitId, hc, hid]
        · simp [splitId, hc, hbrace]
      · have hbrace : c ≠ '}' := ne_of_isAsciiPunctuation hplain rfl
        simp [splitId, hc, hbrace]
  | some id =>
      obtain ⟨hne, hchars⟩ := hid id rfl
      have hreverse : (headingText text (some id)).reverse =
          '}' :: (id.reverse ++ '#' :: '{' :: ' ' :: (backslash text).reverse) := by simp [headingText]
      have htake : (id.reverse ++ '#' :: '{' :: ' ' :: (backslash text).reverse).takeWhile isIdChar =
          id.reverse := by
        rw [List.takeWhile_append_of_pos fun c hc => hchars c (List.mem_reverse.1 hc),
          List.takeWhile_cons_of_neg (by decide), List.append_nil]
      have hlast : trimRight isBlank (backslash text) = backslash text :=
        trimRight_eq_self (isLiteral_backslash h).last
      have hempty : id.reverse.isEmpty = false := by simp [hne]
      simp only [splitId, hreverse, htake, List.drop_left, hempty, Bool.false_eq_true, if_false,
        List.reverse_reverse]
      rw [List.dropWhile_cons_of_pos (by decide), ← trimRight, hlast]

end

theorem head?_headingLine {level : Nat} (hmin : 1 ≤ level) (text : Line) (id : Option Line) (closing : Nat) :
    (headingLine level text id closing).head? = some '#' := by
  obtain ⟨size, rfl⟩ := Nat.exists_eq_add_of_le' hmin
  rfl

theorem unindent?_headingLine {level : Nat} (hmin : 1 ≤ level) (text : Line) (id : Option Line) (closing : Nat) :
    unindent? (headingLine level text id closing) = some (headingLine level text id closing) := by
  have hhead : (headingLine level text id closing).head? ≠ some ' ' := by
    rw [head?_headingLine hmin]
    decide
  simpa [indented] using unindent?_indented (by decide : 0 < codeIndent) hhead

theorem trim_content {text : Line} (h : IsSolid text) (id : Option Line) (closing : Nat) :
    trim isSpace (' ' :: (headingText text id ++ closingHashes closing)) =
      headingText text id ++ closingHashes closing := by
  have hne := headingText_ne_nil h id
  have hfirst : ∀ c ∈ (headingText text id ++ closingHashes closing).head?, isSpace c = false := by
    intro c hc
    rw [List.head?_append_of_ne_nil _ hne] at hc
    simp [isSpace, ne_of_isBlank (head?_headingText h id c hc) (d := ' ') rfl]
  have hlast : ∀ c ∈ (headingText text id ++ closingHashes closing).getLast?, isSpace c = false := by
    intro c hc
    cases closing with
    | zero =>
        rw [closingHashes, List.append_nil] at hc
        simp [isSpace, ne_of_isBlank (getLast?_headingText h id c hc) (d := ' ') rfl]
    | succ size =>
        have hconcat : headingText text id ++ closingHashes (size + 1) =
            headingText text id ++ ' ' :: List.replicate size '#' ++ ['#'] := by
          simp [closingHashes, List.replicate_succ']
        rw [hconcat, List.getLast?_concat] at hc
        cases hc
        rfl
  rw [trim, trimLeft, List.dropWhile_cons_of_pos (by decide), ← trimLeft, trimLeft_eq_self hfirst,
    trimRight_eq_self hlast]

theorem atx?_headingLine {level : Nat} (hmin : 1 ≤ level) (hmax : level ≤ maxLevel) {text : Line}
    (h : IsSolid text) (id : Option Line) (closing : Nat) :
    atx? (headingLine level text id closing) = some (level, headingText text id) := by
  have hlevel : ((headingLine level text id closing).takeWhile (· = '#')).length = level :=
    Inline.countLeading_replicate_append '#' level (by simp)
  have hrest : (headingLine level text id closing).drop level =
      ' ' :: (headingText text id ++ closingHashes closing) := List.drop_left' List.length_replicate
  have htrim : trim isBlank (headingText text id) = headingText text id := by
    rw [trim, trimLeft_eq_self (head?_headingText h id), trimRight_eq_self (getLast?_headingText h id)]
  simp only [atx?, unindent?_headingLine hmin, Option.bind_eq_bind, Option.bind_some, hlevel, hrest,
    trim_content h, dropClosingHashes_append h, htrim]
  simp [hmin, hmax]

section

variable {level : Nat} {text : Line} {id : Option Line} (hid : ∀ i ∈ id, IsId i) {closing : Nat} {c : Char}
include hid

theorem not_mem_headingLine (htext : c ∉ text) (hmark : isAsciiPunctuation c = false) (hspace : c ≠ ' ')
    (hchar : isIdChar c = false) : c ∉ headingLine level text id closing := by
  have hhash : c ≠ '#' := ne_of_isAsciiPunctuation hmark rfl
  have hhashes (size : Nat) : c ∉ List.replicate size '#' := fun h => hhash (List.eq_of_mem_replicate h)
  have hbackslash : c ∉ backslash text := fun h => htext ((mem_backslash hmark).1 h)
  have hcontent : c ∉ headingText text id := by
    cases id with
    | none => exact hbackslash
    | some id =>
        have hmem : c ∉ id := fun h => by
          rw [(hid id rfl).2 c h] at hchar
          cases hchar
        simp [headingText, hbackslash, hspace, hhash, hmem, ne_of_isAsciiPunctuation hmark (d := '{') rfl,
          ne_of_isAsciiPunctuation hmark (d := '}') rfl]
  have hclosing : c ∉ closingHashes closing := by
    cases closing with
    | zero => simp [closingHashes]
    | succ size => simp [closingHashes, hspace, hhash]
  simp [headingLine, hhashes, hspace, hcontent, hclosing]

theorem isPlain_headingLine (h : IsSolid text) : IsPlain (headingLine level text id closing) :=
  ⟨not_mem_headingLine hid (fun hc => (h.no_control _ hc).1 rfl) (by decide) (by decide) (by decide),
    not_mem_headingLine hid (fun hc => (h.no_control _ hc).2.1 rfl) (by decide) (by decide) (by decide)⟩

end

open Source in
/-- A marker ends with a bracket, so it cannot reach into what holds none. -/
theorem not_infix_append {cs tail : List Char} (h : ¬marker <:+: cs) (htail : ']' ∉ tail) :
    ¬marker <:+: cs ++ tail := by
  rintro ⟨before, rest, hsplit⟩
  rcases List.append_eq_append_iff.1 hsplit with ⟨middle, hcs, _⟩ | ⟨middle, hmarker, htail'⟩
  · exact h ⟨before, middle, hcs.symm⟩
  · rcases List.eq_nil_or_concat middle with rfl | ⟨init, c, rfl⟩
    · rw [List.append_nil] at hmarker
      exact h ⟨before, [], by rw [hmarker, List.append_nil]⟩
    · have hlast : some ']' = some c := by
        have hends := congrArg List.getLast? hmarker
        rwa [List.concat_eq_append, ← List.append_assoc, List.getLast?_concat,
          List.getLast?_append_of_ne_nil _ (by decide)] at hends
      cases hlast
      exact htail (by rw [htail']; simp)

theorem afterMarker?_append {front : List Char} (h : '[' ∉ front) (cs : List Char) :
    Source.afterMarker? (front ++ cs) = Source.afterMarker? cs := by
  induction front with
  | nil => rfl
  | cons c front ih =>
      rw [List.mem_cons, not_or] at h
      rw [List.cons_append, Source.afterMarker?_cons (Ne.symm h.1), ih h.2]

theorem prepareChars_headingLine {level : Nat} {text : Line} (h : IsSolid text) {id : Option Line}
    (hid : ∀ i ∈ id, IsId i) (closing : Nat) :
    Source.prepareChars (headingLine level text id closing) = headingLine level text id closing := by
  have hclosing : ']' ∉ closingHashes closing := by
    cases closing <;> simp [closingHashes]
  obtain ⟨tail, htail, hbracket⟩ : ∃ tail,
      headingText text id ++ closingHashes closing = backslash text ++ tail ∧ ']' ∉ tail := by
    cases id with
    | none => exact ⟨closingHashes closing, rfl, hclosing⟩
    | some id =>
        have hmem : ']' ∉ id := fun hc => absurd ((hid id rfl).2 _ hc) (by decide)
        exact ⟨_, List.append_assoc .., by simp [hmem, hclosing]⟩
  have hfront : '[' ∉ List.replicate level '#' ++ [' '] := by simp
  have hmarker : Source.afterMarker? (headingLine level text id closing) = none := by
    rw [headingLine, htail, List.append_cons, afterMarker?_append hfront, Source.afterMarker?_eq_none]
    exact not_infix_append (Source.afterMarker?_eq_none.1 (guarded_backslash text).afterMarker?_eq_none) hbracket
  have hreturn : '\r' ∉ headingLine level text id closing :=
    not_mem_headingLine hid (fun hc => (h.no_control _ hc).2.2 rfl) (by decide) (by decide) (by decide)
  rw [Source.prepareChars_of_none hmarker, foldNewlines_eq_self hreturn]

def hashHeading (loc : Location) (level : Nat) (text : Line) (id : Option Line) : Node :=
  .branch loc (.heading { level, explicitId := id.map String.ofList }) [.leaf loc (.text (String.ofList text))]

section

variable {text : Line} (h : IsSolid text) {id : Option Line} (hid : ∀ i ∈ id, IsId i)
include h hid

theorem atxNode_headingText {ctx : Context} (hids : id.isSome → ctx.settings.headingIds = true) (line : Int)
    (level : Nat) : atxNode ctx line level (headingText text id) = hashHeading (ctx.at line) level text id := by
  have hsplit : (if ctx.settings.headingIds then splitId (headingText text id) else (headingText text id, none)) =
      (backslash text, id) := by
    split
    · exact splitId_headingText h id hid
    · next hoff =>
        cases id with
        | none => rfl
        | some id => exact absurd (hids rfl) hoff
  have hread := Inline.read_backslash ctx.settings (ctx.at line) (List.forall_mem_singleton.2 h)
  rw [List.map_singleton, joinLines_singleton] at hread
  simp only [atxNode, hsplit, headingNode, hread]
  rfl

variable {settings : Settings} (hids : id.isSome → settings.headingIds = true) {level : Nat} (hmin : 1 ≤ level)
  (hmax : level ≤ maxLevel)
include hids hmin hmax

theorem readAt_headingLine (file : Option String) (offset : Int) {depth : Int} (hdepth : depth ≤ maxNesting)
    (closing : Nat) : readAt settings file offset depth (headingLine level text id closing) =
      .ok [hashHeading ⟨offset + 1, 1, none, file⟩ level text id] := by
  have hatx := atx?_headingLine hmin hmax h id closing
  have hfence : fence? (headingLine level text id closing) = none := by
    obtain ⟨rest, hrest⟩ := List.head?_eq_some_iff.1 (head?_headingLine hmin text id closing)
    have hline := unindent?_headingLine hmin text id closing
    exact fence?_of_head (hline.trans (congrArg some hrest)) (by decide) (by decide)
  have hopener : opener (headingLine level text id closing) ≠ .text := by
    rw [opener, hfence, hatx]
    exact Opener.noConfusion
  have hfirst : isBlankLine (headingLine level text id closing) = false :=
    isBlankLine_eq_false_iff.2 ⟨'#', List.mem_of_mem_head? (head?_headingLine hmin text id closing), rfl⟩
  have hnode : atxNode (contextWithin settings file (maxNesting - depth).toNat) (offset + 1) level
      (headingText text id) = hashHeading ⟨offset + 1, 1, none, file⟩ level text id :=
    atxNode_headingText h hid hids _ _
  have hread : readBlock (contextWithin settings file (maxNesting - depth).toNat) (offset + 1)
      (headingLine level text id closing) [] =
        (Except.ok ()).map fun _ => ⟨hashHeading ⟨offset + 1, 1, none, file⟩ level text id, 0⟩ := by
    rw [readBlock, hfence, hatx]
    simp only [hnode]
    rfl
  have hlast : [headingLine level text id closing].getLast? ≠ some [] := by
    rw [List.getLast?_singleton]
    intro hnil
    rw [Option.some.inj hnil] at hfirst
    cases hfirst
  have hwhole := readAt_of_whole hdepth (List.forall_mem_singleton.2 (isPlain_headingLine hid h)) hfirst hopener
    hlast hread
  rwa [joinLines_singleton] at hwhole

/-- A heading comes back from its line: its level, its identifier and its text, at any place where lines are
read and as the one block of a source. -/
theorem heading_roundtrip (file : Option String) (closing : Nat) :
    parse settings file (String.ofList (headingLine level text id closing)) =
        .ok (.branch ⟨1, 1, some 1, file⟩ .document [hashHeading ⟨1, 1, none, file⟩ level text id]) ∧
      ∀ offset depth : Int, depth ≤ maxNesting →
        readAt settings file offset depth (headingLine level text id closing) =
          .ok [hashHeading ⟨offset + 1, 1, none, file⟩ level text id] := by
  refine ⟨?_, fun offset depth hdepth =>
    readAt_headingLine h hid hids hmin hmax file offset hdepth closing⟩
  have hcount : (headingLine level text id closing).count '\n' = 0 :=
    List.count_eq_zero.2 (isPlain_headingLine hid h).2
  rw [parse, String.toList_ofList, prepareChars_headingLine h hid, read,
    readAt_headingLine h hid hids hmin hmax file 0 (by decide), hcount]
  rfl

end

/-- A text that ends like a heading's line and looks like a marker. -/
def crowdedText : Line := "[TOC] \x7b#b\x7d ##".toList

theorem crowdedText_roundtrip :
    parse {} none "### \\[TOC\\] \\\x7b\\#b\\\x7d \\#\\# \x7b#x.y\x7d ####" =
        .ok (.branch ⟨1, 1, some 1, none⟩ .document [.branch ⟨1, 1, none, none⟩
          (.heading { level := 3, explicitId := some "x.y" })
          [.leaf ⟨1, 1, none, none⟩ (.text "[TOC] \x7b#b\x7d ##")]]) ∧
      readAt {} none 3 1 "## \\[TOC\\] \\\x7b\\#b\\\x7d \\#\\#".toList =
        .ok [.branch ⟨4, 1, none, none⟩ (.heading { level := 2 })
          [.leaf ⟨4, 1, none, none⟩ (.text "[TOC] \x7b#b\x7d ##")]] := by
  have hsolid : IsSolid crowdedText := by decide
  have hid : ∀ i ∈ some "x.y".toList, IsId i := by
    rintro _ ⟨⟩
    exact ⟨by decide, List.all_eq_true.1 (by decide)⟩
  have hnone : ∀ i ∈ (none : Option Line), IsId i := by simp
  have hshown : String.ofList crowdedText = "[TOC] \x7b#b\x7d ##" := String.ofList_toList
  have hmarked : String.ofList (headingLine 3 crowdedText (some "x.y".toList) 4) =
      "### \\[TOC\\] \\\x7b\\#b\\\x7d \\#\\# \x7b#x.y\x7d ####" := by decide +kernel
  have hbare : headingLine 2 crowdedText none 0 = "## \\[TOC\\] \\\x7b\\#b\\\x7d \\#\\#".toList := by
    decide +kernel
  have hids (id : Option Line) : id.isSome → ({} : Settings).headingIds = true := fun _ => rfl
  have hparse := (heading_roundtrip hsolid hid (hids _) (by decide : 1 ≤ 3) (by decide) none 4).1
  have hread := (heading_roundtrip hsolid hnone (hids _) (by decide : 1 ≤ 2) (by decide) none 0).2 3 1
    (by decide)
  rw [hmarked, hashHeading, Option.map_some, String.ofList_toList, hshown] at hparse
  rw [hbare, hashHeading, hshown] at hread
  exact ⟨hparse, hread⟩

end MarkdownOutline.Block
