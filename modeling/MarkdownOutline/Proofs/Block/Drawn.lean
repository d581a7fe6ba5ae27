import MarkdownOutline.Proofs.Block.Grammar

namespace MarkdownOutline

def Leaf.code? : Leaf → Option String
  | codeSpan code | codeBlock code .. => some code
  | _ => none

namespace Node

def code? : Node → Option String
  | leaf _ content => content.code?
  | branch .. => none

def CodeIn (T : Char → Prop) (node : Node) : Prop := ∀ code ∈ node.code?, ∀ c ∈ code.toList, T c

variable {T : Char → Prop} {loc : Location}

theorem throughout_codeIn_leaf {content : Leaf} (h : ∀ code ∈ content.code?, ∀ c ∈ code.toList, T c) :
    (leaf loc content).Throughout (CodeIn T) := throughout_leaf.2 h

theorem throughout_codeIn_branch {shape : Branch} {children : List Node}
    (h : ∀ child ∈ children, child.Throughout (CodeIn T)) :
    (branch loc shape children).Throughout (CodeIn T) :=
  throughout_branch.2 ⟨fun _ hcode => (Option.not_mem_none _ hcode).elim, h⟩

theorem codeIn_draws (settings : Settings) (T : Char → Prop) (loc : Location) :
    Inline.Draws settings T loc fun node => node.Throughout (CodeIn T) where
  leaf content hinline hdrawn := by
    refine throughout_codeIn_leaf fun code hcode => ?_
    cases content with
    | codeSpan text =>
        cases hcode
        exact hdrawn
    | codeBlock text info fenced => cases hinline
    | _ => cases hcode
  branch _ _ _ h := throughout_codeIn_branch h

end Node

namespace Block

open Text

def LinesIn (T : Char → Prop) (lines : List Line) : Prop := ∀ line ∈ lines, ∀ c ∈ line, T c

theorem trimLeft_subset (p : Char → Bool) (cs : List Char) : trimLeft p cs ⊆ cs :=
  (List.dropWhile_sublist p).subset

theorem trimRight_subset (p : Char → Bool) (cs : List Char) : trimRight p cs ⊆ cs :=
  List.IsPrefix.subset <| trimRight_prefix p cs

theorem trim_subset (p : Char → Bool) (cs : List Char) : trim p cs ⊆ cs :=
  List.Subset.trans (trimRight_subset p _) (trimLeft_subset p cs)

theorem unindent?_suffix {line content : Line} (h : unindent? line = some content) : content <:+ line := by
  obtain ⟨_, hcontent⟩ := Option.ite_none_right_eq_some.1 h
  cases hcontent
  exact List.dropWhile_suffix isSpace

theorem exists_cons_suffix {line rest inner : Line} {c : Char} (h : c :: rest <:+ line) (hinner : inner <:+ rest) :
    ∃ d, d :: inner <:+ line := by
  obtain ⟨front, rfl⟩ := hinner
  obtain ⟨init, last, hlast⟩ : ∃ init last, c :: front = init ++ [last] :=
    ⟨_, _, (List.dropLast_concat_getLast (List.cons_ne_nil c front)).symm⟩
  rw [← List.cons_append, hlast, List.append_assoc] at h
  exact ⟨last, (List.suffix_append init _).trans h⟩

theorem unquote?_suffix {line inner : Line} (h : unquote? line = some inner) : ∃ c, c :: inner <:+ line := by
  simp only [unquote?, Option.bind_eq_bind, Option.bind_eq_some_iff] at h
  obtain ⟨content, hcontent, h⟩ := h
  have hsuffix := unindent?_suffix hcontent
  split at h
  · cases h
    exact ⟨' ', (List.suffix_cons '>' _).trans hsuffix⟩
  · cases h
    exact ⟨'>', hsuffix⟩
  · cases h

theorem marker?_suffix {line : Line} {m : Marker} (h : marker? line = some m) : ∃ c, c :: m.content <:+ line := by
  simp only [marker?, Option.bind_eq_bind, Option.bind_eq_some_iff] at h
  obtain ⟨cs, hcs, ⟨bullet, number, width, rest⟩, hbullet, h⟩ := h
  obtain ⟨digits, c, rfl, _⟩ := bullet?_cases hbullet
  have hline : c :: rest <:+ line := (List.suffix_append digits _).trans (unindent?_suffix hcs)
  refine exists_cons_suffix hline ?_
  simp only at h
  split at h
  · cases h
    exact List.nil_suffix
  · split at h
    · cases h
    · split at h <;>
      · cases h
        exact List.drop_suffix _ _

/-- What stands behind a character of a line has no characters but the line's. -/
theorem subset_of_suffix {line inner : Line} (h : ∃ c, c :: inner <:+ line) : inner ⊆ line := by
  obtain ⟨c, hc⟩ := h
  exact List.Subset.trans (List.subset_cons_self c inner) hc.subset

theorem dropClosingHashes_subset (content : Line) : dropClosingHashes content ⊆ content := by
  simp only [dropClosingHashes]
  split
  · exact List.Subset.refl _
  · split
    · exact List.nil_subset _
    · split
      · intro c hc
        have hbefore := (List.dropWhile_sublist _).subset (List.mem_reverse.1 hc)
        exact List.mem_reverse.1 ((List.dropWhile_sublist _).subset hbefore)
      · exact List.Subset.refl _

theorem atx?_subset {line content : Line} {level : Nat} (h : atx? line = some (level, content)) :
    content ⊆ line := by
  simp only [atx?, Option.bind_eq_bind, Option.bind_eq_some_iff] at h
  obtain ⟨text, htext, h⟩ := h
  split at h
  · cases h
    refine List.Subset.trans (trim_subset ..) (List.Subset.trans (dropClosingHashes_subset _) ?_)
    exact List.Subset.trans (trim_subset ..) (List.Subset.trans (List.drop_subset _ _) (unindent?_suffix htext).subset)
  · cases h

theorem splitId_subset (text : Line) : (splitId text).1 ⊆ text := by
  rw [splitId]
  split
  · rename_i rest hrest
    simp only
    split
    · rename_i before hbefore
      split
      · exact List.Subset.refl _
      · intro c hc
        have hmem := (List.dropWhile_sublist _).subset (List.mem_reverse.1 hc)
        have hdrop : c ∈ rest := List.mem_of_mem_drop
          (hbefore ▸ List.mem_cons_of_mem _ (List.mem_cons_of_mem _ hmem))
        exact List.mem_reverse.1 (hrest ▸ List.mem_cons_of_mem _ hdrop)
    · exact List.Subset.refl _
  · exact List.Subset.refl _

theorem titleLine?_subset {line text : Line} (h : titleLine? line = some text) : text ⊆ line := by
  unfold titleLine? at h
  split at h
  · cases h
    exact List.subset_cons_of_subset _ (trim_subset ..)
  · cases h

section

variable {T : Char → Prop}

theorem LinesIn.sublist {lines more : List Line} (hmore : LinesIn T more) (h : lines.Sublist more) :
    LinesIn T lines := fun line hline => hmore line (h.subset hline)

theorem LinesIn.cons_of_subset {lines : List Line} {first inner : Line} (h : LinesIn T (first :: lines))
    (hinner : inner ⊆ first) {others : List Line} (hothers : LinesIn T others) : LinesIn T (inner :: others) :=
  List.forall_mem_cons.2 ⟨fun c hc => (List.forall_mem_cons.1 h).1 c (hinner hc), hothers⟩

theorem LinesIn.tail {lines : List Line} {first : Line} (h : LinesIn T (first :: lines)) : LinesIn T lines :=
  (List.forall_mem_cons.1 h).2

theorem linesIn_nil : LinesIn T [] := fun _ h => (List.not_mem_nil h).elim

theorem LinesIn.quoteTail {lines : List Line} (h : LinesIn T lines) (afterText : Bool) :
    LinesIn T (quoteTail afterText lines) := by
  induction lines generalizing afterText with
  | nil => exact h
  | cons line rest ih =>
      rw [Block.quoteTail]
      split
      · exact h.cons_of_subset (subset_of_suffix (unquote?_suffix ‹_›)) (ih h.tail _)
      · split
        · exact h.cons_of_subset (List.Subset.refl _) (ih h.tail _)
        · exact linesIn_nil

theorem LinesIn.itemTail {lines : List Line} (h : LinesIn T lines) (column : Nat) (afterText : Bool) :
    LinesIn T (itemTail column afterText lines) := by
  induction lines generalizing afterText with
  | nil => exact h
  | cons line rest ih =>
      rw [Block.itemTail]
      split
      · exact h.cons_of_subset (List.nil_subset _) (ih h.tail _)
      split
      · exact h.cons_of_subset (List.drop_subset _ _) (ih h.tail _)
      split
      · exact h.cons_of_subset (trim_subset ..) (ih h.tail _)
      · exact linesIn_nil

theorem LinesIn.paragraphTail {lines : List Line} (h : LinesIn T lines) : LinesIn T (paragraphTail lines).1 := by
  induction lines with
  | nil => exact h
  | cons line rest ih =>
      rw [Block.paragraphTail]
      split
      · exact linesIn_nil
      split
      · exact linesIn_nil
      split
      · exact linesIn_nil
      · exact h.cons_of_subset (trimLeft_subset ..) (ih h.tail)

theorem LinesIn.body {lines : List Line} (h : LinesIn T lines) (fence : Fence) :
    LinesIn T (fence.body lines).1 := by
  induction lines with
  | nil => exact h
  | cons line rest ih =>
      rw [Fence.body]
      split
      · exact linesIn_nil
      · exact h.cons_of_subset (List.drop_subset _ _) (ih h.tail)

theorem LinesIn.dropTrailingBlank {lines : List Line} (h : LinesIn T lines) :
    LinesIn T (dropTrailingBlank lines) :=
  fun line hline => h line
    (List.mem_reverse.1 ((List.dropWhile_sublist _).subset (List.mem_reverse.1 hline)))

theorem LinesIn.dropEmptyLast {lines : List Line} (h : LinesIn T lines) : LinesIn T (dropEmptyLast lines) := by
  rw [Block.dropEmptyLast]
  split
  · exact h.sublist (List.dropLast_sublist _)
  · exact h

theorem LinesIn.joinLines {lines : List Line} (h : LinesIn T lines) (hnewline : T '\n') :
    ∀ c ∈ joinLines lines, T c := by
  intro c hc
  rcases mem_of_mem_intercalate hc with hsep | ⟨line, hline, hc⟩
  · rwa [List.mem_singleton.1 hsep]
  · exact h line hline c hc

theorem LinesIn.codeText {lines : List Line} (h : LinesIn T lines) (hnewline : T '\n') :
    ∀ c ∈ codeText lines, T c := by
  intro c hc
  obtain ⟨line, hline, hc⟩ := List.mem_flatMap.1 hc
  rcases List.mem_append.1 hc with hc | hc
  · exact h line hline c hc
  · rwa [List.mem_singleton.1 hc]

theorem LinesIn.titleText {lines : List Line} (h : LinesIn T lines) (hspace : T ' ') :
    ∀ c ∈ titleText ((lines.map titleLine?).takeWhile Option.isSome |>.filterMap id), T c := by
  intro c hc
  rcases mem_of_mem_intercalate hc with hsep | ⟨part, hpart, hc⟩
  · rwa [List.mem_singleton.1 hsep]
  · obtain ⟨found, hfound, rfl⟩ := List.mem_filterMap.1 (List.mem_of_mem_filter hpart)
    obtain ⟨line, hline, htitle⟩ := List.mem_map.1 ((List.takeWhile_prefix _).subset hfound)
    exact h line hline c (titleLine?_subset htitle hc)

end

section

variable {ctx : Context} {T : Char → Prop}

def DrawsInner (ctx : Context) (T : Char → Prop) : Prop :=
  ∀ line lines nodes, LinesIn T lines → ctx.inner line lines = .ok nodes →
    ∀ n ∈ nodes, n.Throughout (Node.CodeIn T)

theorem readItems_codeIn {bullet : Bullet} {line : Int} {lines : List Line} {items : Items}
    (hinner : DrawsInner ctx T) (hlines : LinesIn T lines) (h : readItems ctx bullet line lines = .ok items) :
    ∀ n ∈ items.nodes, n.Throughout (Node.CodeIn T) := by
  fun_induction readItems ctx bullet line lines generalizing items with
  | case1 | case2 =>
      cases h
      exact fun _ hn => (List.not_mem_nil hn).elim
  | case3 line first rest m hm tail kept trailing after =>
      rename_i ih
      obtain ⟨children, hread, h⟩ := exists_of_bind_eq_ok h
      obtain ⟨more, hmore, h⟩ := exists_of_bind_eq_ok h
      cases h
      have hkept : LinesIn T kept := LinesIn.dropTrailingBlank
        (hlines.cons_of_subset (subset_of_suffix (marker?_suffix (marker?_of_sibling? hm))) (hlines.tail.itemTail _ _))
      refine List.forall_mem_cons.2 ⟨Node.throughout_codeIn_branch (hinner _ _ _ hkept hread), ?_⟩
      exact ih (hlines.tail.sublist (List.drop_sublist _ _)) hmore

variable (hspace : T ' ')

include hspace in
theorem textNode_codeIn {loc : Location} {shape : Branch} {text : Line} (h : ∀ c ∈ text, T c) :
    (Node.branch loc shape (Inline.read ctx.settings loc text)).Throughout (Node.CodeIn T) :=
  Node.throughout_codeIn_branch (Inline.read_draws (Node.codeIn_draws _ T _) hspace h)

variable (hnewline : T '\n')

theorem codeBlock_codeIn {loc : Location} {code : Line} {info : Option String} {fenced : Bool}
    (h : ∀ c ∈ code, T c) :
    (Node.leaf loc (.codeBlock (String.ofList code) info fenced)).Throughout (Node.CodeIn T) := by
  refine Node.throughout_codeIn_leaf fun text htext => ?_
  cases htext
  rwa [String.toList_ofList]

include hspace hnewline

theorem paragraphBlock_codeIn (line : Int) {first : Line} {rest : List Line} (h : LinesIn T (first :: rest)) :
    (paragraphBlock ctx line first rest).node.Throughout (Node.CodeIn T) := by
  have htext : ∀ c ∈ joinLines (trimLeft isBlank first :: (paragraphTail rest).1), T c :=
    (h.cons_of_subset (trimLeft_subset ..) h.tail.paragraphTail).joinLines hnewline
  obtain ⟨tail, level, htail⟩ : ∃ tail level, paragraphTail rest = (tail, level) := ⟨_, _, rfl⟩
  rw [paragraphBlock]
  rw [htail] at htext ⊢
  cases level with
  | none => exact textNode_codeIn hspace fun c hc => htext c (trimRight_subset _ _ hc)
  | some level => exact textNode_codeIn hspace fun c hc => htext c (trim_subset _ _ hc)

variable (hinner : DrawsInner ctx T)
include hinner

theorem readBlock_codeIn {line : Int} {first : Line} {rest : List Line} {taken : Taken}
    (hlines : LinesIn T (first :: rest)) (h : readBlock ctx line first rest = .ok taken) :
    taken.node.Throughout (Node.CodeIn T) := by
  have hfirst : ∀ c ∈ first, T c := (List.forall_mem_cons.1 hlines).1
  rw [readBlock] at h
  split at h
  · cases h
    exact codeBlock_codeIn ((hlines.tail.body _).codeText hnewline)
  split at h
  · cases h
    rename_i content hatx
    refine textNode_codeIn hspace fun c hc => hfirst c (atx?_subset hatx ?_)
    cases hids : ctx.settings.headingIds with
    | true =>
        rw [hids] at hc
        exact splitId_subset content hc
    | false =>
        rw [hids] at hc
        exact hc
  split at h
  · cases h
    exact Node.throughout_codeIn_leaf fun _ hcode => by cases hcode
  split at h
  · obtain ⟨children, hread, h⟩ := exists_of_bind_eq_ok h
    cases h
    refine Node.throughout_codeIn_branch (hinner _ _ _ ?_ hread)
    exact hlines.cons_of_subset (subset_of_suffix (unquote?_suffix ‹_›)) (hlines.tail.quoteTail _)
  split at h
  · obtain ⟨items, hread, h⟩ := exists_of_bind_eq_ok h
    cases h
    exact Node.throughout_codeIn_branch (readItems_codeIn hinner hlines hread)
  split at h
  · cases h
    refine codeBlock_codeIn (LinesIn.codeText (LinesIn.dropTrailingBlank ?_) hnewline)
    have htail : LinesIn T (first :: rest.takeWhile isCodeLine) :=
      hlines.sublist ((List.takeWhile_prefix _).sublist.cons_cons first)
    exact List.forall_mem_map.2 fun l hl c hc => htail l hl c (List.mem_of_mem_drop hc)
  split at h
  · cases h
    exact Node.throughout_codeIn_leaf fun _ hcode => by cases hcode
  · cases h
    exact paragraphBlock_codeIn hspace hnewline line hlines

theorem readBlocks_codeIn {line : Int} {lines : List Line} {nodes : List Node} (hlines : LinesIn T lines)
    (h : readBlocks ctx line lines = .ok nodes) : ∀ n ∈ nodes, n.Throughout (Node.CodeIn T) := by
  fun_induction readBlocks ctx line lines generalizing nodes with
  | case1 =>
      cases h
      exact fun _ hn => (List.not_mem_nil hn).elim
  | case2 line first rest hblank ih => exact ih hlines.tail h
  | case3 line first rest hblank ih =>
      obtain ⟨block, hblock, h⟩ := exists_of_bind_eq_ok h
      obtain ⟨blocks, hblocks, h⟩ := exists_of_bind_eq_ok h
      cases h
      refine List.forall_mem_cons.2 ⟨readBlock_codeIn hspace hnewline hinner hlines hblock, ?_⟩
      exact ih _ (hlines.tail.sublist (List.drop_sublist _ _)) hblocks

theorem readTitled_codeIn {line : Int} {lines : List Line} {nodes : List Node} (hlines : LinesIn T lines)
    (h : readTitled ctx line lines = .ok nodes) : ∀ n ∈ nodes, n.Throughout (Node.CodeIn T) := by
  simp only [readTitled] at h
  split at h
  · exact readBlocks_codeIn hspace hnewline hinner hlines h
  · obtain ⟨blocks, hblocks, h⟩ := exists_of_bind_eq_ok h
    cases h
    refine List.forall_mem_cons.2 ⟨textNode_codeIn hspace (hlines.titleText hspace), ?_⟩
    exact readBlocks_codeIn hspace hnewline hinner (hlines.sublist (List.drop_sublist _ _)) hblocks

end

/-- Lines with characters in `T` are read into blocks whose code has no others. -/
theorem readWithin_codeIn {T : Char → Prop} (hspace : T ' ') (hnewline : T '\n') (settings : Settings)
    (file : Option String) (room : Nat) {line : Int} {lines : List Line} {nodes : List Node}
    (hlines : LinesIn T lines) (h : readWithin settings file room line lines = .ok nodes) :
    ∀ n ∈ nodes, n.Throughout (Node.CodeIn T) := by
  induction room generalizing line lines nodes with
  | zero => cases h
  | succ room ih =>
      rw [readWithin] at h
      have hinner : DrawsInner ⟨settings, file, readWithin settings file room⟩ T := fun _ _ _ hlines h => ih hlines h
      split at h
      · exact readTitled_codeIn hspace hnewline hinner hlines.dropEmptyLast h
      · exact readBlocks_codeIn hspace hnewline hinner hlines.dropEmptyLast h

end Block

end MarkdownOutline
