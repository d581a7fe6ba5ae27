import MarkdownOutline.Proofs.Block.Extent

namespace MarkdownOutline

/-- Blocks that a blank line ends. Lists and code go on behind it. -/
def Node.EndsAtBlank : Node → Prop
  | .leaf _ .thematicBreak | .leaf _ (.htmlBlock _) => True
  | .branch _ (.heading _) _ | .branch _ .paragraph _ | .branch _ .blockQuote _ => True
  | _ => False

namespace Block

section

variable {ctx : Context} {line : Int} {first blank : Line} {lines rest : List Line}
variable (hblank : isBlankLine blank = true) (more : List Line)
include hblank

theorem unquote?_of_isBlankLine : unquote? blank = none := by
  have hquote : '>' ∉ blank := fun hmem => by
    have h := List.all_eq_true.1 hblank '>' hmem
    cases h
  rw [unquote?, unindent?]
  split
  · cases hcontent : blank.dropWhile isSpace with
    | nil => rfl
    | cons c cs =>
        have hmem : c ∈ blank := (List.dropWhile_sublist isSpace).subset (hcontent ▸ List.mem_cons_self ..)
        have hc : c ≠ '>' := fun h => hquote (h ▸ hmem)
        simp [hc]
  · rfl

theorem titleLine?_of_isBlankLine : titleLine? blank = none := by
  rcases blank with _ | ⟨c, cs⟩
  · rfl
  · have hc : c ≠ '%' := by
      rintro rfl
      cases (List.all_eq_true.1 hblank '%' (List.mem_cons_self ..))
    simp [titleLine?, hc]

omit hblank in
theorem takeWhile_append_stop {α : Type} {p : α → Bool} {xs : List α} {x : α} (hx : p x = false) (ys : List α) :
    (xs ++ x :: ys).takeWhile p = xs.takeWhile p := by
  rw [List.takeWhile_append, List.takeWhile_cons_of_neg (by simp [hx]), List.append_nil]
  split
  · exact ((List.takeWhile_prefix p).eq_of_length ‹_›).symm
  · rfl

theorem quoteTail_append (afterText : Bool) :
    quoteTail afterText (lines ++ blank :: more) = quoteTail afterText lines := by
  induction lines generalizing afterText with
  | nil => simp [quoteTail, unquote?_of_isBlankLine hblank, hblank]
  | cons line rest ih => simp only [List.cons_append, quoteTail, ih]

theorem paragraphTail_append : paragraphTail (lines ++ blank :: more) = paragraphTail lines := by
  induction lines with
  | nil => simp [paragraphTail, hblank]
  | cons line rest ih => simp only [List.cons_append, paragraphTail, ih]

/-- A block that ends before the last line, or at a blank line, ends there whatever follows. -/
theorem readBlock_append {block : Taken} (h : readBlock ctx line first rest = .ok block)
    (hend : block.more < rest.length ∨ block.node.EndsAtBlank) :
    readBlock ctx line first (rest ++ blank :: more) = .ok block := by
  rw [readBlock_eq] at h ⊢
  generalize opener first = kind at h ⊢
  cases kind with
  | fence f =>
      cases h
      have hlt : (f.body rest).2 < rest.length := hend.resolve_right id
      simp only [Opener.read, fenceBlock, body_append hlt]
  | atx level content => exact h
  | thematic => exact h
  | quote inner =>
      rw [← h]
      simp only [Opener.read, quoteBlock, quoteTail_append hblank more]
  | item m =>
      obtain ⟨items, hitems, h⟩ := exists_of_bind_eq_ok h
      cases h
      have hlt : items.lines - 1 < rest.length := hend.resolve_right id
      have hlines : items.lines < (first :: rest).length := by
        rw [List.length_cons]
        omega
      simp only [Opener.read, listBlock, ← List.cons_append, readItems_append hitems hlines]
      rfl
  | indented =>
      cases h
      have hlt : (rest.takeWhile isCodeLine).length < rest.length := hend.resolve_right id
      simp only [Opener.read, indentedBlock, takeWhile_append_of_lt hlt]
  | html =>
      cases h
      have htail : (rest ++ blank :: more).takeWhile (fun l => !isBlankLine l) =
          rest.takeWhile fun l => !isBlankLine l := takeWhile_append_stop (by simp [hblank]) more
      simp only [Opener.read, htmlBlock, htail]
  | text =>
      cases h
      simp only [Opener.read, paragraphBlock, paragraphTail_append hblank more]

omit hblank in
theorem forall_getLast?_of_cons {α : Type} {P : α → Prop} {x : α} {xs : List α}
    (h : ∀ y ∈ (x :: xs).getLast?, P y) : ∀ y ∈ xs.getLast?, P y := by
  intro y hy
  refine h y ?_
  rw [List.getLast?_cons, hy]
  rfl

theorem readBlocks_append {nodes : List Node} (h : readBlocks ctx line lines = .ok nodes)
    (hend : ∀ n ∈ nodes.getLast?, n.EndsAtBlank) :
    readBlocks ctx line (lines ++ blank :: more) =
      (readBlocks ctx (line + lines.length + 1) more).map (nodes ++ ·) := by
  fun_induction readBlocks ctx line lines generalizing nodes with
  | case1 line =>
      cases h
      rw [List.nil_append, readBlocks, if_pos hblank, List.length_nil, Int.natCast_zero, Int.add_zero]
      exact (congrFun Except.map_id _).symm
  | case2 line first rest hfirst ih =>
      rw [List.cons_append, readBlocks, if_pos hfirst, ih h hend, List.length_cons, Int.natCast_succ]
      congr 2
      omega
  | case3 line first rest hfirst ih =>
      obtain ⟨block, hblock, h⟩ := exists_of_bind_eq_ok h
      obtain ⟨blocks, hblocks, h⟩ := exists_of_bind_eq_ok h
      cases h
      have hle : block.more ≤ rest.length := more_readBlock_le hblock
      have hdrop : (rest ++ blank :: more).drop block.more = rest.drop block.more ++ blank :: more :=
        List.drop_append_of_le_length hle
      have hline : line + 1 + block.more + (rest.drop block.more).length + 1 =
          line + (first :: rest).length + 1 := by
        rw [List.length_drop, List.length_cons]
        omega
      have hblockEnd : block.more < rest.length ∨ block.node.EndsAtBlank := by
        by_cases hlt : block.more < rest.length
        · exact .inl hlt
        · rw [List.drop_eq_nil_of_le (Nat.le_of_not_lt hlt), readBlocks] at hblocks
          cases hblocks
          exact .inr (hend _ rfl)
      have hmore := ih block hblocks (forall_getLast?_of_cons hend)
      rw [hline] at hmore
      rw [List.cons_append, readBlocks, if_neg hfirst, readBlock_append hblank more hblock hblockEnd]
      simp only [bind, Except.bind]
      rw [hdrop, hmore]
      cases readBlocks ctx (line + (first :: rest).length + 1) more <;> rfl

/-- A blank line ends a title block too. -/
theorem readTitled_append {nodes : List Node} (h : readTitled ctx line lines = .ok nodes)
    (hend : ∀ n ∈ nodes.getLast?, n.EndsAtBlank) :
    readTitled ctx line (lines ++ blank :: more) =
      (readBlocks ctx (line + lines.length + 1) more).map (nodes ++ ·) := by
  have hparts : ((lines ++ blank :: more).map titleLine?).takeWhile Option.isSome =
      (lines.map titleLine?).takeWhile Option.isSome := by
    rw [List.map_append, List.map_cons, titleLine?_of_isBlankLine hblank]
    exact takeWhile_append_stop rfl _
  have hle : ((lines.map titleLine?).takeWhile Option.isSome).length ≤ lines.length := by
    simpa using (List.takeWhile_prefix (l := lines.map titleLine?) Option.isSome).length_le
  simp only [readTitled] at h ⊢
  rw [hparts]
  generalize (lines.map titleLine?).takeWhile Option.isSome = parts at h hle ⊢
  split at h
  · rename_i hnone
    rw [if_pos hnone]
    exact readBlocks_append hblank more h hend
  · rename_i hsome
    obtain ⟨blocks, hblocks, h⟩ := exists_of_bind_eq_ok h
    cases h
    have hdrop : (lines ++ blank :: more).drop parts.length = lines.drop parts.length ++ blank :: more :=
      List.drop_append_of_le_length hle
    have hline : line + parts.length + (lines.drop parts.length).length + 1 = line + lines.length + 1 := by
      rw [List.length_drop]
      omega
    have hmore := readBlocks_append hblank more hblocks (forall_getLast?_of_cons hend)
    rw [hline] at hmore
    rw [if_neg hsome, hdrop, hmore]
    cases readBlocks ctx (line + lines.length + 1) more <;> rfl

end

theorem dropEmptyLast_append_cons (lines : List Line) (line : Line) {more : List Line} (h : more ≠ []) :
    dropEmptyLast (lines ++ line :: more) = lines ++ line :: dropEmptyLast more := by
  have hlast : (lines ++ line :: more).getLast? = more.getLast? := by
    obtain ⟨next, rest, rfl⟩ := List.exists_cons_of_ne_nil h
    simp [List.getLast?_append, List.getLast?_cons]
  rw [dropEmptyLast, dropEmptyLast, hlast]
  split
  · rw [List.dropLast_append_cons, List.dropLast_cons_of_ne_nil h]
  · rfl

theorem dropEmptyLast_cases (lines : List Line) :
    lines = dropEmptyLast lines ∨ lines = dropEmptyLast lines ++ [[]] := by
  rw [dropEmptyLast]
  split
  · rename_i hlast
    obtain ⟨init, rfl⟩ := List.getLast?_eq_some_iff.1 (beq_iff_eq.1 hlast)
    exact .inr (by rw [List.dropLast_concat])
  · exact .inl rfl

end Block

end MarkdownOutline
