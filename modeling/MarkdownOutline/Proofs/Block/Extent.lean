import MarkdownOutline.Proofs.Block.Grammar

namespace MarkdownOutline.Block

open Text

inductive Opener where
  | fence (fence : Fence)
  | atx (level : Nat) (content : Line)
  | thematic
  | quote (inner : Line)
  | item (m : Marker)
  | indented
  | html
  | text

def opener (first : Line) : Opener :=
  match fence? first with
  | some fence => .fence fence
  | none =>
  match atx? first with
  | some (level, content) => .atx level content
  | none =>
  if isThematic first then .thematic
  else match unquote? first with
  | some inner => .quote inner
  | none =>
  match marker? first with
  | some m => .item m
  | none =>
  if codeIndent ≤ indentOf first then .indented
  else if isHtmlStart first then .html
  else .text

def Opener.read (ctx : Context) (line : Int) (first : Line) (rest : List Line) :
    Opener → Except ParseError Taken
  | .fence f => .ok (fenceBlock ctx line f rest)
  | .atx level content => .ok ⟨atxNode ctx line level content, 0⟩
  | .thematic => .ok ⟨.leaf (ctx.at line) .thematicBreak, 0⟩
  | .quote inner => quoteBlock ctx line inner rest
  | .item m => listBlock ctx line m (first :: rest)
  | .indented => .ok (indentedBlock ctx line first rest)
  | .html => .ok (htmlBlock ctx line first rest)
  | .text => .ok (paragraphBlock ctx line first rest)

theorem readBlock_eq (ctx : Context) (line : Int) (first : Line) (rest : List Line) :
    readBlock ctx line first rest = (opener first).read ctx line first rest := by
  rw [readBlock, opener]
  cases fence? first with
  | some f => rfl
  | none =>
      cases atx? first with
      | some heading => rfl
      | none =>
          cases isThematic first with
          | true => rfl
          | false =>
              cases unquote? first with
              | some inner => rfl
              | none =>
                  cases marker? first with
                  | some m => rfl
                  | none =>
                      by_cases hindent : codeIndent ≤ indentOf first
                      · simp only [if_pos hindent]
                        rfl
                      · simp only [if_neg hindent]
                        cases isHtmlStart first <;> rfl

theorem length_body_le (fence : Fence) (lines : List Line) : (fence.body lines).2 ≤ lines.length := by
  induction lines with
  | nil => exact Nat.le_refl 0
  | cons line rest ih =>
      rw [Fence.body, List.length_cons]
      split
      · exact Nat.le_add_left 1 _
      · exact Nat.succ_le_succ ih

theorem length_takeWhile_le (p : Line → Bool) (lines : List Line) :
    (lines.takeWhile p).length ≤ lines.length := (List.takeWhile_prefix p).length_le

theorem length_quoteTail_le (afterText : Bool) (lines : List Line) :
    (quoteTail afterText lines).length ≤ lines.length := by
  induction lines generalizing afterText with
  | nil => exact Nat.le_refl 0
  | cons line rest ih =>
      rw [quoteTail]
      split
      · exact Nat.succ_le_succ (ih _)
      · split
        · exact Nat.succ_le_succ (ih _)
        · exact Nat.zero_le _

theorem length_itemTail_le (column : Nat) (afterText : Bool) (lines : List Line) :
    (itemTail column afterText lines).length ≤ lines.length := by
  induction lines generalizing afterText with
  | nil => exact Nat.le_refl 0
  | cons line rest ih =>
      rw [itemTail]
      split
      · exact Nat.succ_le_succ (ih _)
      split
      · exact Nat.succ_le_succ (ih _)
      split
      · exact Nat.succ_le_succ (ih _)
      · exact Nat.zero_le _

theorem length_paragraphTail_le (lines : List Line) :
    (paragraphTail lines).1.length + (paragraphTail lines).2.toList.length ≤ lines.length := by
  induction lines with
  | nil => exact Nat.le_refl 0
  | cons line rest ih =>
      rw [paragraphTail]
      split
      · exact Nat.zero_le _
      split
      · exact Nat.succ_le_succ (Nat.zero_le _)
      split
      · exact Nat.zero_le _
      · simp only [List.length_cons]
        omega

section

variable {ctx : Context} {line : Int} {first : Line} {lines rest : List Line}

theorem lines_readItems_le {bullet : Bullet} {items : Items}
    (h : readItems ctx bullet line lines = .ok items) : items.lines ≤ lines.length := by
  fun_induction readItems ctx bullet line lines generalizing items with
  | case1 =>
      cases h
      exact Nat.le_refl 0
  | case2 =>
      cases h
      exact Nat.zero_le _
  | case3 line first rest m hm tail kept trailing after =>
      rename_i ih
      obtain ⟨children, hread, h⟩ := exists_of_bind_eq_ok h
      obtain ⟨more, hmore, h⟩ := exists_of_bind_eq_ok h
      cases h
      have htail := length_itemTail_le m.column (!isBlankLine m.content) rest
      have hlater := ih hmore
      simp only [after, tail, List.length_drop, List.length_cons] at hlater ⊢
      omega

theorem more_readBlock_le {block : Taken} (h : readBlock ctx line first rest = .ok block) :
    block.more ≤ rest.length := by
  rw [readBlock_eq] at h
  generalize opener first = kind at h
  cases kind with
  | fence f =>
      cases h
      exact length_body_le f rest
  | atx level content =>
      cases h
      exact Nat.zero_le _
  | thematic =>
      cases h
      exact Nat.zero_le _
  | quote inner =>
      obtain ⟨children, _, h⟩ := exists_of_bind_eq_ok h
      cases h
      exact length_quoteTail_le _ rest
  | item m =>
      obtain ⟨items, hitems, h⟩ := exists_of_bind_eq_ok h
      cases h
      have hlines := lines_readItems_le hitems
      rw [List.length_cons] at hlines
      exact Nat.sub_le_iff_le_add.2 hlines
  | indented =>
      cases h
      exact length_takeWhile_le _ rest
  | html =>
      cases h
      exact length_takeWhile_le _ rest
  | text =>
      cases h
      have htail := length_paragraphTail_le rest
      rw [paragraphBlock]
      cases hlevel : (paragraphTail rest).2 with
      | none => simp_all
      | some level => simp_all

theorem takeWhile_append_of_lt {p : Line → Bool} (h : (lines.takeWhile p).length < lines.length)
    (more : List Line) : (lines ++ more).takeWhile p = lines.takeWhile p := by
  rw [List.takeWhile_append, if_neg (Nat.ne_of_lt h)]

theorem body_append {fence : Fence} (h : (fence.body lines).2 < lines.length) (more : List Line) :
    fence.body (lines ++ more) = fence.body lines := by
  induction lines with
  | nil => exact absurd h (Nat.not_lt_zero _)
  | cons line rest ih =>
      rw [Fence.body] at h
      rw [List.cons_append, Fence.body, Fence.body]
      split
      · rfl
      · rename_i hclosed
        rw [if_neg hclosed] at h
        rw [ih (Nat.lt_of_succ_lt_succ h)]

theorem itemTail_append {column : Nat} {afterText : Bool}
    (h : (itemTail column afterText lines).length < lines.length) (more : List Line) :
    itemTail column afterText (lines ++ more) = itemTail column afterText lines := by
  induction lines generalizing afterText with
  | nil => exact absurd h (Nat.not_lt_zero _)
  | cons line rest ih =>
      rw [itemTail] at h
      rw [List.cons_append, itemTail, itemTail]
      split
      · rename_i hblank
        rw [if_pos hblank] at h
        rw [ih (Nat.lt_of_succ_lt_succ h)]
      · rename_i hblank
        rw [if_neg hblank] at h
        split
        · rename_i hindent
          rw [if_pos hindent] at h
          simp only at h ⊢
          rw [ih (Nat.lt_of_succ_lt_succ h)]
        · rename_i hindent
          rw [if_neg hindent] at h
          split
          · rename_i hlazy
            rw [if_pos hlazy] at h
            rw [ih (Nat.lt_of_succ_lt_succ h)]
          · rfl

/-- A list that ends before the last line ends there whatever follows. -/
theorem readItems_append {bullet : Bullet} {items : Items}
    (h : readItems ctx bullet line lines = .ok items) (hlines : items.lines < lines.length)
    (more : List Line) : readItems ctx bullet line (lines ++ more) = .ok items := by
  fun_induction readItems ctx bullet line lines generalizing items with
  | case1 => exact absurd hlines (Nat.not_lt_zero _)
  | case2 line first rest hm =>
      rw [List.cons_append, readItems, hm]
      exact h
  | case3 line first rest m hm tail kept trailing after =>
      rename_i ih
      obtain ⟨children, hread, h⟩ := exists_of_bind_eq_ok h
      obtain ⟨later, hlater, h⟩ := exists_of_bind_eq_ok h
      cases h
      have hle : tail.length ≤ rest.length := length_itemTail_le m.column (!isBlankLine m.content) rest
      have hafter : after.length = rest.length - tail.length := List.length_drop
      have hlt : tail.length + 1 + later.lines < rest.length + 1 := hlines
      have htail : itemTail m.column (!isBlankLine m.content) (rest ++ more) = tail :=
        itemTail_append (show tail.length < rest.length by omega) more
      have hrest : (rest ++ more).drop tail.length = after ++ more := List.drop_append_of_le_length hle
      have hhead : (after ++ more).head? = after.head? := by
        obtain ⟨next, others, hnext⟩ : ∃ next others, after = next :: others :=
          List.exists_cons_of_length_pos (by omega)
        rw [hnext]
        rfl
      rw [List.cons_append, readItems, hm]
      simp only [htail, hrest, hhead]
      rw [show ctx.inner line kept = .ok children from hread, ih hlater (by omega)]
      rfl

end

end MarkdownOutline.Block
