import Mathlib.Algebra.GroupWithZero.Nat
import MarkdownOutline.Proofs.Block.Append
import MarkdownOutline.Proofs.Block.Drawn

namespace MarkdownOutline

namespace Block

open Text

def charCount (lines : List Line) : Nat := (lines.map List.length).sum

@[simp] theorem charCount_cons (line : Line) (lines : List Line) :
    charCount (line :: lines) = line.length + charCount lines := by
  simp [charCount]

theorem charCount_le_of_sublist {lines more : List Line} (h : lines.Sublist more) :
    charCount lines ≤ charCount more := by
  induction h with
  | slnil => exact Nat.le_refl 0
  | cons line _ ih =>
      rw [charCount_cons]
      omega
  | cons_cons line _ ih =>
      rw [charCount_cons, charCount_cons]
      omega

theorem length_trim_le (p : Char → Bool) (cs : List Char) : (trim p cs).length ≤ cs.length := by
  have hright := List.IsPrefix.length_le <| trimRight_prefix p (trimLeft p cs)
  exact Nat.le_trans hright (List.dropWhile_sublist p).length_le

theorem length_lt_of_suffix {line inner : Line} (h : ∃ c, c :: inner <:+ line) : inner.length < line.length := by
  obtain ⟨c, hc⟩ := h
  exact hc.length_le

theorem charCount_quoteTail_le (afterText : Bool) (lines : List Line) :
    charCount (quoteTail afterText lines) ≤ charCount lines := by
  induction lines generalizing afterText with
  | nil => exact Nat.le_refl 0
  | cons line rest ih =>
      rw [quoteTail]
      split
      · rename_i inner hinner
        have hline := length_lt_of_suffix (unquote?_suffix hinner)
        have hrest := ih (!isBlankLine inner)
        simp only [charCount_cons]
        omega
      · split
        · have hrest := ih true
          simp only [charCount_cons]
          omega
        · exact Nat.zero_le _

theorem charCount_itemTail_le (column : Nat) (afterText : Bool) (lines : List Line) :
    charCount (itemTail column afterText lines) ≤ charCount lines := by
  induction lines generalizing afterText with
  | nil => exact Nat.le_refl 0
  | cons line rest ih =>
      rw [itemTail]
      split
      · have hrest := ih false
        simp only [charCount_cons, List.length_nil]
        omega
      split
      · have hrest := ih (!isBlankLine (line.drop column))
        simp only [charCount_cons, List.length_drop]
        omega
      split
      · have hline := length_trim_le isBlank line
        have hrest := ih true
        simp only [charCount_cons]
        omega
      · exact Nat.zero_le _

theorem charCount_dropTrailingBlank_le (lines : List Line) :
    charCount (dropTrailingBlank lines) ≤ charCount lines := by
  refine charCount_le_of_sublist ?_
  have h := (List.dropWhile_sublist (l := lines.reverse) isBlankLine).reverse
  rwa [List.reverse_reverse] at h

def ReadsBelow (read : Reader) (size : Nat) : Prop :=
  ∀ line lines, charCount lines < size → ∃ nodes, read line lines = .ok nodes

theorem ReadsBelow.mono {read : Reader} {size larger : Nat} (h : ReadsBelow read larger)
    (hle : size ≤ larger) : ReadsBelow read size :=
  fun line lines hsize => h line lines (Nat.lt_of_lt_of_le hsize hle)

theorem unquote?_of_opener {first inner : Line} (h : opener first = .quote inner) :
    unquote? first = some inner := by
  unfold opener at h
  split at h
  · cases h
  split at h
  · cases h
  split at h
  · cases h
  split at h
  · cases h
    assumption
  split at h
  · cases h
  split at h
  · cases h
  split at h <;> cases h

section

variable {ctx : Context}

theorem exists_readItems {lines : List Line} (h : ReadsBelow ctx.inner (charCount lines)) (bullet : Bullet)
    (line : Int) : ∃ items, readItems ctx bullet line lines = .ok items := by
  fun_induction readItems ctx bullet line lines with
  | case1 => exact ⟨_, rfl⟩
  | case2 => exact ⟨_, rfl⟩
  | case3 line first rest m hm tail kept trailing after ih =>
      have hcontent := length_lt_of_suffix (marker?_suffix (marker?_of_sibling? hm))
      have htail : charCount tail ≤ charCount rest := charCount_itemTail_le _ _ rest
      have hkept : charCount kept ≤ charCount (m.content :: tail) := charCount_dropTrailingBlank_le _
      have hafter : charCount after ≤ charCount rest := charCount_le_of_sublist (List.drop_sublist _ _)
      simp only [charCount_cons] at h hkept
      obtain ⟨children, hchildren⟩ := h line kept (by omega)
      obtain ⟨items, hitems⟩ := ih (h.mono (by omega))
      rw [hchildren, hitems]
      exact ⟨_, rfl⟩

theorem exists_readBlock {first : Line} {rest : List Line}
    (h : ReadsBelow ctx.inner (charCount (first :: rest))) (line : Int) :
    ∃ block, readBlock ctx line first rest = .ok block := by
  rw [readBlock_eq]
  cases hopener : opener first with
  | quote inner =>
      have hinner := length_lt_of_suffix (unquote?_suffix (unquote?_of_opener hopener))
      have htail := charCount_quoteTail_le (!isBlankLine inner) rest
      obtain ⟨children, hchildren⟩ := h line (inner :: quoteTail (!isBlankLine inner) rest) (by
        simp only [charCount_cons]
        omega)
      simp only [Opener.read, quoteBlock, hchildren]
      exact ⟨_, rfl⟩
  | item m =>
      obtain ⟨items, hitems⟩ := exists_readItems h m.bullet line
      simp only [Opener.read, listBlock, hitems]
      exact ⟨_, rfl⟩
  | _ => exact ⟨_, rfl⟩

theorem exists_readBlocks {lines : List Line} (h : ReadsBelow ctx.inner (charCount lines)) (line : Int) :
    ∃ nodes, readBlocks ctx line lines = .ok nodes := by
  fun_induction readBlocks ctx line lines with
  | case1 => exact ⟨_, rfl⟩
  | case2 line first rest hfirst ih =>
      refine ih (h.mono ?_)
      rw [charCount_cons]
      omega
  | case3 line first rest hfirst ih =>
      obtain ⟨block, hblock⟩ := exists_readBlock h line
      have hrest : charCount (rest.drop block.more) ≤ charCount rest :=
        charCount_le_of_sublist (List.drop_sublist _ _)
      rw [charCount_cons] at h
      obtain ⟨blocks, hblocks⟩ := ih block (h.mono (by omega))
      rw [hblock]
      simp only [bind, Except.bind]
      rw [hblocks]
      exact ⟨_, rfl⟩

theorem exists_readLevel {lines : List Line} (h : ReadsBelow ctx.inner (charCount lines)) (titled : Bool)
    (line : Int) : ∃ nodes, readLevel ctx titled line lines = .ok nodes := by
  cases titled with
  | false => exact exists_readBlocks h line
  | true =>
      simp only [readLevel, if_true, readTitled]
      split
      · exact exists_readBlocks h line
      · have hdrop (n : Nat) : charCount (lines.drop n) ≤ charCount lines :=
          charCount_le_of_sublist (List.drop_sublist _ _)
        obtain ⟨blocks, hblocks⟩ := exists_readBlocks (h.mono (hdrop _)) _
        rw [hblocks]
        exact ⟨_, rfl⟩

end

section

variable (settings : Settings) (file : Option String)

/-- Reads like `readWithin` with any room, at the outermost level or below. -/
def readNested : Bool → Nat → Reader
  | _, 0, line, _ => .error (tooDeep file line)
  | outermost, room + 1, line, lines =>
    readLevel ⟨settings, file, readNested false room⟩ (outermost && settings.titleBlock) line
      (dropEmptyLast lines)

theorem readNested_false {room : Nat} (h : room ≤ maxNesting) :
    readNested settings file false room = readWithin settings file room := by
  induction room with
  | zero => rfl
  | succ room ih =>
      have hroom : room ≠ maxNesting := Nat.ne_of_lt h
      funext line lines
      rw [readNested, readWithin_succ, ih (Nat.le_of_lt h)]
      simp [hroom]

theorem readNested_true :
    readNested settings file true (maxNesting + 1) = readWithin settings file (maxNesting + 1) := by
  funext line lines
  rw [readNested, readWithin_succ, readNested_false settings file (Nat.le_refl _)]
  simp

/-- With more room than characters nothing lies too deep. -/
theorem exists_readNested (outermost : Bool) {room : Nat} {lines : List Line} (h : charCount lines < room)
    (line : Int) : ∃ nodes, readNested settings file outermost room line lines = .ok nodes := by
  induction room generalizing outermost line lines with
  | zero => exact absurd h (Nat.not_lt_zero _)
  | succ room ih =>
      refine exists_readLevel (fun line inner hinner => ih false ?_ line) _ line
      have hdrop : charCount (dropEmptyLast lines) ≤ charCount lines := by
        refine charCount_le_of_sublist ?_
        rw [dropEmptyLast]
        split
        · exact List.dropLast_sublist _
        · exact List.Sublist.refl _
      omega

end

end Block

end MarkdownOutline
