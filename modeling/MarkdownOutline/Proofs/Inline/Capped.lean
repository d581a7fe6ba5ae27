import MarkdownOutline.Proofs.Inline.Inert
import MarkdownOutline.Proofs.Inline.Marked

namespace MarkdownOutline.Inline

section

variable {settings : Settings} {loc : Location}

/-- The texts that are read for the sake of one text, in how many labels they lie and what is read there: the
text itself, and the label of each link and image that the scan of such a text comes to. -/
inductive Reads (settings : Settings) (loc : Location) (text : List Char) : Nat → List Char → List Node → Prop
  | whole : Reads settings loc text 0 text (read settings loc text)
  | label {depth taken : Nat} {cs opening rest : List Char} {nodes children : List Node} {done : List Piece}
      {before : Option Char} {pending : Option (List Char)} {reference : Reference}
      (h : Reads settings loc text depth cs nodes) (hopening : opening = ['['] ∨ opening = ['!', '['])
      (hstands : Stands (contextWithin settings loc (maxLabelNesting - depth)) cs done before pending
        (opening ++ rest))
      (hread : readLink? (contextWithin settings loc (maxLabelNesting - depth)) rest =
        some (reference, children, taken)) : Reads settings loc text (depth + 1) reference.label children

/-- Labels are read where there is room for them, with less room inside. -/
theorem exists_of_readLink?_contextWithin {room : Nat} {rest : List Char} {reference : Reference}
    {children : List Node} {taken : Nat}
    (h : readLink? (contextWithin settings loc room) rest = some (reference, children, taken)) :
    ∃ less, room = less + 1 ∧ readWithin settings loc less reference.label = children := by
  obtain ⟨label, hlabel, _, hchildren⟩ := readLink?_eq_some_iff.1 h
  cases room with
  | zero => cases hlabel
  | succ less =>
      cases hlabel
      exact ⟨less, rfl, hchildren⟩

theorem Reads.depth_le {text cs : List Char} {depth : Nat} {nodes : List Node}
    (h : Reads settings loc text depth cs nodes) :
    depth ≤ maxLabelNesting ∧ nodes = readWithin settings loc (maxLabelNesting - depth) cs := by
  induction h with
  | whole => exact ⟨Nat.zero_le _, rfl⟩
  | label _ _ _ hread _ =>
      obtain ⟨less, hroom, rfl⟩ := exists_of_readLink?_contextWithin hread
      refine ⟨by omega, ?_⟩
      rw [Nat.sub_succ, hroom, Nat.pred_succ]

end

def bracketed (n : Nat) : List Char :=
  List.replicate n '[' ++ 'x' :: (List.replicate n "](u)".toList).flatten

def linked (loc : Location) (nodes : List Node) : Nat → List Node
  | 0 => nodes
  | n + 1 => [.branch loc (.link "u" none) (linked loc nodes n)]

theorem bracketed_succ (n : Nat) : bracketed (n + 1) = '[' :: (bracketed n ++ ']' :: "(u)".toList) := by
  rw [bracketed, List.replicate_succ, List.replicate_succ', List.flatten_append, List.flatten_singleton, bracketed]
  simp

theorem bracketed_subset (n : Nat) : bracketed n ⊆ ['[', 'x', ']', '(', 'u', ')'] := by
  induction n with
  | zero => exact List.cons_subset.2 ⟨by decide, List.nil_subset _⟩
  | succ n ih =>
      rw [bracketed_succ, List.cons_subset, List.append_subset]
      exact ⟨by decide, ih, by decide⟩

theorem toClosingBracket?_bracketed (n depth : Nat) (rest : List Char) :
    toClosingBracket? depth (bracketed n ++ rest) =
      (toClosingBracket? depth rest).map (· + (bracketed n).length) := by
  have hbare {cs : List Char} (h : ∀ c ∈ cs, IsBareInLabel c) (depth : Nat) (rest : List Char) :
      toClosingBracket? depth (cs ++ rest) = (toClosingBracket? depth rest).map (· + cs.length) :=
    (escaped_self h).toClosingBracket?_append depth rest
  induction n generalizing depth rest with
  | zero => exact hbare (List.forall_mem_singleton.2 (by simp [IsBareInLabel])) depth rest
  | succ n ih =>
      rw [bracketed_succ, List.cons_append, List.append_assoc, List.cons_append, toClosingBracket?_opening, ih,
        toClosingBracket?_closing, hbare (by simp [IsBareInLabel]), Option.map_map, Option.map_map, Option.map_map]
      congr 1
      funext distance
      simp only [Function.comp_apply, List.length_cons, List.length_append]
      omega

theorem link?_bracketed (n : Nat) : link? (bracketed n ++ ']' :: "(u)".toList) =
    some (⟨bracketed n, ⟨['u'], none⟩⟩, (bracketed n ++ ']' :: "(u)".toList).length) := by
  have hclosing : toClosingBracket? 0 (bracketed n ++ ']' :: "(u)".toList) = some (bracketed n).length := by
    rw [toClosingBracket?_bracketed, toClosingBracket?_last, Option.map_some, Nat.zero_add]
  have htarget : target? "(u)".toList = some (⟨['u'], none⟩, 3) :=
    target?_bare (.bare ⟨rfl, by decide⟩ .nil) []
  rw [link?_of_closing hclosing htarget, List.length_append]
  rfl

section

variable {ctx : Context} {cs : List Char}
  (h : ∀ c ∈ cs, ∀ before rest, step ctx before c rest = ⟨.text [c], 0⟩)
include h

theorem scanFrom_verbatim (before : Option Char) (pending : List Char) :
    scanFrom ctx before (some pending) cs = [.text (pending.reverse ++ cs)] := by
  induction cs generalizing before pending with
  | nil => rw [scanFrom, flush, List.append_nil]
  | cons c cs ih =>
      obtain ⟨hc, hcs⟩ := List.forall_mem_cons.1 h
      rw [scanFrom_of_text ctx (hc before cs), List.drop_zero, ih hcs]
      simp

theorem assemble_scan_verbatim (loc : Location) (hne : cs ≠ []) :
    assemble loc (scan ctx cs) = [.leaf loc (.text (String.ofList cs))] := by
  obtain ⟨c, cs, rfl⟩ := List.exists_cons_of_ne_nil hne
  obtain ⟨hc, hcs⟩ := List.forall_mem_cons.1 h
  rw [scan, scanFrom_of_text ctx (hc none cs), List.drop_zero, scanFrom_verbatim hcs]
  rfl

end

section

variable (settings : Settings) (loc : Location)

theorem readWithin_zero_bracketed (n : Nat) :
    readWithin settings loc 0 (bracketed n) = [.leaf loc (.text (String.ofList (bracketed n)))] := by
  refine assemble_scan_verbatim (fun c hc before rest => ?_) loc (by simp [bracketed])
  have hmem : c ∈ ['[', 'x', ']', '(', 'u', ')'] := bracketed_subset n hc
  simp only [List.mem_cons, List.not_mem_nil, or_false] at hmem
  rcases hmem with rfl | rfl | rfl | rfl | rfl | rfl <;> rfl

/-- One letter in labels is read as links down to the cap, and the other brackets are text around it. -/
theorem readWithin_bracketed (room n : Nat) : readWithin settings loc room (bracketed n) =
    linked loc [.leaf loc (.text (String.ofList (bracketed (n - min n room))))] (min n room) := by
  -- Each link takes one pair of brackets from the text and one place from the room.
  induction room generalizing n with
  | zero =>
      rw [Nat.min_zero]
      exact readWithin_zero_bracketed settings loc n
  | succ room ih =>
      cases n with
      | zero =>
          rw [Nat.zero_min]
          exact assemble_scan_verbatim (List.forall_mem_singleton.2 fun _ _ => rfl) loc (List.cons_ne_nil _ _)
      | succ n =>
          rw [bracketed_succ, readWithin_eq_link settings loc (link?_bracketed n), ih n, Nat.succ_min_succ,
            Nat.succ_sub_succ]
          rfl

/-- Read with a mark around every label, a text has no more than 32 marks on a path, and every link but an
autolink holds one. No label is read at a greater depth, of links and images together, and 32 labels in each
other are read as links: the brackets and targets that are left are text. -/
theorem labels_capped (text : List Char) :
    ((readMarked settings loc maxLabelNesting text).map Node.unmark = read settings loc text ∧
      ∀ node ∈ readMarked settings loc maxLabelNesting text, node.IsMarkedWithin settings 32) ∧
    (∀ depth label nodes, Reads settings loc text depth label nodes →
      depth ≤ 32 ∧ nodes = readAt settings loc depth label) ∧
    ∀ n, read settings loc (bracketed n) =
      linked loc [.leaf loc (.text (String.ofList (bracketed (n - min n 32))))] (min n 32) := by
  refine ⟨⟨map_unmark_readMarked settings loc maxLabelNesting text,
    isMarkedWithin_readMarked settings loc maxLabelNesting text⟩, fun depth label nodes h => ?_,
    readWithin_bracketed settings loc maxLabelNesting⟩
  obtain ⟨hdepth, rfl⟩ := h.depth_le
  refine ⟨hdepth, ?_⟩
  rw [readAt, Int.toNat_sub]

/-- A label in the label of an image lies two labels deep. -/
theorem imageLabel_capped :
    (Reads {} ⟨1, 1, none, none⟩ "![[x](u)](u)".toList 2 "x".toList [.leaf ⟨1, 1, none, none⟩ (.text "x")] ∧
      2 ≤ 32 ∧ [.leaf ⟨1, 1, none, none⟩ (.text "x")] = readAt {} ⟨1, 1, none, none⟩ 2 "x".toList) ∧
    String.ofList (bracketed 2) = "[[x](u)](u)" ∧
    read {} ⟨1, 1, none, none⟩ (bracketed 33) =
      linked ⟨1, 1, none, none⟩ [.leaf ⟨1, 1, none, none⟩ (.text "[x](u)")] 32 := by
  have hreads : Reads {} ⟨1, 1, none, none⟩ "![[x](u)](u)".toList 2 "x".toList
      [.leaf ⟨1, 1, none, none⟩ (.text "x")] := by
    have houter : readLink? (contextWithin {} ⟨1, 1, none, none⟩ 32) "[x](u)](u)".toList =
        some (⟨bracketed 1, ⟨['u'], none⟩⟩, _, _) :=
      readLink?_eq_some_iff.2 ⟨_, rfl, link?_bracketed 1, rfl⟩
    have hinner : readLink? (contextWithin {} ⟨1, 1, none, none⟩ 31) "x](u)".toList =
        some (⟨bracketed 0, ⟨['u'], none⟩⟩, [.leaf ⟨1, 1, none, none⟩ (.text "x")], _) :=
      readLink?_eq_some_iff.2 ⟨_, rfl, link?_bracketed 0, readWithin_bracketed {} _ 30 0⟩
    exact .label (.label .whole (.inr rfl) .start houter) (.inl rfl) .start hinner
  have hcapped := labels_capped {} ⟨1, 1, none, none⟩ "![[x](u)](u)".toList
  exact ⟨⟨hreads, hcapped.2.1 2 _ _ hreads⟩, rfl, hcapped.2.2 33⟩

end

end MarkdownOutline.Inline
