import MarkdownOutline.Proofs.Inline.Visible

namespace MarkdownOutline.Inline

section

variable (loc : Location)

theorem base_add (nest : Nest) (part : Part) : nest.base <:+ (nest.add part).base := by
  rcases nest with ⟨base, _ | ⟨⟨bond, parts⟩, outer⟩⟩
  · exact List.suffix_cons _ _
  · exact List.suffix_rfl

theorem base_leave (nest : Nest) : nest.base <:+ (nest.leave loc).base := by
  rcases nest with ⟨base, _ | ⟨⟨bond, parts⟩, outer⟩⟩
  · exact List.suffix_rfl
  · exact base_add ⟨base, outer⟩ _

theorem base_repeat_leave (nest : Nest) (n : Nat) :
    nest.base <:+ (n.repeat (Nest.leave loc) nest).base := by
  induction n with
  | zero => exact List.suffix_rfl
  | succ n ih => exact ih.trans (base_leave loc _)

theorem base_foldl_enter (nest : Nest) (bonds : List Bond) :
    (bonds.foldl Nest.enter nest).base = nest.base := by
  induction bonds generalizing nest with
  | nil => rfl
  | cons bond bonds ih => exact ih (nest.enter bond)

theorem base_addPiece (nest : Nest) (piece : Piece) : nest.base <:+ (nest.addPiece loc piece).base := by
  cases piece with
  | text cs => exact base_add nest _
  | node n => exact base_add nest _
  | run r =>
      rw [Nest.addPiece, Nest.addRun, base_foldl_enter]
      split
      · exact base_repeat_leave loc nest _
      · exact (base_repeat_leave loc nest _).trans (base_add _ _)

theorem base_foldl_addPiece (nest : Nest) (pieces : List Piece) :
    nest.base <:+ (pieces.foldl (Nest.addPiece loc) nest).base := by
  induction pieces generalizing nest with
  | nil => exact List.suffix_rfl
  | cons piece pieces ih => exact (base_addPiece loc nest piece).trans (ih _)

theorem exists_assemble_cons (part : Part) (pieces : List Piece) :
    ∃ parts, assemble loc (part.toPiece :: pieces) = nodes loc (part :: parts) := by
  have hpaired : ∀ runs, withRuns (part.toPiece :: pieces) runs = part.toPiece :: withRuns pieces runs := by
    intro runs
    cases part <;> cases runs <;> rfl
  have hfirst : Nest.addPiece loc {} part.toPiece = ⟨[part], []⟩ := by cases part <;> rfl
  obtain ⟨parts, hparts⟩ := base_foldl_addPiece loc ⟨[part], []⟩
    (withRuns pieces (pairRuns ((part.toPiece :: pieces).filterMap Piece.run?)))
  refine ⟨parts.reverse, ?_⟩
  rw [assemble, hpaired, List.foldl_cons, hfirst, ← hparts, List.reverse_append, List.reverse_singleton]
  rfl

theorem exists_assemble_node (node : Node) (pieces : List Piece) :
    ∃ rest, assemble loc (.node node :: pieces) = node :: rest := by
  obtain ⟨parts, hparts⟩ := exists_assemble_cons loc (.node node) pieces
  exact ⟨_, hparts⟩

/-- Text in front may grow, and stays in front. -/
theorem exists_assemble_text (cs : List Char) (pieces : List Piece) :
    ∃ text rest, assemble loc (.text cs :: pieces) = .leaf loc (.text text) :: rest := by
  obtain ⟨parts, hparts⟩ := exists_assemble_cons loc (.text cs) pieces
  rw [nodes, joinTexts] at hparts
  split at hparts
  · exact ⟨_, _, hparts⟩
  · exact ⟨_, _, hparts⟩

end

/-- Text that is more than spaces is not lost at a newline. -/
theorem exists_scanFrom_text (ctx : Context) (before : Option Char) {pending : Option (List Char)}
    (h : ∃ c ∈ pending.getD [], c ≠ ' ') (cs : List Char) :
    ∃ text pieces, scanFrom ctx before pending cs = .text text :: pieces := by
  have hflush {pending : Option (List Char)} (h : ∃ c ∈ pending.getD [], c ≠ ' ') :
      ∃ text, flush pending = [.text text] := by
    cases pending with
    | none =>
        obtain ⟨c, hc, _⟩ := h
        cases hc
    | some cs => exact ⟨_, rfl⟩
  fun_induction scanFrom ctx before pending cs with
  | case1 before pending =>
      obtain ⟨text, htext⟩ := hflush h
      exact ⟨text, [], htext⟩
  | case2 before pending c rest s last text hfound ih =>
      obtain ⟨d, hd, hspace⟩ := h
      exact ih ⟨d, List.mem_append_right _ hd, hspace⟩
  | case3 before pending c rest s last piece hfound ih =>
      obtain ⟨text, htext⟩ := hflush h
      rw [htext]
      exact ⟨text, _, rfl⟩
  | case4 before pending c rest s last hfound ih =>
      obtain ⟨d, hd, hspace⟩ := h
      have hne : (pending.getD []).dropWhile (· = ' ') ≠ [] := by
        intro hnil
        have hall := List.dropWhile_eq_nil_iff.1 hnil d hd
        exact hspace (of_decide_eq_true hall)
      rw [newlinePieces, List.isEmpty_eq_false_iff.2 hne]
      exact ⟨_, _, rfl⟩

theorem scan_opening {ctx : Context} {read : List Char → List Node} (hlabel : ctx.label = some read)
    (cs : List Char) :
    (∃ text pieces, scan ctx ('[' :: cs) = .text text :: pieces) ∨
      ∃ reference taken shape pieces, link? cs = some (reference, taken) ∧
        scan ctx ('[' :: cs) = .node (.branch ctx.loc shape (read reference.label)) :: pieces := by
  cases hlink : link? cs with
  | none =>
      left
      have hread : readLink? ctx cs = none := by simp [readLink?, hlabel, hlink]
      have hstep : step ctx none '[' cs = ⟨.text ['['], 0⟩ := by
        have hopening : step ctx none '[' cs = linkStep ctx cs := rfl
        simp only [hopening, linkStep, hread]
      have hpending : ∃ c ∈ (some (['['].reverse ++ [])).getD [], c ≠ ' ' := ⟨'[', by simp, by decide⟩
      obtain ⟨text, pieces, hpieces⟩ := exists_scanFrom_text ctx (some '[') hpending cs
      exact ⟨text, pieces, (scanFrom_of_text ctx hstep).trans hpieces⟩
  | some found =>
      right
      obtain ⟨reference, taken⟩ := found
      exact ⟨reference, taken, _, _, rfl, scanFrom_of_piece ctx (step_link hlabel hlink none)⟩

theorem exists_of_read_eq_branch {settings : Settings} {loc : Location} {cs : List Char} {shape : Branch}
    {children nodes : List Node} (h : read settings loc ('[' :: cs) = .branch loc shape children :: nodes) :
    ∃ reference taken, link? cs = some (reference, taken) ∧
      readWithin settings loc (maxLabelNesting - 1) reference.label = children := by
  have hread : read settings loc ('[' :: cs) = assemble loc
      (scan ⟨settings, loc, some (readWithin settings loc (maxLabelNesting - 1))⟩ ('[' :: cs)) := rfl
  rw [hread] at h
  have hlabel : Context.label ⟨settings, loc, some (readWithin settings loc (maxLabelNesting - 1))⟩ =
      some (readWithin settings loc (maxLabelNesting - 1)) := rfl
  rcases scan_opening hlabel cs with ⟨text, pieces, hscan⟩ | ⟨reference, taken, shape, pieces, hlink, hscan⟩
  · obtain ⟨text, rest, htext⟩ := exists_assemble_text loc text pieces
    rw [hscan, htext] at h
    cases (List.cons.inj h).1
  · obtain ⟨rest, hnode⟩ := exists_assemble_node loc _ pieces
    rw [hscan, hnode] at h
    cases (List.cons.inj h).1
    exact ⟨reference, taken, hlink, rfl⟩

theorem exists_of_link? {cs : List Char} {reference : Reference} {taken : Nat}
    (h : link? cs = some (reference, taken)) :
    ∃ rest, cs = reference.label ++ ']' :: rest ∧ toClosingBracket? 0 cs = some reference.label.length := by
  simp only [link?, Option.bind_eq_bind, Option.bind_eq_some_iff] at h
  obtain ⟨size, hsize, ⟨target, more⟩, _, h⟩ := h
  cases h
  obtain ⟨label, rest, rfl, rfl⟩ := exists_of_toClosingBracket? hsize
  rw [List.take_left]
  exact ⟨rest, rfl, hsize⟩

end MarkdownOutline.Inline
