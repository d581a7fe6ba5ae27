import MarkdownOutline.Proofs.Inline.Runs
import MarkdownOutline.Proofs.Text.Backslash
import MarkdownOutline.Text.Lines

namespace MarkdownOutline

open Text

def lineNodes (loc : Location) (lines : List (List Char)) : List Node :=
  (lines.map fun line => .leaf loc (.text (String.ofList line))).intersperse (.leaf loc .softBreak)

namespace Inline

def Part.toPiece : Part → Piece
  | text cs => .text cs
  | node n => .node n

theorem withRuns_toPiece (parts : List Part) (runs : List Run) :
    withRuns (parts.map Part.toPiece) runs = parts.map Part.toPiece := by
  induction parts with
  | nil => rfl
  | cons part parts ih => cases part <;> exact congrArg (_ :: ·) ih

theorem foldl_addPiece_toPiece (loc : Location) (parts base : List Part) :
    (parts.map Part.toPiece).foldl (Nest.addPiece loc) ⟨base, []⟩ = ⟨parts.reverse ++ base, []⟩ := by
  induction parts generalizing base with
  | nil => rfl
  | cons part parts ih =>
      have hadd : Nest.addPiece loc ⟨base, []⟩ part.toPiece = ⟨part :: base, []⟩ := by cases part <;> rfl
      rw [List.map_cons, List.foldl_cons, hadd, ih, List.reverse_cons, List.append_assoc,
        List.singleton_append]

theorem assemble_toPiece (loc : Location) (parts : List Part) :
    assemble loc (parts.map Part.toPiece) = nodes loc parts := by
  rw [assemble, withRuns_toPiece, foldl_addPiece_toPiece, List.append_nil, List.reverse_reverse]

def lineParts (loc : Location) (lines : List (List Char)) : List Part :=
  (lines.map Part.text).intersperse (.node (.leaf loc .softBreak))

theorem lineParts_cons {loc : Location} {rest : List (List Char)} (hrest : rest ≠ []) (line : List Char) :
    lineParts loc (line :: rest) = .text line :: .node (.leaf loc .softBreak) :: lineParts loc rest := by
  obtain ⟨next, rest, rfl⟩ := List.exists_cons_of_ne_nil hrest
  rfl

theorem nodes_lineParts (loc : Location) (lines : List (List Char)) :
    nodes loc (lineParts loc lines) = lineNodes loc lines := by
  induction lines with
  | nil => rfl
  | cons line rest ih =>
      cases rest with
      | nil => rfl
      | cons next rest =>
          have hcons : nodes loc (lineParts loc (line :: next :: rest)) =
              .leaf loc (.text (String.ofList line)) :: .leaf loc .softBreak ::
                nodes loc (lineParts loc (next :: rest)) := rfl
          rw [hcons, ih]
          rfl

section

variable (ctx : Context)

theorem step_of_not_mark {c : Char} (hc : isAsciiPunctuation c = false) (hline : c ≠ '\n')
    (before : Option Char) (rest : List Char) : step ctx before c rest = ⟨.text [c], 0⟩ := by
  have hne {d : Char} (hd : isAsciiPunctuation d = true) : c ≠ d := ne_of_isAsciiPunctuation hc hd
  simp [step, hline, hne (d := '\\') rfl, hne (d := '`') rfl, hne (d := '*') rfl, hne (d := '_') rfl,
    hne (d := '~') rfl, hne (d := '!') rfl, hne (d := '[') rfl, hne (d := '<') rfl, hne (d := '&') rfl]

theorem step_backslash {c : Char} (hc : isAsciiPunctuation c = true) (before : Option Char)
    (rest : List Char) : step ctx before '\\' (c :: rest) = ⟨.text [c], 1⟩ := by
  have hline : c ≠ '\n' := by
    rintro rfl
    cases hc
  rw [step, if_pos rfl, escapeStep.eq_2 ctx c rest hline, if_pos hc]

theorem scanFrom_backslashChar {c : Char} (hline : c ≠ '\n') (before : Option Char)
    (pending : Option (List Char)) (rest : List Char) :
    ∃ last, scanFrom ctx before pending (backslashChar c ++ rest) =
      scanFrom ctx last (some (c :: pending.getD [])) rest := by
  rcases backslashChar_cases c with ⟨hc, h⟩ | ⟨hc, h⟩
  · rw [h]
    exact ⟨_, scanFrom_of_text ctx (step_backslash ctx hc before rest)⟩
  · rw [h]
    exact ⟨_, scanFrom_of_text ctx (step_of_not_mark ctx hc hline before rest)⟩

theorem scanFrom_backslash {cs : List Char} (hline : '\n' ∉ cs) (before : Option Char)
    (pending rest : List Char) :
    ∃ last, scanFrom ctx before (some pending) (backslash cs ++ rest) =
      scanFrom ctx last (some (cs.reverse ++ pending)) rest := by
  induction cs generalizing before pending with
  | nil => exact ⟨before, rfl⟩
  | cons c cs ih =>
      rw [List.mem_cons, not_or] at hline
      obtain ⟨next, hnext⟩ :=
        scanFrom_backslashChar ctx (Ne.symm hline.1) before (some pending) (backslash cs ++ rest)
      obtain ⟨last, hlast⟩ := ih hline.2 next (c :: pending)
      refine ⟨last, ?_⟩
      rw [backslash_cons, List.append_assoc, hnext, List.reverse_cons, List.append_assoc,
        List.singleton_append]
      exact hlast

variable {line : List Char}

theorem scanFrom_line (hne : line ≠ []) (hline : '\n' ∉ line) (before : Option Char) (rest : List Char) :
    ∃ last, scanFrom ctx before none (backslash line ++ rest) =
      scanFrom ctx last (some line.reverse) rest := by
  obtain ⟨c, cs, rfl⟩ := List.exists_cons_of_ne_nil hne
  rw [List.mem_cons, not_or] at hline
  obtain ⟨next, hnext⟩ :=
    scanFrom_backslashChar ctx (Ne.symm hline.1) before none (backslash cs ++ rest)
  obtain ⟨last, hlast⟩ := scanFrom_backslash ctx hline.2 next [c] rest
  refine ⟨last, ?_⟩
  rw [backslash_cons, List.append_assoc, hnext, List.reverse_cons]
  exact hlast

theorem newlinePieces_of_isSolid (h : IsSolid line) :
    newlinePieces ctx (some line.reverse) = [.text line, .node (.leaf ctx.loc .softBreak)] := by
  obtain ⟨init, c, rfl⟩ := List.eq_nil_or_concat line |>.resolve_left h.ne_nil
  have hc : c ≠ ' ' := ne_of_isBlank (h.last c (by simp)) rfl
  have hstrip : (c :: init.reverse).dropWhile (· = ' ') = c :: init.reverse :=
    List.dropWhile_cons_of_neg (by simpa using hc)
  rw [List.concat_eq_append, List.reverse_append, List.reverse_singleton, List.singleton_append]
  simp [newlinePieces, hstrip, flush]

theorem indentLength_backslash (h : IsSolid line) (rest : List Char) :
    indentLength (backslash line ++ rest) = 0 := by
  obtain ⟨c, cs, rfl⟩ := List.exists_cons_of_ne_nil h.ne_nil
  have hblank := h.first c rfl
  have hindent : isIndent c = false := by
    simp [isIndent, ne_of_isBlank hblank (d := ' ') rfl, ne_of_isBlank hblank (d := '\t') rfl]
  rcases backslashChar_cases c with ⟨_, hc⟩ | ⟨_, hc⟩
  · simp [indentLength, hc, isIndent]
  · simp [indentLength, hc, hindent]

theorem scanFrom_lines {lines : List (List Char)} (h : ∀ line ∈ lines, IsSolid line) (before : Option Char) :
    scanFrom ctx before none (joinLines (lines.map backslash)) = (lineParts ctx.loc lines).map Part.toPiece := by
  induction lines generalizing before with
  | nil => rw [List.map_nil, joinLines, List.intercalate_nil, scanFrom]; rfl
  | cons line rest ih =>
      obtain ⟨hline, hrest⟩ := List.forall_mem_cons.1 h
      cases rest with
      | nil =>
          obtain ⟨last, hlast⟩ := scanFrom_line ctx hline.ne_nil hline.newline_not_mem before []
          rw [List.append_nil] at hlast
          rw [List.map_singleton, joinLines_singleton, hlast, scanFrom, flush, List.reverse_reverse]
          rfl
      | cons next rest =>
          obtain ⟨last, hlast⟩ :=
            scanFrom_line ctx hline.ne_nil hline.newline_not_mem before
              ('\n' :: joinLines ((next :: rest).map backslash))
          obtain ⟨more, hmore⟩ := exists_joinLines_cons (backslash next) (rest.map backslash)
          have hindent : indentLength (joinLines ((next :: rest).map backslash)) = 0 := by
            rw [List.map_cons, hmore, indentLength_backslash (List.forall_mem_cons.1 hrest).1]
          have hstep : step ctx last '\n' (joinLines ((next :: rest).map backslash)) = ⟨.newline, 0⟩ := by
            rw [← hindent]
            rfl
          have hne : (next :: rest).map backslash ≠ [] := List.cons_ne_nil _ _
          rw [List.map_cons, joinLines_cons hne, hlast, scanFrom_of_newline ctx hstep,
            newlinePieces_of_isSolid ctx hline, List.drop_zero, ih hrest,
            lineParts_cons (List.cons_ne_nil _ _)]
          rfl

end

/-- Lines with a backslash in front of every mark are read as text. -/
theorem read_backslash (settings : Settings) (loc : Location) {lines : List (List Char)}
    (h : ∀ line ∈ lines, IsSolid line) :
    read settings loc (joinLines (lines.map backslash)) = lineNodes loc lines := by
  have hscan := scanFrom_lines ⟨settings, loc, some (readWithin settings loc (maxLabelNesting - 1))⟩ h none
  rw [← nodes_lineParts, ← assemble_toPiece, ← hscan]
  rfl

end Inline

end MarkdownOutline
