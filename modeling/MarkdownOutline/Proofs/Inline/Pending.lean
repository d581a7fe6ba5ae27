import Mathlib.Tactic.ByContra
import Mathlib.Tactic.SplitIfs
import MarkdownOutline.Proofs.Inline.Apart
import MarkdownOutline.Proofs.Inline.Length

namespace MarkdownOutline.Inline

open Text

/-- Nothing but spaces stands in front of the next newline, written out or as references. -/
inductive EndsLine : List Char → Prop
  | newline (rest : List Char) : EndsLine ('\n' :: rest)
  | space {rest : List Char} (h : EndsLine rest) : EndsLine (' ' :: rest)
  | reference {rest text : List Char} {taken : Nat} (hread : entity? rest = some (text, taken))
      (htext : ∀ c ∈ text, c = ' ') (h : EndsLine (rest.drop taken)) : EndsLine ('&' :: rest)

inductive Finds (c : Char) (rest : List Char) : Step → Prop
  | visible {text : List Char} {d : Char} (hmem : d ∈ text) (hd : d ≠ ' ') (taken : Nat) :
      Finds c rest ⟨.text text, taken⟩
  | space (hc : c = ' ') : Finds c rest ⟨.text [' '], 0⟩
  | reference {text : List Char} {taken : Nat} (hc : c = '&') (hread : entity? rest = some (text, taken)) :
      Finds c rest ⟨.text text, taken⟩
  | piece (piece : Piece) (taken : Nat) : Finds c rest ⟨.piece piece, taken⟩
  | newline (hc : c = '\n') (taken : Nat) : Finds c rest ⟨.newline, taken⟩

section

variable (ctx : Context) {c : Char} (rest : List Char)

theorem finds_escapeStep : Finds c rest (escapeStep ctx rest) := by
  unfold escapeStep
  split
  · exact .piece _ _
  · split_ifs with hpunctuation
    · refine .visible (List.mem_singleton_self _) ?_ 1
      rintro rfl
      cases hpunctuation
    · exact .visible (List.mem_singleton_self '\\') (by decide) 0
  · exact .visible (List.mem_singleton_self '\\') (by decide) 0

theorem finds_codeStep : Finds c rest (codeStep ctx rest) := by
  rw [codeStep]
  split
  · exact .piece _ _
  · exact .visible (List.mem_cons_self (a := '`')) (by decide) _

theorem finds_imageStep : Finds c rest (imageStep ctx rest) := by
  rw [imageStep]
  split
  · exact .piece _ _
  · exact .visible (List.mem_cons_self (a := '!')) (by decide) _

theorem finds_linkStep : Finds c rest (linkStep ctx rest) := by
  rw [linkStep]
  split
  · exact .piece _ _
  · exact .visible (List.mem_cons_self (a := '[')) (by decide) _

theorem finds_angleStep : Finds c rest (angleStep ctx rest) := by
  have hread : ∀ s ∈ (if ctx.settings.autolinks then readAutolink? ctx rest else none).or
      (if ctx.settings.inlineHtml then readTag? ctx rest else none), Finds c rest s := by
    intro s hs
    rcases Option.or_eq_some_iff.1 hs with hs | ⟨_, hs⟩
    · obtain ⟨_, hs⟩ := Option.ite_none_right_eq_some.1 hs
      rw [readAutolink?] at hs
      split at hs
      · cases hs
        exact .piece _ _
      · obtain ⟨address, _, rfl⟩ := Option.map_eq_some_iff.1 hs
        exact .piece _ _
    · obtain ⟨_, hs⟩ := Option.ite_none_right_eq_some.1 hs
      obtain ⟨size, _, rfl⟩ := Option.map_eq_some_iff.1 hs
      exact .piece _ _
  rw [angleStep]
  cases hor : (if ctx.settings.autolinks then readAutolink? ctx rest else none).or
      (if ctx.settings.inlineHtml then readTag? ctx rest else none) with
  | some s => exact hread s hor
  | none => exact .visible (List.mem_singleton_self '<') (by decide) 0

theorem finds_entityStep : Finds '&' rest (entityStep rest) := by
  rw [entityStep]
  split
  · exact .reference rfl ‹_›
  · exact .visible (List.mem_singleton_self '&') (by decide) 0

theorem finds_step (before : Option Char) (c : Char) : Finds c rest (step ctx before c rest) := by
  rw [step]
  split_ifs with hslash htick hmark himage hlink hangle hamp hline
  · exact finds_escapeStep ctx rest
  · exact finds_codeStep ctx rest
  · exact .piece _ _
  · exact finds_imageStep ctx rest
  · exact finds_linkStep ctx rest
  · exact finds_angleStep ctx rest
  · exact hamp ▸ finds_entityStep rest
  · exact .newline hline _
  · by_cases hc : c = ' '
    · exact hc ▸ .space rfl
    · exact .visible (List.mem_singleton_self c) hc 0

end

section

variable (ctx : Context)

theorem newlinePieces_of_dropWhile {text stripped : List Char} (hstrip : text.dropWhile (· = ' ') = stripped)
    (hne : stripped ≠ []) {k : Nat} (hlength : text.length = k + stripped.length) :
    newlinePieces ctx (some text) =
      [.text stripped.reverse, .node (.leaf ctx.loc (if 2 ≤ k then .lineBreak else .softBreak))] := by
  have hcount : stripped.length + 2 ≤ text.length ↔ 2 ≤ k := by omega
  simp only [newlinePieces, Option.getD_some, hstrip, hcount, List.isEmpty_iff, if_neg hne, flush]
  rfl

theorem dropWhile_word {word : List Char} (hne : word ≠ []) (hlast : word.getLast? ≠ some ' ') (front : List Char) :
    (word.reverse ++ front).dropWhile (· = ' ') = word.reverse ++ front := by
  obtain rfl | ⟨init, c, rfl⟩ := List.eq_nil_or_concat word
  · exact absurd rfl hne
  · rw [List.concat_eq_append] at hlast ⊢
    rw [List.getLast?_concat] at hlast
    rw [List.reverse_append, List.reverse_singleton, List.singleton_append, List.cons_append]
    exact List.dropWhile_cons_of_neg (by simpa using hlast)

/-- A word that does not end with spaces at the end of its line is kept. -/
theorem newlinePieces_word {word : List Char} (hne : word ≠ []) {behind : List Char}
    (hlast : word.getLast? = some ' ' → ∃ c ∈ behind, c ≠ ' ') (front : List Char) :
    newlinePieces ctx (some (behind ++ (word.reverse ++ front))) =
      [.text (front.reverse ++ (word ++ (behind.dropWhile (· = ' ')).reverse)),
        .node (.leaf ctx.loc
          (if 2 ≤ (behind.takeWhile (· = ' ')).length then .lineBreak else .softBreak))] := by
  have hsplit := List.takeWhile_append_dropWhile (p := (· = ' ')) (l := behind)
  have hstrip : (behind ++ (word.reverse ++ front)).dropWhile (· = ' ') =
      behind.dropWhile (· = ' ') ++ (word.reverse ++ front) := by
    rw [List.dropWhile_append]
    split
    · rename_i hempty
      rw [List.isEmpty_iff.1 hempty] at hsplit ⊢
      refine dropWhile_word hne (fun hspace => ?_) front
      obtain ⟨c, hc, hvisible⟩ := hlast hspace
      rw [← hsplit, List.append_nil] at hc
      exact hvisible (by simpa using List.all_eq_true.1 List.all_takeWhile c hc)
    · rfl
  have hlength : (behind ++ (word.reverse ++ front)).length = (behind.takeWhile (· = ' ')).length +
      (behind.dropWhile (· = ' ') ++ (word.reverse ++ front)).length := by
    rw [← List.length_append, ← List.append_assoc (behind.takeWhile _), hsplit]
  rw [newlinePieces_of_dropWhile ctx hstrip (by simp [hne]) hlength]
  simp

theorem oneApart_scanFrom {w w' : List Char} (hw : w ≠ []) (hw' : w' ≠ []) (front : List Char)
    (before : Option Char) (behind cs : List Char)
    (hspace : w.getLast? = some ' ' ∨ w'.getLast? = some ' ' → (∀ c ∈ behind, c = ' ') → ¬EndsLine cs) :
    OneApart (PieceApart w w') (scanFrom ctx before (some (behind ++ (w.reverse ++ front))) cs)
      (scanFrom ctx before (some (behind ++ (w'.reverse ++ front))) cs) := by
  induction hn : cs.length using Nat.strongRecOn generalizing before behind cs with
  | ind n ih =>
      have hflush (behind : List Char) : OneApart (PieceApart w w')
          (flush (some (behind ++ (w.reverse ++ front)))) (flush (some (behind ++ (w'.reverse ++ front)))) := by
        have hword := OneApart.here (PieceApart.part (@PartApart.text w w' front.reverse behind.reverse)) []
        simpa [flush, Part.toPiece] using hword
      cases cs with
      | nil =>
          rw [scanFrom, scanFrom]
          exact hflush behind
      | cons c rest =>
          rcases hstep : step ctx before c rest with ⟨found, taken⟩
          have hshorter : (rest.drop taken).length < n := by
            rw [← hn, List.length_drop, List.length_cons]
            omega
          cases found with
          | text text =>
              rw [scanFrom_of_text ctx hstep, scanFrom_of_text ctx hstep]
              have hnext := ih _ hshorter (some ((rest.take taken).getLastD c)) (text.reverse ++ behind)
                (rest.drop taken) ?_ rfl
              · simpa using hnext
              · intro hword hall hends
                have hbehind : ∀ d ∈ behind, d = ' ' := fun d hd => hall d (List.mem_append_right _ hd)
                have htext : ∀ d ∈ text, d = ' ' := fun d hd =>
                  hall d (List.mem_append_left _ (List.mem_reverse.2 hd))
                refine hspace hword hbehind ?_
                have hfinds := finds_step ctx rest before c
                rw [hstep] at hfinds
                cases hfinds with
                | visible hmem hd => exact absurd (htext _ hmem) hd
                | space hc => exact hc ▸ .space hends
                | reference hc hread => exact hc ▸ .reference hread htext hends
          | piece piece =>
              rw [scanFrom_of_piece ctx hstep, scanFrom_of_piece ctx hstep]
              exact (hflush behind).append_right _
          | newline =>
              rw [scanFrom_of_newline ctx hstep, scanFrom_of_newline ctx hstep]
              refine OneApart.append_right ?_ _
              have hends : EndsLine (c :: rest) := by
                have hfinds := finds_step ctx rest before c
                rw [hstep] at hfinds
                cases hfinds with
                | newline hc => exact hc ▸ .newline rest
              have hkept (hlast : w.getLast? = some ' ' ∨ w'.getLast? = some ' ') : ∃ d ∈ behind, d ≠ ' ' := by
                by_contra hall
                exact hspace hlast (fun d hd => not_not.1 fun hne => hall ⟨d, hd, hne⟩) hends
              rw [newlinePieces_word ctx hw fun hlast => hkept (.inl hlast),
                newlinePieces_word ctx hw' fun hlast => hkept (.inr hlast)]
              exact .here (.part (.text front.reverse _)) _

theorem textLengths_newlinePieces (text : List Char) :
    Piece.textLengths (newlinePieces ctx (some text)) = (text.dropWhile (· = ' ')).length + 1 := by
  have hbreak (content : Leaf) (h : content = .lineBreak ∨ content = .softBreak) :
      (Piece.node (.leaf ctx.loc content)).textLength = 1 := by
    rw [Piece.textLength, Node.plainText]
    rcases h with rfl | rfl <;> decide
  simp only [newlinePieces, Option.getD_some, Piece.textLengths_append, Piece.textLengths_cons,
    Piece.textLengths_nil, Nat.add_zero]
  rw [hbreak _ (by split <;> simp)]
  refine congrArg (· + 1) ?_
  cases text.dropWhile (· = ' ') with
  | nil => rfl
  | cons c rest => simp [flush, Piece.textLength]

/-- A space that is pending at the end of its line is lost. -/
theorem outgrown_scanFrom {word : List Char} (hne : word ≠ []) (hlast : word.getLast? ≠ some ' ')
    (front : List Char) {cs : List Char} (h : EndsLine cs) (before : Option Char) {behind : List Char}
    (hbehind : ∀ c ∈ behind, c = ' ') :
    Outgrown word.length (scanFrom ctx before (some (behind ++ ([' '].reverse ++ front))) cs)
      (scanFrom ctx before (some (behind ++ (word.reverse ++ front))) cs) := by
  induction h generalizing before behind with
  | newline rest =>
      have hstep : step ctx before '\n' rest = ⟨.newline, indentLength rest⟩ := rfl
      rw [scanFrom_of_newline ctx hstep, scanFrom_of_newline ctx hstep]
      have hdrop (text : List Char) : (behind ++ text).dropWhile (· = ' ') = text.dropWhile (· = ' ') :=
        List.dropWhile_append_of_pos fun c hc => decide_eq_true (hbehind c hc)
      have hruns (pending : Option (List Char)) : (newlinePieces ctx pending).filterMap Piece.run? = [] := by
        rw [newlinePieces, List.filterMap_append, filterMap_run?_flush]
        rfl
      constructor
      · rw [List.filterMap_append, List.filterMap_append, hruns, hruns]
      · have hlost := (List.dropWhile_suffix (l := front) (· = ' ')).length_le
        simp only [Piece.textLengths_append, textLengths_newlinePieces, hdrop, dropWhile_word hne hlast, List.length_append,
          List.length_reverse]
        have hspace : ([' '].reverse ++ front).dropWhile (· = ' ') = front.dropWhile (· = ' ') := rfl
        rw [hspace]
        omega
  | @space rest h ih =>
      have hstep : step ctx before ' ' rest = ⟨.text [' '], 0⟩ := step_of_not_mark ctx rfl (by decide) before rest
      rw [scanFrom_of_text ctx hstep, scanFrom_of_text ctx hstep]
      exact ih (some ' ') (List.forall_mem_cons.2 ⟨rfl, hbehind⟩)
  | @reference rest text taken hread htext h ih =>
      have hamp : step ctx before '&' rest = entityStep rest := rfl
      have hstep : step ctx before '&' rest = ⟨.text text, taken⟩ := by rw [hamp, entityStep, hread]
      rw [scanFrom_of_text ctx hstep, scanFrom_of_text ctx hstep]
      have hspaces : ∀ c ∈ text.reverse ++ behind, c = ' ' :=
        List.forall_mem_append.2 ⟨fun c hc => htext c (List.mem_reverse.1 hc), hbehind⟩
      simpa only [Option.getD_some, List.append_assoc] using ih _ hspaces

end

end MarkdownOutline.Inline
