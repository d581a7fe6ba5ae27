import MarkdownOutline.Proofs.Inline.Spells

namespace MarkdownOutline

namespace Inline

def Piece.chars : Piece → List Char
  | text cs => cs
  | node _ => []
  | run r => List.replicate r.length r.mark

/-- Texts and runs, no two runs of one mark side by side, and the first not of the mark in front. -/
inductive Apart : Option Char → List Piece → Prop
  | nil (last) : Apart last []
  | text {last cs pieces} : Apart none pieces → Apart last (.text cs :: pieces)
  | run {last r pieces} : last ≠ some r.mark → 0 < r.length → Apart (some r.mark) pieces →
      Apart last (.run r :: pieces)

theorem spells_foldl (loc : Location) {last : Option Char} {pieces : List Piece} (hapart : Apart last pieces)
    {stack stack' : List Opening} (h : Nested stack (pieces.filterMap Piece.run?) stack') {nest : Nest}
    {cs : List Char} (hnest : nest.Spells stack cs)
    (hfull : nest.innermost = [] → ∀ o ∈ stack.head?, last = some o.mark) :
    (pieces.foldl (Nest.addPiece loc) nest).Spells stack' (cs ++ pieces.flatMap Piece.chars) := by
  induction hapart generalizing stack nest cs with
  | nil last =>
      cases h
      simpa using hnest
  | @text last text pieces _ ih =>
      rw [List.flatMap_cons, ← List.append_assoc]
      have hadded : (nest.add (.text text)).Spells stack (cs ++ text) := hnest.add rfl trivial
      have hopen := Nest.innermost_add nest (.text text)
      refine ih h hadded fun hempty => ?_
      cases hopen.symm.trans hempty
  | @run last run pieces hlast hpos _ ih =>
      rw [filterMap_run?_cons] at h
      rw [List.flatMap_cons, ← List.append_assoc]
      cases h with
      | @cons _ _ inner outer _ hcloses h =>
          have hinner : inner ≠ [] → nest.innermost ≠ [] := by
            intro hne hempty
            obtain ⟨o, rest, rfl⟩ := List.exists_cons_of_ne_nil hne
            refine hlast ?_
            rw [← hcloses.marks o (List.mem_cons_self ..)]
            exact hfull hempty o rfl
          obtain ⟨hadded, hopened⟩ := hnest.addRun loc hcloses hpos hinner
          refine ih h hadded fun hempty o ho => ?_
          have hopens : run.openings ≠ [] := by simpa [Run.openings] using hopened hempty
          obtain ⟨first, rest, hfirst⟩ := List.exists_cons_of_ne_nil hopens
          rw [hfirst] at ho
          obtain rfl : first = o := Option.some.inj ho
          have hmark : first ∈ run.openings := hfirst ▸ List.mem_cons_self ..
          obtain ⟨bond, _, rfl⟩ := List.mem_map.1 (List.mem_reverse.1 hmark)
          rfl

theorem chars_withRuns {pieces : List Piece} {runs : List Run}
    (h : runs.map Run.extent = (pieces.filterMap Piece.run?).map Run.extent) :
    (withRuns pieces runs).flatMap Piece.chars = pieces.flatMap Piece.chars := by
  fun_induction withRuns pieces runs with
  | case1 => rfl
  | case2 r pieces run runs ih =>
      rw [filterMap_run?_cons, List.map_cons, List.map_cons] at h
      obtain ⟨hextent, h⟩ := List.cons.inj h
      obtain ⟨hmark, hlength⟩ := Prod.mk.inj hextent
      rw [List.flatMap_cons, List.flatMap_cons, ih h]
      simp only [Piece.chars, hmark, hlength]
  | case3 piece pieces runs hpiece ih =>
      cases piece with
      | text cs => exact congrArg (cs ++ ·) (ih h)
      | node n => exact ih h
      | run r =>
          cases runs with
          | nil => cases h
          | cons run runs => exact (hpiece r run runs rfl rfl).elim

theorem apart_withRuns {last : Option Char} {pieces : List Piece} (hapart : Apart last pieces)
    {runs : List Run} (h : runs.map Run.extent = (pieces.filterMap Piece.run?).map Run.extent) :
    Apart last (withRuns pieces runs) := by
  induction hapart generalizing runs with
  | nil last => exact .nil last
  | text _ ih => exact .text (ih h)
  | @run last r pieces hlast hpos _ ih =>
      cases runs with
      | nil => cases h
      | cons run runs =>
          rw [filterMap_run?_cons, List.map_cons, List.map_cons] at h
          obtain ⟨hextent, h⟩ := List.cons.inj h
          obtain ⟨hmark, hlength⟩ := Prod.mk.inj hextent
          refine .run (hmark ▸ hlast) (hlength ▸ hpos) ?_
          rw [hmark]
          exact ih h

/-- What is put together from pieces spells them, without empty branches and split texts. -/
theorem spells_assemble (loc : Location) {pieces : List Piece} (hapart : Apart none pieces)
    (hfresh : ∀ r ∈ pieces.filterMap Piece.run?, r.IsFresh) :
    Node.SpellAll (assemble loc pieces) (pieces.flatMap Piece.chars) ∧
      Node.AreTidy (assemble loc pieces) := by
  obtain ⟨hnested, hextents⟩ := nested_pairRuns hfresh
  have hlength : (pairRuns (pieces.filterMap Piece.run?)).length = (pieces.filterMap Piece.run?).length := by
    simpa using congrArg List.length hextents
  rw [← filterMap_withRuns hlength] at hnested
  have hempty : Nest.Spells {} [] [] := .base .nil fun _ hp => (List.not_mem_nil hp).elim
  have hspells := spells_foldl loc (apart_withRuns hapart hextents) hnested hempty
    fun _ _ ho => by cases ho
  rw [List.nil_append, chars_withRuns hextents] at hspells
  rw [assemble]
  generalize (withRuns pieces (pairRuns (pieces.filterMap Piece.run?))).foldl (Nest.addPiece loc) {} = nest
    at hspells
  cases hspells with
  | base hbase htidy =>
      exact ⟨hbase.joinTexts.toNodes loc, areTidy_nodes loc fun p hp => htidy p (List.mem_reverse.1 hp)⟩

def IsEmphasisChar (c : Char) : Prop :=
  c ≠ '\\' ∧ c ≠ '`' ∧ c ≠ '[' ∧ c ≠ '<' ∧ c ≠ '&' ∧ c ≠ '\n'

instance : DecidablePred IsEmphasisChar := fun _ => inferInstanceAs (Decidable (_ ∧ _))

section

variable (ctx : Context)

theorem step_of_isEmphasisChar {c : Char} {rest : List Char} (hc : IsEmphasisChar c)
    (hrest : ∀ d ∈ rest, IsEmphasisChar d) (before : Option Char) :
    step ctx before c rest = runStep before c rest ∨ step ctx before c rest = ⟨.text [c], 0⟩ := by
  obtain ⟨hescape, hcode, hlink, hangle, hentity, hnewline⟩ := hc
  have himage : (c = '!' && rest.head? == some '[') = false := by
    cases rest with
    | nil => simp
    | cons d rest => simp [(hrest d (List.mem_cons_self ..)).2.2.1]
  rw [step, if_neg hescape, if_neg hcode]
  split
  · exact .inl rfl
  · right
    simp only [himage, if_false, Bool.false_eq_true]

theorem chars_flush (pending : Option (List Char)) :
    (flush pending).flatMap Piece.chars = (pending.getD []).reverse := by
  cases pending <;> simp [flush, Piece.chars]

theorem Apart.flush {last : Option Char} {pending : Option (List Char)} {r : Run} {pieces : List Piece}
    (hlast : pending = none → last ≠ some r.mark) (hpos : 0 < r.length)
    (h : Apart (some r.mark) pieces) : Apart last (flush pending ++ .run r :: pieces) := by
  cases pending with
  | none => exact .run (hlast rfl) hpos h
  | some cs => exact .text (.run (fun hnone => by cases hnone) hpos h)

/-- Without other syntax the pieces of a text are its characters, and its runs are as long as can
be. -/
theorem apart_scanFrom (before : Option Char) (pending : Option (List Char)) {cs : List Char}
    (h : ∀ c ∈ cs, IsEmphasisChar c) (last : Option Char)
    (hlast : pending = none → ∀ c ∈ cs.head?, last ≠ some c) :
    Apart last (scanFrom ctx before pending cs) ∧
      (scanFrom ctx before pending cs).flatMap Piece.chars = (pending.getD []).reverse ++ cs := by
  match cs with
  | [] =>
      rw [scanFrom, chars_flush, List.append_nil]
      cases pending with
      | none => exact ⟨.nil last, rfl⟩
      | some cs => exact ⟨.text (.nil none), rfl⟩
  | c :: rest =>
      obtain ⟨hc, hrest⟩ := List.forall_mem_cons.1 h
      rcases step_of_isEmphasisChar ctx hc hrest before with hs | hs
      · have hafter : ∀ d ∈ rest.drop (countLeading c rest), IsEmphasisChar d := fun d hd =>
          hrest d (List.mem_of_mem_drop hd)
        have hnext : ∀ d ∈ (rest.drop (countLeading c rest)).head?, some c ≠ some d := by
          rintro d hd hsame
          exact head?_drop_countLeading c rest (hsame ▸ hd)
        obtain ⟨hapart, hchars⟩ := apart_scanFrom
          (some ((rest.take (countLeading c rest)).getLastD c)) none hafter (some c) fun _ => hnext
        have hextent := extent_between c (countLeading c rest + 1) before
          (rest.drop (countLeading c rest)).head?
        obtain ⟨hmark, hlength⟩ := Prod.mk.inj hextent
        rw [scanFrom_of_piece ctx hs, List.flatMap_append, chars_flush, List.flatMap_cons, hchars,
          Piece.chars, hmark, hlength]
        refine ⟨Apart.flush ?_ ?_ ?_, ?_⟩
        · intro hnone
          rw [hmark]
          exact hlast hnone c rfl
        · rw [hlength]
          exact Nat.succ_pos _
        · rw [hmark]
          exact hapart
        · rw [List.replicate_succ, List.cons_append, Option.getD_none, List.reverse_nil, List.nil_append,
            replicate_countLeading]
      · obtain ⟨hapart, hchars⟩ := apart_scanFrom (some c) (some (c :: pending.getD [])) hrest last
          fun hnone => by cases hnone
        rw [scanFrom_of_text ctx hs]
        refine ⟨hapart, hchars.trans ?_⟩
        simp
termination_by cs.length

end

/-- What is read from a text without other syntax spells the text, whatever marks are paired in it.
No emphasis is empty and no text is split, no bond is left that is not open, and none stays open at
the end. -/
theorem read_spells (settings : Settings) (loc : Location) {cs : List Char}
    (h : ∀ c ∈ cs, IsEmphasisChar c) :
    Node.SpellAll (read settings loc cs) cs ∧ Node.AreTidy (read settings loc cs) ∧
      read? settings loc cs = some (read settings loc cs) := by
  have hstart : ∀ c ∈ cs.head?, none ≠ some c := fun c _ hnone => by cases hnone
  obtain ⟨hapart, hchars⟩ := apart_scanFrom ⟨settings, loc, some (readWithin settings loc 31)⟩ none none
    h none fun _ => hstart
  obtain ⟨hspells, htidy⟩ := spells_assemble loc hapart (isFresh_of_mem_scanFrom none none cs)
  rw [hchars] at hspells
  exact ⟨hspells, htidy, read?_eq_some settings loc cs⟩

def partlyPaired : List Node :=
  [.leaf ⟨1, 1, none, none⟩ (.text "**"),
    .branch ⟨1, 1, none, none⟩ .emphasis [.leaf ⟨1, 1, none, none⟩ (.text "a")],
    .leaf ⟨1, 1, none, none⟩ (.text " "),
    .branch ⟨1, 1, none, none⟩ .emphasis
      [.leaf ⟨1, 1, none, none⟩ (.text "b"),
        .branch ⟨1, 1, none, none⟩ .strikethrough [.leaf ⟨1, 1, none, none⟩ (.text "c")]]]

/-- Of three stars one opens an emphasis, and the others stay text. -/
theorem partlyPaired_spells : (∀ c ∈ "***a* _b~~c~~_".toList, IsEmphasisChar c) ∧
    read {} ⟨1, 1, none, none⟩ "***a* _b~~c~~_".toList = partlyPaired ∧
    Node.SpellAll partlyPaired "***a* _b~~c~~_".toList := by
  have hall : "***a* _b~~c~~_".toList.all (fun c => decide (IsEmphasisChar c)) = true := by decide
  have hchars : ∀ c ∈ "***a* _b~~c~~_".toList, IsEmphasisChar c :=
    fun c hc => of_decide_eq_true (List.all_eq_true.1 hall c hc)
  have hread : read {} ⟨1, 1, none, none⟩ "***a* _b~~c~~_".toList = partlyPaired := by decide +kernel
  have hspells := (read_spells {} ⟨1, 1, none, none⟩ hchars).1
  rw [hread] at hspells
  exact ⟨hchars, hread, hspells⟩

end Inline

end MarkdownOutline
