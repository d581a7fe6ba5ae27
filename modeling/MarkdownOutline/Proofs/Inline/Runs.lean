import MarkdownOutline.Proofs.Inline.Frames

namespace MarkdownOutline.Inline

section

variable (ctx : Context)

theorem scanFrom_of_text {before : Option Char} {pending : Option (List Char)} {c : Char}
    {rest text : List Char} {taken : Nat} (h : step ctx before c rest = ⟨.text text, taken⟩) :
    scanFrom ctx before pending (c :: rest) =
      scanFrom ctx (some ((rest.take taken).getLastD c)) (some (text.reverse ++ pending.getD []))
        (rest.drop taken) := by
  rw [scanFrom]
  simp only [h]

theorem scanFrom_of_piece {before : Option Char} {pending : Option (List Char)} {c : Char}
    {rest : List Char} {piece : Piece} {taken : Nat} (h : step ctx before c rest = ⟨.piece piece, taken⟩) :
    scanFrom ctx before pending (c :: rest) =
      flush pending ++ piece :: scanFrom ctx (some ((rest.take taken).getLastD c)) none
        (rest.drop taken) := by
  rw [scanFrom]
  simp only [h]

theorem scanFrom_of_newline {before : Option Char} {pending : Option (List Char)} {c : Char}
    {rest : List Char} {taken : Nat} (h : step ctx before c rest = ⟨.newline, taken⟩) :
    scanFrom ctx before pending (c :: rest) =
      newlinePieces ctx pending ++ scanFrom ctx (some ((rest.take taken).getLastD c)) none
        (rest.drop taken) := by
  rw [scanFrom]
  simp only [h]

end

section

variable {settings : Settings} {loc : Location} {a b : Option (List Char → List Node)}

theorem step_congr_label {c : Char} {rest : List Char}
    (hlink : c = '[' → readLink? ⟨settings, loc, a⟩ rest = readLink? ⟨settings, loc, b⟩ rest)
    (himage : c = '!' && rest.head? == some '[' →
      readLink? ⟨settings, loc, a⟩ rest.tail = readLink? ⟨settings, loc, b⟩ rest.tail)
    (before : Option Char) :
    step ⟨settings, loc, a⟩ before c rest = step ⟨settings, loc, b⟩ before c rest := by
  have hlinkStep : c = '[' → linkStep ⟨settings, loc, a⟩ rest = linkStep ⟨settings, loc, b⟩ rest := by
    intro hc
    rw [linkStep, linkStep, hlink hc]
  have himageStep : c = '!' && rest.head? == some '[' →
      imageStep ⟨settings, loc, a⟩ rest = imageStep ⟨settings, loc, b⟩ rest := by
    intro hc
    rw [imageStep, imageStep, himage hc]
    rfl
  unfold step
  split
  · rfl
  split
  · rfl
  split
  · rfl
  split
  · exact himageStep ‹_›
  split
  · exact hlinkStep ‹_›
  · rfl

end

section

variable {settings : Settings} {loc : Location} {f g : List Char → List Node}

theorem readLink?_congr_label {cs : List Char} (h : ∀ label, label ⊆ cs → f label = g label) :
    readLink? ⟨settings, loc, some f⟩ cs = readLink? ⟨settings, loc, some g⟩ cs := by
  cases hlink : link? cs with
  | none => simp [readLink?, hlink]
  | some found =>
      obtain ⟨reference, taken⟩ := found
      simp [readLink?, hlink, h reference.label (label_subset hlink)]

/-- A text is scanned alike by readers that agree on everything within it. -/
theorem scanFrom_congr_label (before : Option Char) (pending : Option (List Char)) (cs : List Char)
    (h : ∀ label, label ⊆ cs → f label = g label) :
    scanFrom ⟨settings, loc, some f⟩ before pending cs =
      scanFrom ⟨settings, loc, some g⟩ before pending cs := by
  have hstep {before : Option Char} {c : Char} {rest : List Char}
      (h : ∀ label, label ⊆ c :: rest → f label = g label) :
      step ⟨settings, loc, some g⟩ before c rest = step ⟨settings, loc, some f⟩ before c rest := by
    refine step_congr_label (fun _ => ?_) (fun _ => ?_) before
    · refine readLink?_congr_label fun label hlabel => (h label ?_).symm
      exact fun d hd => List.mem_cons_of_mem c (hlabel hd)
    · refine readLink?_congr_label fun label hlabel => (h label ?_).symm
      exact fun d hd => List.mem_cons_of_mem c (List.mem_of_mem_tail (hlabel hd))
  have hdrop {c : Char} {rest : List Char} {n : Nat} (h : ∀ label, label ⊆ c :: rest → f label = g label) :
      ∀ label, label ⊆ rest.drop n → f label = g label := fun label hlabel =>
    h label fun d hd => List.mem_cons_of_mem c (List.mem_of_mem_drop (hlabel hd))
  fun_induction scanFrom ⟨settings, loc, some f⟩ before pending cs with
  | case1 before pending => rw [scanFrom]
  | case2 before pending c rest s last text hfound ih =>
      have htext : step ⟨settings, loc, some g⟩ before c rest = ⟨.text text, s.taken⟩ := by
        rw [hstep h, ← hfound]
      rw [scanFrom_of_text _ htext]
      exact ih (hdrop h)
  | case3 before pending c rest s last piece hfound ih =>
      have hpiece : step ⟨settings, loc, some g⟩ before c rest = ⟨.piece piece, s.taken⟩ := by
        rw [hstep h, ← hfound]
      rw [scanFrom_of_piece _ hpiece, ← ih (hdrop h)]
  | case4 before pending c rest s last hfound ih =>
      have hnewline : step ⟨settings, loc, some g⟩ before c rest = ⟨.newline, s.taken⟩ := by
        rw [hstep h, ← hfound]
      rw [scanFrom_of_newline _ hnewline, ← ih (hdrop h)]
      rfl

end

def Found.run? : Found → Option Run
  | .piece (.run r) => some r
  | _ => none

theorem extent_between (mark : Char) (length : Nat) (before after : Option Char) :
    (Run.between mark length before after).extent = (mark, length) := by
  rw [Run.between]
  split <;> rfl

theorem isFresh_between {mark : Char} (hmark : IsRunMark mark) {length : Nat} (h : 0 < length)
    (before after : Option Char) : (Run.between mark length before after).IsFresh := by
  rw [Run.between]
  split <;> exact ⟨hmark, h, rfl, rfl, rfl⟩

section

variable {ctx : Context}

theorem run?_escapeStep (rest : List Char) : (escapeStep ctx rest).found.run? = none := by
  unfold escapeStep
  split
  · rfl
  · split <;> rfl
  · rfl

theorem run?_codeStep (rest : List Char) : (codeStep ctx rest).found.run? = none := by
  rw [codeStep]
  split <;> rfl

theorem run?_linkStep (rest : List Char) : (linkStep ctx rest).found.run? = none := by
  rw [linkStep]
  split <;> rfl

theorem run?_imageStep (rest : List Char) : (imageStep ctx rest).found.run? = none := by
  rw [imageStep]
  split <;> rfl

theorem run?_entityStep (rest : List Char) : (entityStep rest).found.run? = none := by
  rw [entityStep]
  split <;> rfl

theorem run?_readAutolink? {rest : List Char} {s : Step} (h : readAutolink? ctx rest = some s) :
    s.found.run? = none := by
  rw [readAutolink?] at h
  split at h
  · cases h
    rfl
  · obtain ⟨address, _, rfl⟩ := Option.map_eq_some_iff.1 h
    rfl

theorem run?_angleStep (rest : List Char) : (angleStep ctx rest).found.run? = none := by
  rw [angleStep]
  cases haddress : (if ctx.settings.autolinks then readAutolink? ctx rest else none) with
  | some s => exact run?_readAutolink? (Option.ite_none_right_eq_some.1 haddress).2
  | none =>
      cases htag : (if ctx.settings.inlineHtml then readTag? ctx rest else none) with
      | some s =>
          obtain ⟨size, _, rfl⟩ := Option.map_eq_some_iff.1 (Option.ite_none_right_eq_some.1 htag).2
          rfl
      | none => rfl

/-- Only a character that marks runs begins one, and the run begins with it. -/
theorem run_of_step {before : Option Char} {c : Char} {rest : List Char} {r : Run}
    (h : (step ctx before c rest).found.run? = some r) :
    IsRunMark c ∧ ∃ length after, r = Run.between c (length + 1) before after := by
  rw [step] at h
  split at h
  · simp [run?_escapeStep] at h
  split at h
  · simp [run?_codeStep] at h
  split at h
  · rename_i hmark
    refine ⟨?_, _, _, (Option.some.inj h).symm⟩
    simp only [Bool.or_eq_true, Bool.and_eq_true, decide_eq_true_eq] at hmark
    rcases hmark with (hc | hc) | ⟨hc, _⟩
    · exact .inl hc
    · exact .inr (.inl hc)
    · exact .inr (.inr hc)
  split at h
  · simp [run?_imageStep] at h
  split at h
  · simp [run?_linkStep] at h
  split at h
  · simp [run?_angleStep] at h
  split at h
  · simp [run?_entityStep] at h
  split at h <;> cases h

theorem filterMap_run?_flush (pending : Option (List Char)) :
    (flush pending).filterMap Piece.run? = [] := by
  cases pending <;> rfl

theorem forall_runs_scanFrom {P : Run → Prop} (before : Option Char) (pending : Option (List Char))
    (cs : List Char) (h : ∀ c ∈ cs, IsRunMark c → ∀ length before after, 0 < length →
      P (Run.between c length before after)) :
    ∀ r ∈ (scanFrom ctx before pending cs).filterMap Piece.run?, P r := by
  have hdrop {c : Char} {rest : List Char} {n : Nat} : rest.drop n ⊆ c :: rest := fun d hd =>
    List.mem_cons_of_mem _ (List.mem_of_mem_drop hd)
  fun_induction scanFrom ctx before pending cs with
  | case1 before pending =>
      rw [filterMap_run?_flush]
      exact fun _ hr => (List.not_mem_nil hr).elim
  | case2 before pending c rest s last text hfound ih => exact ih fun d hd => h d (hdrop hd)
  | case3 before pending c rest s last piece hfound ih =>
      have ih := ih fun d hd => h d (hdrop hd)
      rw [List.filterMap_append, filterMap_run?_flush, List.nil_append]
      cases piece with
      | text cs => exact ih
      | node n => exact ih
      | run r =>
          rw [filterMap_run?_cons]
          refine List.forall_mem_cons.2 ⟨?_, ih⟩
          have hrun : (step ctx before c rest).found.run? = some r := congrArg Found.run? hfound
          obtain ⟨hmark, length, after, rfl⟩ := run_of_step hrun
          exact h c (List.mem_cons_self ..) hmark _ _ _ (Nat.succ_pos _)
  | case4 before pending c rest s last hfound ih =>
      rw [List.filterMap_append, newlinePieces, List.filterMap_append, filterMap_run?_flush]
      exact ih fun d hd => h d (hdrop hd)

theorem isFresh_of_mem_scanFrom (before : Option Char) (pending : Option (List Char)) (cs : List Char) :
    ∀ r ∈ (scanFrom ctx before pending cs).filterMap Piece.run?, r.IsFresh :=
  forall_runs_scanFrom before pending cs fun _ _ hmark _ before after hlength =>
    isFresh_between hmark hlength before after

theorem mark_mem_of_mem_scanFrom (before : Option Char) (pending : Option (List Char)) (cs : List Char) :
    ∀ r ∈ (scanFrom ctx before pending cs).filterMap Piece.run?, r.mark ∈ cs := by
  refine forall_runs_scanFrom before pending cs fun c hc _ length before after _ => ?_
  have hmark : (Run.between c length before after).mark = c :=
    congrArg Prod.fst (extent_between c length before after)
  rwa [hmark]

end

/-- In no text is a bond left that is not open, and none stays open at the end. -/
theorem assemble?_scan (ctx : Context) (loc : Location) (cs : List Char) :
    assemble? loc (scan ctx cs) = some (assemble loc (scan ctx cs)) :=
  assemble?_eq_some loc (isFresh_of_mem_scanFrom none none cs)

def read? (settings : Settings) (loc : Location) (cs : List Char) : Option (List Node) :=
  assemble? loc (scan ⟨settings, loc, some (readWithin settings loc (maxLabelNesting - 1))⟩ cs)

theorem read?_eq_some (settings : Settings) (loc : Location) (cs : List Char) :
    read? settings loc cs = some (read settings loc cs) := assemble?_scan _ loc cs

section

variable (settings : Settings) (loc : Location) (pair : List Run → List Run)

def assembleWith (pieces : List Piece) : List Node :=
  let paired := withRuns pieces (pair (pieces.filterMap Piece.run?))
  nodes loc (paired.foldl (Nest.addPiece loc) {}).base.reverse

/-- Reads text in which labels may nest `room` deep, with the runs of the text and of all labels paired
by `pair`. -/
def readWith : Nat → List Char → List Node
  | 0, cs => assembleWith loc pair (scan ⟨settings, loc, none⟩ cs)
  | room + 1, cs => assembleWith loc pair (scan ⟨settings, loc, some (readWith room)⟩ cs)

theorem readWithin_eq_readWith : ∀ room, readWithin settings loc room = readWith settings loc pairRuns room := by
  intro room
  induction room with
  | zero => rfl
  | succ room ih =>
      funext cs
      rw [readWithin, readWith, ih]
      rfl

end

section

variable {pair pair' : List Run → List Run} {cs : List Char}

theorem assembleWith_congr (loc : Location) (ctx : Context)
    (h : ∀ runs : List Run, (∀ r ∈ runs, r.IsFresh ∧ r.mark ∈ cs) → pair runs = pair' runs) :
    assembleWith loc pair (scan ctx cs) = assembleWith loc pair' (scan ctx cs) := by
  have hpair := h ((scan ctx cs).filterMap Piece.run?) fun r hr =>
    ⟨isFresh_of_mem_scanFrom none none cs r hr, mark_mem_of_mem_scanFrom none none cs r hr⟩
  rw [assembleWith, assembleWith, hpair]

/-- A text is read alike by pairings that agree on all runs whose marks are in it. -/
theorem readWith_congr (settings : Settings) (loc : Location) (room : Nat)
    (h : ∀ runs : List Run, (∀ r ∈ runs, r.IsFresh ∧ r.mark ∈ cs) → pair runs = pair' runs) :
    readWith settings loc pair room cs = readWith settings loc pair' room cs := by
  induction room generalizing cs with
  | zero => exact assembleWith_congr loc _ h
  | succ room ih =>
      have hscan : scan ⟨settings, loc, some (readWith settings loc pair room)⟩ cs =
          scan ⟨settings, loc, some (readWith settings loc pair' room)⟩ cs := by
        apply scanFrom_congr_label
        intro label hlabel
        exact ih fun runs hruns => h runs fun r hr => ⟨(hruns r hr).1, hlabel (hruns r hr).2⟩
      rw [readWith, readWith, assembleWith_congr loc _ h, hscan]

end

def punctuation? (neighbour : Option Char) : Option Bool := neighbour.map Text.isPunctuation

/-- A run between two neighbours, unless one of them is asked about that is not there. A low line
asks about a neighbour only where the run flanks text on both sides. -/
def Run.between? (mark : Char) (length : Nat) (before after : Option Char) : Option Run :=
  let f := flanks before after
  if mark = '_' then do
    let canOpen ← if f.left && f.right then punctuation? before else some f.left
    let canClose ← if f.right && f.left then punctuation? after else some f.right
    return { mark, length, canOpen, canClose }
  else some { mark, length, canOpen := f.left, canClose := f.right }

theorem isSome_of_flanks_left {before after : Option Char} (h : (flanks before after).left = true) :
    ∃ c, after = some c := by
  cases after with
  | none => cases h
  | some c => exact ⟨c, rfl⟩

theorem isSome_of_flanks_right {before after : Option Char} (h : (flanks before after).right = true) :
    ∃ c, before = some c := by
  cases before with
  | none => cases h
  | some c => exact ⟨c, rfl⟩

/-- A missing neighbour is never asked about. -/
theorem between?_eq_some (mark : Char) (length : Nat) (before after : Option Char) :
    Run.between? mark length before after = some (Run.between mark length before after) := by
  rw [Run.between?, Run.between]
  split
  · cases hleft : (flanks before after).left with
    | false => cases (flanks before after).right <;> rfl
    | true =>
        cases hright : (flanks before after).right with
        | false => rfl
        | true =>
            obtain ⟨a, rfl⟩ := isSome_of_flanks_left hleft
            obtain ⟨b, rfl⟩ := isSome_of_flanks_right hright
            rfl
  · rfl

end MarkdownOutline.Inline
