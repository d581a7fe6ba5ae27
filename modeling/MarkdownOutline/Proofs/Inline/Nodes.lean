import MarkdownOutline.Inline.Read
import MarkdownOutline.Proofs.Inline.CodeSpan

namespace MarkdownOutline

def Leaf.IsInline : Leaf → Prop
  | codeBlock .. | thematicBreak | htmlBlock _ | other _ => False
  | text _ | codeSpan _ | htmlInline _ | image .. | lineBreak | softBreak => True

def Branch.IsInline : Branch → Prop
  | emphasis | strong | strikethrough | link .. => True
  | _ => False

mutual

def Node.IsInline : Node → Prop
  | .leaf _ content => content.IsInline
  | .branch _ shape children => shape.IsInline ∧ Node.AreInline children

def Node.AreInline : List Node → Prop
  | [] => True
  | child :: rest => child.IsInline ∧ Node.AreInline rest

end

theorem Node.areInline_iff {nodes : List Node} : Node.AreInline nodes ↔ ∀ n ∈ nodes, n.IsInline := by
  induction nodes with
  | nil => simp [Node.AreInline]
  | cons n rest ih => rw [Node.AreInline, ih, List.forall_mem_cons]

def Leaf.IsDrawn (settings : Settings) (T : Char → Prop) : Leaf → Prop
  | codeSpan code => ∀ c ∈ code.toList, T c
  | htmlInline _ => settings.inlineHtml = true
  | _ => True

namespace Inline

/-- A property that the reader of inline text keeps up: inline leaves have it, and an inline branch
has it if its children do. -/
structure Rules (loc : Location) (P : Node → Prop) : Prop where
  leaf : ∀ content : Leaf, content.IsInline → P (.leaf loc content)
  branch : ∀ (shape : Branch) (children : List Node), shape.IsInline → (∀ c ∈ children, P c) →
    P (.branch loc shape children)

structure Draws (settings : Settings) (T : Char → Prop) (loc : Location) (P : Node → Prop) : Prop where
  leaf : ∀ content : Leaf, content.IsInline → content.IsDrawn settings T → P (.leaf loc content)
  branch : ∀ (shape : Branch) (children : List Node), shape.IsInline → (∀ c ∈ children, P c) →
    P (.branch loc shape children)

theorem Rules.draws {loc : Location} {P : Node → Prop} (hP : Rules loc P) (settings : Settings)
    (T : Char → Prop) : Draws settings T loc P where
  leaf content h _ := hP.leaf content h
  branch := hP.branch

theorem isInline_rules (loc : Location) : Rules loc Node.IsInline where
  leaf _ h := h
  branch _ _ hshape h := ⟨hshape, Node.areInline_iff.2 h⟩

def Part.Holds (P : Node → Prop) : Part → Prop
  | text _ => True
  | node n => P n

def Piece.Holds (P : Node → Prop) : Piece → Prop
  | text _ | run _ => True
  | node n => P n

theorem forall_mem_joinTexts {P : Part → Prop} (htext : ∀ cs, P (.text cs)) {parts : List Part}
    (h : ∀ p ∈ parts, P p) : ∀ p ∈ joinTexts parts, P p := by
  induction parts with
  | nil => exact h
  | cons part parts ih =>
      obtain ⟨hpart, hparts⟩ := List.forall_mem_cons.1 h
      have ih := ih hparts
      cases part with
      | text cs =>
          rw [joinTexts]
          split
          · rw [‹joinTexts parts = _›] at ih
            exact List.forall_mem_cons.2 ⟨htext _, (List.forall_mem_cons.1 ih).2⟩
          · exact List.forall_mem_cons.2 ⟨htext _, ih⟩
      | node n => exact List.forall_mem_cons.2 ⟨hpart, ih⟩

theorem isInline_branch (bond : Bond) : bond.branch.IsInline := by
  cases bond <;> trivial

structure Joins (loc : Location) (P : Node → Prop) : Prop where
  text : ∀ content : String, P (.leaf loc (.text content))
  bond : ∀ (bond : Bond) (children : List Node), (∀ c ∈ children, P c) → P (.branch loc bond.branch children)

theorem Draws.joins {settings : Settings} {T : Char → Prop} {loc : Location} {P : Node → Prop}
    (hP : Draws settings T loc P) : Joins loc P where
  text _ := hP.leaf _ trivial trivial
  bond bond children h := hP.branch _ children (isInline_branch bond) h

structure Nest.Holds (P : Node → Prop) (nest : Nest) : Prop where
  base : ∀ p ∈ nest.base, p.Holds P
  bonds : ∀ b ∈ nest.bonds, ∀ p ∈ b.2, p.Holds P

section

variable {loc : Location} {P : Node → Prop}

theorem Nest.Holds.add {nest : Nest} (h : nest.Holds P) {part : Part} (hpart : part.Holds P) :
    (nest.add part).Holds P := by
  rcases nest with ⟨base, _ | ⟨⟨bond, parts⟩, outer⟩⟩
  · exact ⟨List.forall_mem_cons.2 ⟨hpart, h.base⟩, h.bonds⟩
  · obtain ⟨hparts, houter⟩ := List.forall_mem_cons.1 h.bonds
    exact ⟨h.base, List.forall_mem_cons.2 ⟨List.forall_mem_cons.2 ⟨hpart, hparts⟩, houter⟩⟩

theorem Nest.Holds.enter {nest : Nest} (h : nest.Holds P) (bond : Bond) : (nest.enter bond).Holds P :=
  ⟨h.base, List.forall_mem_cons.2 ⟨fun _ hp => (List.not_mem_nil hp).elim, h.bonds⟩⟩

theorem Nest.Holds.foldlEnter {nest : Nest} (h : nest.Holds P) (bonds : List Bond) :
    (bonds.foldl Nest.enter nest).Holds P := by
  induction bonds generalizing nest with
  | nil => exact h
  | cons bond bonds ih => exact ih (h.enter bond)

theorem withRuns_holds {pieces : List Piece} (h : ∀ p ∈ pieces, p.Holds P) (runs : List Run) :
    ∀ p ∈ withRuns pieces runs, p.Holds P := by
  fun_induction withRuns pieces runs with
  | case1 => exact h
  | case2 r pieces run runs ih =>
      obtain ⟨_, h⟩ := List.forall_mem_cons.1 h
      exact List.forall_mem_cons.2 ⟨trivial, ih h⟩
  | case3 runs piece pieces _ ih =>
      obtain ⟨hpiece, h⟩ := List.forall_mem_cons.1 h
      exact List.forall_mem_cons.2 ⟨hpiece, ih h⟩

variable (hP : Joins loc P)
include hP

theorem nodes_holds {parts : List Part} (h : ∀ p ∈ parts, p.Holds P) : ∀ n ∈ nodes loc parts, P n := by
  intro n hn
  obtain ⟨part, hpart, rfl⟩ := List.mem_map.1 hn
  have hholds := forall_mem_joinTexts (P := Part.Holds P) (fun _ => trivial) h part hpart
  cases part with
  | text cs => exact hP.text _
  | node n => exact hholds

theorem Nest.Holds.leave {nest : Nest} (h : nest.Holds P) : (nest.leave loc).Holds P := by
  rcases nest with ⟨base, _ | ⟨⟨bond, parts⟩, outer⟩⟩
  · exact h
  · obtain ⟨hparts, houter⟩ := List.forall_mem_cons.1 h.bonds
    have hrest : Nest.Holds P ⟨base, outer⟩ := ⟨h.base, houter⟩
    have hpart : (Part.node (.branch loc bond.branch (nodes loc parts.reverse))).Holds P :=
      hP.bond bond _ (nodes_holds hP fun p hp => hparts p (List.mem_reverse.1 hp))
    exact hrest.add hpart

theorem Nest.Holds.repeatLeave {nest : Nest} (h : nest.Holds P) (n : Nat) :
    (n.repeat (Nest.leave loc) nest).Holds P := by
  induction n with
  | zero => exact h
  | succ n ih => exact ih.leave hP

theorem Nest.Holds.addRun {nest : Nest} (h : nest.Holds P) (run : Run) : (nest.addRun loc run).Holds P := by
  have hclosed := h.repeatLeave hP run.closes
  rw [Nest.addRun]
  refine Holds.foldlEnter ?_ run.opens
  split
  · exact hclosed
  · exact hclosed.add trivial

theorem Nest.Holds.addPieces {nest : Nest} (h : nest.Holds P) {pieces : List Piece}
    (hpieces : ∀ p ∈ pieces, p.Holds P) : (pieces.foldl (Nest.addPiece loc) nest).Holds P := by
  induction pieces generalizing nest with
  | nil => exact h
  | cons piece pieces ih =>
      obtain ⟨hpiece, hpieces⟩ := List.forall_mem_cons.1 hpieces
      refine ih ?_ hpieces
      cases piece with
      | text cs => exact h.add trivial
      | node n => exact h.add hpiece
      | run run => exact h.addRun hP run

theorem assemble_holds {pieces : List Piece} (h : ∀ p ∈ pieces, p.Holds P) :
    ∀ n ∈ assemble loc pieces, P n := by
  have hempty : Nest.Holds P {} :=
    ⟨fun _ hp => (List.not_mem_nil hp).elim, fun _ hb => (List.not_mem_nil hb).elim⟩
  refine nodes_holds hP fun p hp => ?_
  exact (hempty.addPieces hP (withRuns_holds h _)).base p (List.mem_reverse.1 hp)

end

def Found.Holds (P : Node → Prop) : Found → Prop
  | piece p => p.Holds P
  | text _ | newline => True

section

def LabelsHold (ctx : Context) (T : Char → Prop) (P : Node → Prop) : Prop :=
  ∀ label, ctx.label = some label → ∀ cs : List Char, (∀ c ∈ cs, T c) → ∀ n ∈ label cs, P n

theorem label_subset {cs : List Char} {reference : Reference} {taken : Nat}
    (h : link? cs = some (reference, taken)) : reference.label ⊆ cs := by
  simp only [link?, Option.bind_eq_bind, Option.bind_eq_some_iff] at h
  obtain ⟨size, _, found, _, h⟩ := h
  cases h
  exact List.take_subset size cs

structure Scans (ctx : Context) (T : Char → Prop) (P : Node → Prop) : Prop where
  leaf : ∀ content : Leaf, content.IsInline → content.IsDrawn ctx.settings T → P (.leaf ctx.loc content)
  autolink : ctx.settings.autolinks = true → ∀ url text : String, url = text ∨ url = "mailto:" ++ text →
    P (.branch ctx.loc (.link url none) [.leaf ctx.loc (.text text)])
  link : ∀ label, ctx.label = some label → ∀ cs : List Char, (∀ c ∈ cs, T c) → ∀ (url : String)
    (title : Option String), P (.branch ctx.loc (.link url title) (label cs))

theorem Draws.scans {ctx : Context} {T : Char → Prop} {P : Node → Prop}
    (hP : Draws ctx.settings T ctx.loc P) (h : LabelsHold ctx T P) : Scans ctx T P where
  leaf := hP.leaf
  autolink _ _ _ _ := hP.branch _ _ trivial (List.forall_mem_singleton.2 (hP.leaf _ trivial trivial))
  link label hlabel cs hcs _ _ := hP.branch _ _ trivial (h label hlabel cs hcs)

theorem readLink?_eq_some_iff {ctx : Context} {rest : List Char} {reference : Reference}
    {children : List Node} {taken : Nat} : readLink? ctx rest = some (reference, children, taken) ↔
      ∃ label, ctx.label = some label ∧ link? rest = some (reference, taken) ∧
        label reference.label = children := by
  simp only [readLink?, Option.bind_eq_bind, Option.bind_eq_some_iff]
  constructor
  · rintro ⟨label, hlabel, ⟨link, size⟩, hlink, hread⟩
    cases hread
    exact ⟨label, hlabel, hlink, rfl⟩
  · rintro ⟨label, hlabel, hlink, rfl⟩
    exact ⟨label, hlabel, _, hlink, rfl⟩

theorem mem_of_mem_codeOf {cs : List Char} {c : Char} (h : c ∈ codeOf cs) : c ∈ cs ∨ c = ' ' := by
  have hline : c ∈ cs.map fun c => if c = '\n' then ' ' else c := by
    rw [codeOf] at h
    split at h
    · exact List.mem_of_mem_tail (List.mem_of_mem_dropLast h)
    · exact h
  obtain ⟨d, hd, rfl⟩ := List.mem_map.1 hline
  split
  · exact .inr rfl
  · exact .inl hd

theorem mem_of_mem_codeSpan? {cs code : List Char} {taken : Nat} (h : codeSpan? cs = some (code, taken))
    {c : Char} (hc : c ∈ code) : c ∈ cs ∨ c = ' ' := by
  obtain ⟨text, htext, h⟩ := Option.map_eq_some_iff.1 h
  obtain ⟨rfl, -⟩ := Prod.mk.inj h
  refine (mem_of_mem_codeOf hc).imp_left fun hc => ?_
  obtain ⟨after, hafter, _⟩ := exists_of_beforeRun? (Nat.succ_pos _) htext
  exact List.mem_of_mem_drop (hafter ▸ List.mem_append_left _ hc)

variable {ctx : Context} {T : Char → Prop} {P : Node → Prop}

theorem entityStep_holds (rest : List Char) : (entityStep rest).found.Holds P := by
  rw [entityStep]
  split <;> trivial

theorem flush_holds (pending : Option (List Char)) : ∀ p ∈ flush pending, p.Holds P := by
  cases pending with
  | none => exact fun _ hp => (List.not_mem_nil hp).elim
  | some cs => exact List.forall_mem_singleton.2 trivial

variable (hP : Scans ctx T P)
include hP

theorem codeStep_holds (hspace : T ' ') {rest : List Char} (hrest : ∀ c ∈ rest, T c) :
    (codeStep ctx rest).found.Holds P := by
  rw [codeStep]
  split
  · refine hP.leaf _ trivial fun c hc => ?_
    rw [String.toList_ofList] at hc
    rcases mem_of_mem_codeSpan? ‹_› hc with hc | rfl
    · exact hrest c hc
    · exact hspace
  · trivial

theorem escapeStep_holds (rest : List Char) : (escapeStep ctx rest).found.Holds P := by
  unfold escapeStep
  split
  · exact hP.leaf _ trivial trivial
  · split <;> trivial
  · trivial

theorem linkStep_holds {rest : List Char} (hrest : ∀ c ∈ rest, T c) : (linkStep ctx rest).found.Holds P := by
  rw [linkStep]
  split
  · obtain ⟨label, hlabel, hlink, rfl⟩ := readLink?_eq_some_iff.1 ‹_›
    exact hP.link label hlabel _ (fun c hc => hrest c (label_subset hlink hc)) _ _
  · trivial

theorem imageStep_holds (rest : List Char) : (imageStep ctx rest).found.Holds P := by
  rw [imageStep]
  split
  · exact hP.leaf _ trivial trivial
  · trivial

theorem readAutolink?_holds (henabled : ctx.settings.autolinks = true) {rest : List Char} {s : Step} (h : readAutolink? ctx rest = some s) :
    s.found.Holds P := by
  rw [readAutolink?] at h
  split at h
  · cases h
    exact hP.autolink henabled _ _ (.inl rfl)
  · obtain ⟨address, _, rfl⟩ := Option.map_eq_some_iff.1 h
    refine hP.autolink henabled _ _ (.inr ?_)
    rw [String.ofList_append, String.ofList_toList]

theorem readTag?_holds (henabled : ctx.settings.inlineHtml = true) {rest : List Char} {s : Step}
    (h : readTag? ctx rest = some s) : s.found.Holds P := by
  obtain ⟨size, _, rfl⟩ := Option.map_eq_some_iff.1 h
  exact hP.leaf _ trivial henabled

theorem angleStep_holds (rest : List Char) : (angleStep ctx rest).found.Holds P := by
  have hbranch {enabled : Bool} {read : Option Step} {s : Step}
      (h : (if enabled then read else none) = some s) : enabled = true ∧ read = some s := by
    cases enabled
    · cases h
    · exact ⟨rfl, h⟩
  rw [angleStep]
  cases haddress : (if ctx.settings.autolinks then readAutolink? ctx rest else none) with
  | some s => exact readAutolink?_holds hP (hbranch haddress).1 (hbranch haddress).2
  | none =>
      cases htag : (if ctx.settings.inlineHtml then readTag? ctx rest else none) with
      | some s => exact readTag?_holds hP (hbranch htag).1 (hbranch htag).2
      | none => trivial

theorem newlinePieces_holds (pending : Option (List Char)) :
    ∀ p ∈ newlinePieces ctx pending, p.Holds P := by
  refine List.forall_mem_append.2 ⟨flush_holds _, List.forall_mem_singleton.2 ?_⟩
  split <;> exact hP.leaf _ trivial trivial

variable (hspace : T ' ')
include hspace

theorem step_holds (before : Option Char) (c : Char) {rest : List Char} (hrest : ∀ c ∈ rest, T c) :
    (step ctx before c rest).found.Holds P := by
  rw [step]
  split
  · exact escapeStep_holds hP rest
  · split
    · exact codeStep_holds hP hspace hrest
    · split
      · trivial
      · split
        · exact imageStep_holds hP rest
        · split
          · exact linkStep_holds hP hrest
          · split
            · exact angleStep_holds hP rest
            · split
              · exact entityStep_holds rest
              · split <;> trivial

theorem scanFrom_holds (before : Option Char) (pending : Option (List Char)) {cs : List Char}
    (hcs : ∀ c ∈ cs, T c) : ∀ p ∈ scanFrom ctx before pending cs, p.Holds P := by
  fun_induction scanFrom ctx before pending cs with
  | case1 before pending => exact flush_holds pending
  | case2 before pending c rest s last text hfound ih =>
      exact ih fun d hd => hcs d (List.mem_cons_of_mem c (List.mem_of_mem_drop hd))
  | case3 before pending c rest s last piece hfound ih =>
      have hrest := (List.forall_mem_cons.1 hcs).2
      have hpiece := step_holds hP hspace before c hrest
      rw [show (step ctx before c rest).found = _ from hfound] at hpiece
      exact List.forall_mem_append.2 ⟨flush_holds pending, List.forall_mem_cons.2
        ⟨hpiece, ih fun d hd => hrest d (List.mem_of_mem_drop hd)⟩⟩
  | case4 before pending c rest s last hfound ih =>
      exact List.forall_mem_append.2 ⟨newlinePieces_holds hP pending,
        ih fun d hd => hcs d (List.mem_cons_of_mem c (List.mem_of_mem_drop hd))⟩

end

theorem read_draws {settings : Settings} {T : Char → Prop} {loc : Location} {P : Node → Prop}
    (hP : Draws settings T loc P) (hspace : T ' ') {cs : List Char} (hcs : ∀ c ∈ cs, T c) :
    ∀ n ∈ read settings loc cs, P n := by
  have hscan (label : Option (List Char → List Node)) (h : LabelsHold ⟨settings, loc, label⟩ T P)
      {cs : List Char} (hcs : ∀ c ∈ cs, T c) : ∀ n ∈ assemble loc (scan ⟨settings, loc, label⟩ cs), P n :=
    assemble_holds hP.joins (scanFrom_holds (hP.scans h) hspace none none hcs)
  have hwithin (room : Nat) {cs : List Char} (hcs : ∀ c ∈ cs, T c) :
      ∀ n ∈ readWithin settings loc room cs, P n := by
    induction room generalizing cs with
    | zero => exact hscan none (fun _ h => by cases h) hcs
    | succ room ih =>
        refine hscan _ (fun label h cs hcs => ?_) hcs
        cases h
        exact ih hcs
  exact hwithin maxLabelNesting hcs

theorem read_holds (settings : Settings) {loc : Location} {P : Node → Prop} (hP : Rules loc P)
    (cs : List Char) : ∀ n ∈ read settings loc cs, P n :=
  read_draws (hP.draws settings fun _ => True) trivial fun _ _ => trivial

theorem areInline_read (settings : Settings) (loc : Location) (cs : List Char) :
    Node.AreInline (read settings loc cs) := Node.areInline_iff.2 (read_holds settings (isInline_rules loc) cs)

end Inline

end MarkdownOutline
