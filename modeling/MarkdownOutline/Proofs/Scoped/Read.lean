import MarkdownOutline.Proofs.Inline.Runs
import MarkdownOutline.Proofs.Render.Run
import MarkdownOutline.Scoped.Block

namespace MarkdownOutline.Scoped

namespace Inline

open MarkdownOutline.Inline

section

variable {settings : Settings} {loc : Location} {a b : Option (List Char → List Node)}

theorem readLink?_of_none {rest : List Char} (h : (link? rest).map Prod.fst = none)
    (label : Option (List Char → List Node)) : readLink? ⟨settings, loc, label⟩ rest = none := by
  rw [Option.map_eq_none_iff] at h
  cases label with
  | none => rfl
  | some read => simp [readLink?, h]

theorem readLink?_of_some {rest : List Char} {reference : Reference}
    (h : (link? rest).map Prod.fst = some reference) (read : List Char → List Node) :
    readLink? ⟨settings, loc, some fun _ => read reference.label⟩ rest =
      readLink? ⟨settings, loc, some read⟩ rest := by
  obtain ⟨⟨_, taken⟩, hlink, rfl⟩ := Option.map_eq_some_iff.1 h
  simp [readLink?, hlink]

variable {scope : Scope} {label : Option Reader} {plain : Option (List Char → List Node)}

def Follows (scope : Scope) : Option Reader → Option (List Char → List Node) → Prop :=
  Option.Rel fun reader read => ∀ cs, (reader cs).run scope = (read cs, scope)

theorem run_step (h : Follows scope label plain) (before : Option Char) (c : Char) (rest : List Char) :
    (step settings loc label before c rest).run scope =
      (MarkdownOutline.Inline.step ⟨settings, loc, plain⟩ before c rest, scope) := by
  cases h with
  | none => rfl
  | @some reader read hread =>
      cases hreference : reference? c rest with
      | none =>
          have hlabel : readLabel? (some reader) c rest = pure none := by simp only [readLabel?, hreference]
          rw [step, hlabel, pure_bind]
          refine Prod.ext (step_congr_label (fun hc => ?_) (fun hc => ?_) before) rfl
          · rw [reference?, if_pos hc] at hreference
            rw [readLink?_of_none hreference, readLink?_of_none hreference]
          · have hne : c ≠ '[' := by
              rintro rfl
              simp at hc
            rw [reference?, if_neg hne, if_pos hc] at hreference
            rw [readLink?_of_none hreference, readLink?_of_none hreference]
      | some reference =>
          -- The only label that the step asks for has been read before it.
          have hlabel : (readLabel? (some reader) c rest).run scope = (some (read reference.label), scope) := by
            simp only [readLabel?, hreference, StateT.run_bind, hread]
            rfl
          rw [step, StateT.run_bind, hlabel]
          refine Prod.ext (step_congr_label (fun hc => ?_) (fun hc => ?_) before) rfl
          · rw [reference?, if_pos hc] at hreference
            exact readLink?_of_some hreference read
          · have hne : c ≠ '[' := by
              rintro rfl
              simp at hc
            rw [reference?, if_neg hne, if_pos hc] at hreference
            exact readLink?_of_some hreference read

theorem run_scanFrom (h : Follows scope label plain) (before : Option Char) (pending : Option (List Char))
    (cs : List Char) : (scanFrom settings loc label before pending cs).run scope =
      (MarkdownOutline.Inline.scanFrom ⟨settings, loc, plain⟩ before pending cs, scope) := by
  fun_induction MarkdownOutline.Inline.scanFrom ⟨settings, loc, plain⟩ before pending cs with
  | case1 before pending =>
      rw [scanFrom]
      rfl
  | case2 before pending c rest s last text hfound ih =>
      have hstep : (MarkdownOutline.Inline.step ⟨settings, loc, plain⟩ before c rest).found = .text text := hfound
      rw [scanFrom, run_bind_of_run (run_step h before c rest)]
      simp only [hstep]
      exact ih
  | case3 before pending c rest s last piece hfound ih =>
      have hstep : (MarkdownOutline.Inline.step ⟨settings, loc, plain⟩ before c rest).found = .piece piece := hfound
      rw [scanFrom, run_bind_of_run (run_step h before c rest)]
      simp only [hstep]
      exact run_bind_of_run ih _
  | case4 before pending c rest s last hfound ih =>
      have hstep : (MarkdownOutline.Inline.step ⟨settings, loc, plain⟩ before c rest).found = .newline := hfound
      rw [scanFrom, run_bind_of_run (run_step h before c rest)]
      simp only [hstep]
      exact run_bind_of_run ih _

theorem run_readWith (h : Follows scope label plain) (cs : List Char) :
    (readWith loc label cs).run scope =
      (assemble loc (MarkdownOutline.Inline.scan ⟨scope.current, loc, plain⟩ cs), scope) := by
  rw [readWith, run_bind_of_run (ScopeM.run_settings scope)]
  exact run_bind_of_run (run_scanFrom h none none cs) _

end

/-- Labels are read with the settings of the text around them. -/
theorem run_readWithin (loc : Location) (scope : Scope) (room : Nat) (cs : List Char) :
    (readWithin loc room cs).run scope =
      (MarkdownOutline.Inline.readWithin scope.current loc room cs, scope) := by
  induction room generalizing cs with
  | zero => exact run_readWith .none cs
  | succ room ih => exact run_readWith (.some ih) cs

end Inline

section

variable {α β : Type} {scope : Scope}

theorem run_bind_of_follows {x : ReadM α} {f : α → ReadM β} {result : Except ParseError α}
    {g : α → Except ParseError β} (hx : x.run.run scope = (result, scope))
    (hf : ∀ a, (f a).run.run scope = (g a, scope)) : (x >>= f).run.run scope = (result >>= g, scope) := by
  rw [run_bind, hx]
  cases result with
  | error e => rfl
  | ok a => exact hf a

end

namespace Block

open Text MarkdownOutline.Block

section

variable {scope : Scope} {file : Option String} {inner : Reader} {plain : MarkdownOutline.Block.Reader}
variable (hinner : ∀ line lines, (inner line lines).run.run scope = (plain line lines, scope))

theorem run_headingNode (loc : Location) (heading : Heading) (text : Line) :
    (headingNode loc heading text).run scope =
      (MarkdownOutline.Block.headingNode ⟨scope.current, file, plain⟩ loc heading text, scope) :=
  run_bind_of_run (Inline.run_readWithin loc scope _ text) _

theorem run_atxNode (line : Int) (level : Nat) (content : Line) :
    (atxNode ⟨scope.current, file, inner⟩ line level content).run scope =
      (MarkdownOutline.Block.atxNode ⟨scope.current, file, plain⟩ line level content, scope) :=
  run_headingNode _ _ _

theorem run_paragraphBlock (line : Int) (first : Line) (rest : List Line) :
    (paragraphBlock ⟨scope.current, file, inner⟩ line first rest).run scope =
      (MarkdownOutline.Block.paragraphBlock ⟨scope.current, file, plain⟩ line first rest, scope) := by
  obtain ⟨tail, level, htail⟩ : ∃ tail level, paragraphTail rest = (tail, level) := ⟨_, _, rfl⟩
  rw [paragraphBlock, MarkdownOutline.Block.paragraphBlock, htail]
  cases level with
  | none => exact run_bind_of_run (Inline.run_readWithin _ scope _ _) _
  | some level => exact run_bind_of_run (run_headingNode _ _ _) _

include hinner

theorem run_quoteBlock (line : Int) (first : Line) (rest : List Line) :
    (quoteBlock ⟨scope.current, file, inner⟩ line first rest).run.run scope =
      (MarkdownOutline.Block.quoteBlock ⟨scope.current, file, plain⟩ line first rest, scope) :=
  run_bind_of_follows (hinner _ _) fun _ => rfl

theorem run_readItems (bullet : Bullet) (line : Int) (lines : List Line) :
    (readItems ⟨scope.current, file, inner⟩ bullet line lines).run.run scope =
      (MarkdownOutline.Block.readItems ⟨scope.current, file, plain⟩ bullet line lines, scope) := by
  fun_induction MarkdownOutline.Block.readItems ⟨scope.current, file, plain⟩ bullet line lines with
  | case1 => rw [readItems]; rfl
  | case2 line first rest hm => rw [readItems, hm]; rfl
  | case3 line first rest m hm tail kept trailing after ih =>
      rw [readItems, hm]
      exact run_bind_of_follows (hinner _ _) fun children => run_bind_of_follows ih fun items => rfl

theorem run_listBlock (line : Int) (m : Marker) (lines : List Line) :
    (listBlock ⟨scope.current, file, inner⟩ line m lines).run.run scope =
      (MarkdownOutline.Block.listBlock ⟨scope.current, file, plain⟩ line m lines, scope) :=
  run_bind_of_follows (run_readItems hinner _ _ _) fun _ => rfl

theorem run_readBlock (line : Int) (first : Line) (rest : List Line) :
    (readBlock ⟨scope.current, file, inner⟩ line first rest).run.run scope =
      (MarkdownOutline.Block.readBlock ⟨scope.current, file, plain⟩ line first rest, scope) := by
  rw [readBlock, MarkdownOutline.Block.readBlock]
  cases fence? first with
  | some fence => rfl
  | none =>
  cases atx? first with
  | some heading => exact run_bind_of_follows (run_liftM (run_atxNode line heading.1 heading.2)) fun _ => rfl
  | none =>
  cases isThematic first with
  | true => rfl
  | false =>
  cases unquote? first with
  | some inside => exact run_quoteBlock hinner line inside rest
  | none =>
  cases marker? first with
  | some m => exact run_listBlock hinner line m (first :: rest)
  | none =>
  by_cases hcode : codeIndent ≤ indentOf first
  · simp only [hcode, if_true]
    rfl
  · simp only [hcode, if_false]
    cases isHtmlStart first with
    | true => rfl
    | false => exact run_liftM (run_paragraphBlock line first rest)

theorem run_readBlocks (line : Int) (lines : List Line) :
    (readBlocks ⟨scope.current, file, inner⟩ line lines).run.run scope =
      (MarkdownOutline.Block.readBlocks ⟨scope.current, file, plain⟩ line lines, scope) := by
  fun_induction MarkdownOutline.Block.readBlocks ⟨scope.current, file, plain⟩ line lines with
  | case1 => rw [readBlocks]; rfl
  | case2 line first rest hblank ih =>
      rw [readBlocks, if_pos hblank]
      exact ih
  | case3 line first rest hblank ih =>
      rw [readBlocks, if_neg hblank]
      exact run_bind_of_follows (run_readBlock hinner line first rest) fun block =>
        run_bind_of_follows (ih block) fun blocks => rfl

theorem run_readTitled (line : Int) (lines : List Line) :
    (readTitled ⟨scope.current, file, inner⟩ line lines).run.run scope =
      (MarkdownOutline.Block.readTitled ⟨scope.current, file, plain⟩ line lines, scope) := by
  simp only [readTitled, MarkdownOutline.Block.readTitled]
  split
  · exact run_readBlocks hinner line lines
  · exact (run_bind_of_ok (run_liftM (run_headingNode _ _ _)) _).trans
      (run_bind_of_follows (run_readBlocks hinner _ _) fun blocks => rfl)

end

theorem run_readWithin (file : Option String) (scope : Scope) (room : Nat) (line : Int) (lines : List Line) :
    (readWithin file room line lines).run.run scope =
      (MarkdownOutline.Block.readWithin scope.current file room line lines, scope) := by
  induction room generalizing line lines with
  | zero => rfl
  | succ room ih =>
      rw [readWithin, MarkdownOutline.Block.readWithin,
        run_bind_of_ok (run_liftM (ScopeM.run_settings scope))]
      simp only
      split
      · exact run_readTitled ih _ _
      · exact run_readBlocks ih _ _

end Block

end MarkdownOutline.Scoped
