import MarkdownOutline.Proofs.Inline.GapTarget

namespace MarkdownOutline.Inline

open Text

/-- A reader goes on at the same cell whatever fills the gaps, or it fails. -/
def Keeps (f : List Char → Option (List Char)) : Prop :=
  ∀ t : Cells, ∃ k : Option Nat, ∀ r, IsFiller r → f (fill r t) = k.map fun k => fill r (t.drop k)

section

variable {f g h : List Char → Option (List Char)}

theorem keeps_none : Keeps fun _ => none := fun _ => ⟨none, fun _ _ => rfl⟩

theorem keeps_some : Keeps some := fun _ => ⟨some 0, fun _ _ => rfl⟩

theorem keeps_dropWhile {p : Char → Bool} {gap : Bool} (h : Passes p gap) :
    Keeps fun cs => some (cs.dropWhile p) :=
  fun t => ⟨some (runOf p gap t), fun _ hr => congrArg some (dropWhile_fill h hr t)⟩

theorem Keeps.bind (hf : Keeps f) (hg : Keeps g) (hbind : ∀ cs, h cs = (f cs).bind g) : Keeps h := by
  intro t
  obtain ⟨k, hk⟩ := hf t
  cases k with
  | none => exact ⟨none, fun r hr => by rw [hbind, hk r hr]; rfl⟩
  | some k =>
      obtain ⟨n, hn⟩ := hg (t.drop k)
      refine ⟨n.map (k + ·), fun r hr => ?_⟩
      rw [hbind, hk r hr, Option.map_some, Option.bind_some, hn r hr, Option.map_map]
      refine congrArg (Option.map · n) (funext fun n => ?_)
      rw [List.drop_drop]
      rfl

theorem Keeps.or (hf : Keeps f) (hg : Keeps g) (hor : ∀ cs, h cs = (f cs).or (g cs)) : Keeps h := by
  intro t
  obtain ⟨k, hk⟩ := hf t
  obtain ⟨n, hn⟩ := hg t
  refine ⟨k.or n, fun r hr => ?_⟩
  rw [hor, hk r hr, hn r hr]
  cases k <;> rfl

theorem Keeps.getD (hf : Keeps f) (hget : ∀ cs, h cs = some ((f cs).getD cs)) : Keeps h := by
  intro t
  obtain ⟨k, hk⟩ := hf t
  refine ⟨some (k.getD 0), fun r hr => ?_⟩
  rw [hget, hk r hr]
  cases k <;> rfl

theorem Keeps.ite (hf : Keeps f) (hg : Keeps g) (p : Prop) [Decidable p] : Keeps fun cs => if p then f cs else g cs := by
  by_cases hp : p
  · simpa only [if_pos hp] using hf
  · simpa only [if_neg hp] using hg

/-- A reader that looks at the first character and fails at an ampersand. -/
theorem keeps_of_head {g : Char → List Char → Option (List Char)} (hnil : h [] = none)
    (hcons : ∀ c cs, h (c :: cs) = g c cs) (hgap : ∀ cs, g '&' cs = none) (hg : ∀ c, Keeps (g c)) : Keeps h := by
  intro t
  cases t with
  | nil => exact ⟨none, fun _ _ => hnil⟩
  | cons cell t =>
      cases cell with
      | none =>
          refine ⟨none, fun r hr => ?_⟩
          obtain ⟨tail, rfl, _⟩ := hr.exists_cons
          rw [fill_none, List.cons_append, hcons, hgap]
          rfl
      | some c =>
          obtain ⟨k, hk⟩ := hg c t
          refine ⟨k.map (· + 1), fun r hr => ?_⟩
          rw [fill_some, hcons, hk r hr, Option.map_map]
          rfl

theorem Keeps.length (hf : Keeps f) (t : Cells) : ∃ k : Option Nat, ∀ r, IsFiller r →
    (f (fill r t)).map (fun rest => (fill r t).length - rest.length) = k.map (extentOf r t) := by
  obtain ⟨k, hk⟩ := hf t
  refine ⟨k, fun r hr => ?_⟩
  rw [hk r hr, Option.map_map]
  refine congrArg (Option.map · k) (funext fun k => ?_)
  rw [Function.comp_apply, ← fill_take_append_drop r t k, List.length_append, Nat.add_sub_cancel]
  rfl

end

theorem passes_isBlank : Passes isBlank false := .stops (by decide)

theorem keeps_skipBlank : Keeps fun cs => some (skipBlank cs) := keeps_dropWhile passes_isBlank

def afterChar? (d : Char) : List Char → Option (List Char)
  | [] => none
  | c :: cs => if c = d then some cs else none

theorem keeps_afterChar? {d : Char} (hd : d ≠ '&') : Keeps (afterChar? d) :=
  keeps_of_head rfl (fun _ _ => rfl) (fun _ => if_neg hd.symm) fun c => keeps_some.ite keeps_none (c = d)

theorem afterChar?_of_ne {d : Char} {cs : List Char} (h : ∀ rest, cs = d :: rest → False) : afterChar? d cs = none := by
  cases cs with
  | nil => rfl
  | cons c cs => exact if_neg fun hc => h cs (by rw [hc])

theorem eq_of_afterChar? {d : Char} {cs rest : List Char} (h : afterChar? d cs = some rest) : cs = d :: rest := by
  cases cs with
  | nil => cases h
  | cons c cs =>
      obtain ⟨rfl, ⟨⟩⟩ := Option.ite_none_right_eq_some.1 h
      rfl

theorem afterAngle?_eq (cs : List Char) : afterAngle? cs = afterChar? '>' cs := by
  rw [afterAngle?.eq_def]
  split
  · rfl
  · exact (afterChar?_of_ne ‹_›).symm

theorem keeps_afterAngle? : Keeps afterAngle? :=
  (funext afterAngle?_eq) ▸ keeps_afterChar? (by decide)

theorem keeps_afterQuote? {quote : Char} (hquote : isFillerChar quote = false) : Keeps (afterQuote? quote) := by
  have hpasses : Passes (· != quote) true := .whole fun c hc => by
    rw [bne_iff_ne]
    rintro rfl
    rw [hc] at hquote
    cases hquote
  intro t
  have hbehind := head?_drop_runOf (· != quote) t
  cases hdrop : t.drop (runOf (· != quote) true t) with
  | nil => exact ⟨none, fun r hr => by rw [afterQuote?, dropWhile_fill hpasses hr, hdrop]; rfl⟩
  | cons cell v =>
      rw [hdrop] at hbehind
      cases cell with
      | none => exact absurd rfl hbehind
      | some c =>
          refine ⟨some (runOf (· != quote) true t + 1), fun r hr => ?_⟩
          rw [afterQuote?, dropWhile_fill hpasses hr, hdrop, Option.map_some, ← List.drop_drop, hdrop]
          rfl

theorem passes_isBareValueChar : Passes isBareValueChar true := .whole (forall_isFillerChar (by decide))

theorem keeps_afterValue? : Keeps afterValue? := by
  intro t
  cases t with
  | nil => exact ⟨none, fun _ _ => rfl⟩
  | cons cell t =>
      cases cell with
      | none =>
          -- An ampersand begins a bare value.
          refine ⟨some (runOf isBareValueChar true (none :: t)), fun r hr => ?_⟩
          have hread : afterValue? (fill r (none :: t)) = some ((fill r (none :: t)).dropWhile isBareValueChar) := by
            obtain ⟨tail, rfl, _⟩ := hr.exists_cons
            rfl
          rw [hread, dropWhile_fill passes_isBareValueChar hr]
          rfl
      | some c =>
          by_cases hquote : (c = '"' || c = '\'') = true
          · have hfiller : isFillerChar c = false := by
              simp only [Bool.or_eq_true, decide_eq_true_eq] at hquote
              rcases hquote with rfl | rfl <;> rfl
            obtain ⟨k, hk⟩ := keeps_afterQuote? hfiller t
            refine ⟨k.map (· + 1), fun r hr => ?_⟩
            rw [fill_some, afterValue?, if_pos hquote, hk r hr, Option.map_map]
            rfl
          · by_cases hbare : isBareValueChar c = true
            · refine ⟨some (runOf isBareValueChar true t + 1), fun r hr => ?_⟩
              rw [fill_some, afterValue?, if_neg hquote, if_pos hbare, dropWhile_fill passes_isBareValueChar hr]
              rfl
            · exact ⟨none, fun r _ => by rw [fill_some, afterValue?, if_neg hquote, if_neg hbare]; rfl⟩

theorem afterAssignment_eq (cs : List Char) : afterAssignment cs =
    ((afterChar? '=' (skipBlank cs)).bind fun value => afterValue? (skipBlank value)).getD cs := by
  rw [afterAssignment]
  split
  · rw [‹skipBlank cs = _›]
    rfl
  · rw [afterChar?_of_ne ‹_›]
    rfl

theorem keeps_afterAssignment : Keeps fun cs => some (afterAssignment cs) := by
  have hvalue : Keeps fun cs => afterValue? (skipBlank cs) := keeps_skipBlank.bind keeps_afterValue? fun _ => rfl
  have hequals : Keeps fun cs => afterChar? '=' (skipBlank cs) :=
    keeps_skipBlank.bind (keeps_afterChar? (by decide)) fun _ => rfl
  exact (hequals.bind hvalue fun _ => rfl).getD fun cs => congrArg some (afterAssignment_eq cs)

def afterAttribute? (cs : List Char) : Option (List Char) :=
  match skipBlank cs with
  | [] => none
  | c :: rest => if isAttributeStart c then some (afterAssignment (rest.dropWhile isAttributeChar)) else none

theorem attributeLength?_eq (cs : List Char) :
    attributeLength? cs = (afterAttribute? cs).map fun rest => cs.length - rest.length := by
  rw [attributeLength?, afterAttribute?]
  cases skipBlank cs with
  | nil => rfl
  | cons c rest => dsimp only; split <;> rfl

theorem keeps_afterAttribute? : Keeps afterAttribute? := by
  have hname : Keeps fun cs => some (afterAssignment (cs.dropWhile isAttributeChar)) :=
    (keeps_dropWhile (.stops (by decide +kernel))).bind keeps_afterAssignment fun _ => rfl
  have hstart : Keeps fun cs => match cs with
      | [] => none
      | c :: rest =>
        if isAttributeStart c then some (afterAssignment (rest.dropWhile isAttributeChar)) else none :=
    keeps_of_head rfl (fun _ _ => rfl) (fun _ => rfl) fun c => hname.ite keeps_none _
  exact keeps_skipBlank.bind hstart fun _ => rfl

theorem keeps_afterAttributes : Keeps fun cs => some (afterAttributes cs) := by
  intro t
  induction ht : t.length using Nat.strongRecOn generalizing t with
  | ind n ih =>
      have hstay (h : ∀ r, IsFiller r → afterAttributes (fill r t) = fill r t) :
          ∃ k : Option Nat, ∀ r, IsFiller r → some (afterAttributes (fill r t)) = k.map fun k => fill r (t.drop k) :=
        ⟨some 0, fun r hr => congrArg some (h r hr)⟩
      cases t with
      | nil => exact hstay fun r _ => by rw [fill_nil, afterAttributes]
      | cons cell t =>
          cases cell with
          | none =>
              refine hstay fun r hr => ?_
              obtain ⟨tail, rfl, _⟩ := hr.exists_cons
              rw [fill_none, List.cons_append, afterAttributes]
              rfl
          | some c =>
              by_cases hblank : isBlank c = true
              · obtain ⟨k, hk⟩ := keeps_afterAttribute?.length t
                cases k with
                | none =>
                    refine hstay fun r hr => ?_
                    have hnone := (attributeLength?_eq (fill r t)).trans (hk r hr)
                    simp only [fill_some, afterAttributes, if_pos hblank, hnone, Option.map_none]
                | some k =>
                    obtain ⟨n, hn⟩ := ih (t.drop k).length (Nat.lt_of_lt_of_eq (length_drop_lt_cons ..) ht) (t.drop k) rfl
                    refine ⟨n.map (k + 1 + ·), fun r hr => ?_⟩
                    have hsome := (attributeLength?_eq (fill r t)).trans (hk r hr)
                    simp only [fill_some, afterAttributes, if_pos hblank, hsome, Option.map_some, drop_extentOf]
                    refine (hn r hr).trans ?_
                    rw [Option.map_map]
                    refine congrArg (Option.map · n) (funext fun n => ?_)
                    rw [List.drop_drop, Function.comp_apply, Nat.add_right_comm]
                    rfl
              · exact hstay fun r _ => by rw [fill_some, afterAttributes, if_neg hblank]

theorem keeps_afterTagName? : Keeps afterTagName? :=
  keeps_of_head rfl (fun _ _ => rfl) (fun _ => rfl) fun c =>
    (keeps_dropWhile (.stops (by decide))).ite keeps_none (c.isAlpha = true)

theorem afterOpenTag?_eq (cs : List Char) : afterOpenTag? cs = (afterTagName? cs).bind fun rest =>
    ((afterChar? '/' (skipBlank (afterAttributes rest))).bind afterAngle?).or
      (afterAngle? (skipBlank (afterAttributes rest))) := by
  rw [afterOpenTag?, Option.bind_eq_bind]
  refine congrArg (Option.bind _) (funext fun rest => ?_)
  split
  · rw [‹skipBlank (afterAttributes rest) = _›]
    exact (Option.or_none).symm
  · rw [afterChar?_of_ne ‹_›]
    rfl

theorem keeps_afterOpenTag? : Keeps afterOpenTag? := by
  have hattributes : Keeps fun cs => some (skipBlank (afterAttributes cs)) :=
    keeps_afterAttributes.bind keeps_skipBlank fun _ => rfl
  have hslash : Keeps fun cs => (afterChar? '/' cs).bind afterAngle? :=
    (keeps_afterChar? (by decide)).bind keeps_afterAngle? fun _ => rfl
  have hend : Keeps fun cs => ((afterChar? '/' cs).bind afterAngle?).or (afterAngle? cs) :=
    hslash.or keeps_afterAngle? fun _ => rfl
  exact keeps_afterTagName?.bind (hattributes.bind hend fun _ => rfl) afterOpenTag?_eq

theorem afterCloseTag?_eq (cs : List Char) : afterCloseTag? cs = (afterChar? '/' cs).bind fun rest =>
    (afterTagName? rest).bind fun rest => afterAngle? (skipBlank rest) := by
  rw [afterCloseTag?.eq_def]
  split
  · rfl
  · rw [afterChar?_of_ne ‹_›]
    rfl

theorem keeps_afterCloseTag? : Keeps afterCloseTag? := by
  have hend : Keeps fun cs => afterAngle? (skipBlank cs) := keeps_skipBlank.bind keeps_afterAngle? fun _ => rfl
  exact (keeps_afterChar? (by decide)).bind (keeps_afterTagName?.bind hend fun _ => rfl) afterCloseTag?_eq

theorem afterHyphens?_cons (c : Char) (cs : List Char) : afterHyphens? (c :: cs) =
    if c = '-' ∧ cs.head? = some '-' then afterAngle? cs.tail else afterHyphens? cs := by
  by_cases hhyphens : c = '-' ∧ cs.head? = some '-'
  · obtain ⟨rest, hrest⟩ := List.head?_eq_some_iff.1 hhyphens.2
    rw [if_pos hhyphens, hhyphens.1, hrest]
    rfl
  · rw [if_neg hhyphens]
    refine afterHyphens?.eq_3 c cs fun rest hc hcs => hhyphens ⟨hc, ?_⟩
    rw [hcs]
    rfl

theorem afterHyphens?_append_bare {p : List Char} (hp : '-' ∉ p) (cs : List Char) :
    afterHyphens? (p ++ cs) = afterHyphens? cs := by
  induction p with
  | nil => rfl
  | cons c p ih =>
      rw [List.mem_cons, not_or] at hp
      rw [List.cons_append, afterHyphens?_cons, if_neg fun h => hp.1 h.1.symm, ih hp.2]

theorem keeps_afterHyphens? : Keeps afterHyphens? := by
  intro t
  induction t with
  | nil => exact ⟨none, fun _ _ => rfl⟩
  | cons cell t ih =>
      obtain ⟨k, hk⟩ := ih
      cases cell with
      | none =>
          refine ⟨k.map (· + 1), fun r hr => ?_⟩
          rw [fill_none, afterHyphens?_append_bare (hr.not_mem rfl), hk r hr, Option.map_map]
          rfl
      | some c =>
          by_cases hhyphens : c = '-' ∧ ∃ u, t = some '-' :: u
          · obtain ⟨rfl, u, rfl⟩ := hhyphens
            obtain ⟨n, hn⟩ := keeps_afterAngle? u
            refine ⟨n.map (· + 2), fun r hr => ?_⟩
            rw [fill_some, fill_some, afterHyphens?, hn r hr, Option.map_map]
            rfl
          · refine ⟨k.map (· + 1), fun r hr => ?_⟩
            have hne : ¬(c = '-' ∧ (fill r t).head? = some '-') := by
              rintro ⟨hc, hhead⟩
              obtain ⟨rest, hrest⟩ := List.head?_eq_some_iff.1 hhead
              exact hhyphens ⟨hc, exists_of_fill_eq_cons hr (by decide) hrest⟩
            rw [fill_some, afterHyphens?_cons, if_neg hne, hk r hr, Option.map_map]
            rfl

theorem afterComment?_eq (cs : List Char) : afterComment? cs =
    ((afterChar? '!' cs).bind fun rest => (afterChar? '-' rest).bind (afterChar? '-')).bind afterHyphens? := by
  rw [afterComment?.eq_def]
  split
  · rfl
  · rename_i hne
    have hnone : ((afterChar? '!' cs).bind fun rest => (afterChar? '-' rest).bind (afterChar? '-')) = none := by
      rw [Option.eq_none_iff_forall_ne_some]
      intro rest hrest
      obtain ⟨u, hu, hrest⟩ := Option.bind_eq_some_iff.1 hrest
      obtain ⟨v, hv, hrest⟩ := Option.bind_eq_some_iff.1 hrest
      exact hne rest (by rw [eq_of_afterChar? hu, eq_of_afterChar? hv, eq_of_afterChar? hrest])
    rw [hnone]
    rfl

theorem keeps_afterComment? : Keeps afterComment? := by
  have hyphen : Keeps (afterChar? '-') := keeps_afterChar? (by decide)
  have hopening : Keeps fun cs => (afterChar? '!' cs).bind fun rest => (afterChar? '-' rest).bind (afterChar? '-') :=
    (keeps_afterChar? (by decide)).bind (hyphen.bind hyphen fun _ => rfl) fun _ => rfl
  exact hopening.bind keeps_afterHyphens? afterComment?_eq

/-- A tag ends at the same cell whatever fills the gaps. -/
theorem tagLength?_fill (t : Cells) :
    ∃ k : Option Nat, ∀ r, IsFiller r → tagLength? (fill r t) = k.map (extentOf r t) :=
  ((keeps_afterOpenTag?.or (keeps_afterCloseTag?.or keeps_afterComment? fun _ => rfl) fun _ => rfl).length t)

end MarkdownOutline.Inline
