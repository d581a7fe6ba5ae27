import Mathlib.Data.List.Infix

namespace MarkdownOutline.Html

def anchorStart : List Char := ['<', 'a', ' ']

def anchorEnd : List Char := ['<', '/', 'a', '>']

def occurrences (needle text : List Char) : Nat := text.tails.countP fun cs => needle.isPrefixOf cs

/-- An anchor begins in the text where more anchors have begun than ended. -/
def Nests (text : List Char) : Prop :=
  ∃ before after, text = before ++ (anchorStart ++ after) ∧
    occurrences anchorEnd before < occurrences anchorStart before

/-- What happens to anchors where a text begins: one begins (`true`) or ends. -/
def event? (cs : List Char) : Option Bool :=
  if anchorStart.isPrefixOf cs then some true
  else if anchorEnd.isPrefixOf cs then some false
  else none

def events (text : List Char) : List Bool := text.tails.filterMap event?

def Closed (text : List Char) : Prop := ∀ cs ∈ text.tails, cs.head? = some '<' → '>' ∈ cs

instance (text : List Char) : Decidable (Closed text) :=
  inferInstanceAs (Decidable (∀ cs ∈ text.tails, cs.head? = some '<' → '>' ∈ cs))

section

variable {c : Char} {cs : List Char}

theorem event?_eq_true_iff : event? cs = some true ↔ anchorStart <+: cs := by
  rw [event?, ← List.isPrefixOf_iff_prefix]
  split
  · simp_all
  · split <;> simp_all

theorem event?_eq_false_iff : event? cs = some false ↔ anchorEnd <+: cs := by
  rw [event?]
  split
  · next h =>
      refine iff_of_false (fun h => by cases h) fun hend => ?_
      have hstart := List.isPrefixOf_iff_prefix.1 h
      rcases List.prefix_or_prefix_of_prefix hstart hend with h | h <;> exact absurd h (by decide)
  · rw [← List.isPrefixOf_iff_prefix]
    split <;> simp_all

theorem event?_of_ne (h : c ≠ '<') : event? (c :: cs) = none := by
  simp [event?, anchorStart, anchorEnd, h.symm]

theorem occurrences_start (text : List Char) : occurrences anchorStart text = (events text).count true := by
  rw [events, List.count_filterMap, occurrences]
  refine List.countP_congr fun cs _ => ?_
  rw [beq_iff_eq, event?_eq_true_iff, List.isPrefixOf_iff_prefix]

theorem occurrences_end (text : List Char) : occurrences anchorEnd text = (events text).count false := by
  rw [events, List.count_filterMap, occurrences]
  refine List.countP_congr fun cs _ => ?_
  rw [beq_iff_eq, event?_eq_false_iff, List.isPrefixOf_iff_prefix]

theorem events_nil : events [] = [] := rfl

theorem events_cons (c : Char) (cs : List Char) :
    events (c :: cs) = (event? (c :: cs)).toList ++ events cs := by
  rw [events, List.tails_cons, List.filterMap_cons]
  cases event? (c :: cs) <;> rfl

theorem events_of_not_mem (h : '<' ∉ cs) : events cs = [] := by
  induction cs with
  | nil => rfl
  | cons c cs ih =>
      rw [List.mem_cons, not_or] at h
      rw [events_cons, event?_of_ne (Ne.symm h.1), ih h.2]
      rfl

theorem closed_cons : Closed (c :: cs) ↔ (c = '<' → '>' ∈ cs) ∧ Closed cs := by
  rw [Closed, List.tails_cons, List.forall_mem_cons, Closed]
  refine and_congr_left fun _ => ?_
  rw [List.head?_cons, Option.some.injEq]
  refine forall_congr' ?_
  rintro rfl
  simp

theorem closed_of_not_mem (h : '<' ∉ cs) : Closed cs := by
  intro t ht hhead
  exact absurd (((List.mem_tails _ _).1 ht).subset (List.mem_of_head? hhead)) h

theorem Closed.append {a b : List Char} (ha : Closed a) (hb : Closed b) : Closed (a ++ b) := by
  induction a with
  | nil => exact hb
  | cons c a ih =>
      obtain ⟨hc, ha⟩ := closed_cons.1 ha
      exact closed_cons.2 ⟨fun h => List.mem_append_left _ (hc h), ih ha⟩

end

def Uncrossed (cs rest : List Char) : Prop :=
  (anchorStart <+: cs ++ rest → anchorStart <+: cs) ∧ (anchorEnd <+: cs ++ rest → anchorEnd <+: cs)

theorem event?_append {cs rest : List Char} (h : Uncrossed cs rest) : event? (cs ++ rest) = event? cs := by
  have hstart : anchorStart <+: cs ++ rest ↔ anchorStart <+: cs :=
    ⟨h.1, fun h => h.trans (List.prefix_append _ _)⟩
  have hend : anchorEnd <+: cs ++ rest ↔ anchorEnd <+: cs :=
    ⟨h.2, fun h => h.trans (List.prefix_append _ _)⟩
  simp only [event?, ← List.isPrefixOf_iff_prefix] at hstart hend ⊢
  simp only [Bool.eq_iff_iff.2 hstart, Bool.eq_iff_iff.2 hend]

theorem prefix_of_prefix_append {needle cs rest : List Char} (front : List Char) {last : Char}
    (hneedle : needle = front ++ [last]) (h : needle <+: cs ++ rest) : needle <+: cs ∨ cs <+: front := by
  rcases List.prefix_or_prefix_of_prefix h (List.prefix_append cs rest) with h | h
  · exact .inl h
  · rw [hneedle, List.prefix_concat_iff] at h
    refine h.imp_left ?_
    rintro rfl
    exact hneedle ▸ List.prefix_rfl

theorem uncrossed_of_mem {cs : List Char} (h : '>' ∈ cs) (rest : List Char) : Uncrossed cs rest := by
  constructor
  · intro hprefix
    refine (prefix_of_prefix_append ['<', 'a'] rfl hprefix).resolve_right fun hfront => ?_
    exact absurd (hfront.subset h) (by decide)
  · intro hprefix
    refine (prefix_of_prefix_append ['<', '/', 'a'] rfl hprefix).resolve_right fun hfront => ?_
    exact absurd (hfront.subset h) (by decide)

theorem events_append {a : List Char} (h : Closed a) (b : List Char) : events (a ++ b) = events a ++ events b := by
  induction a with
  | nil => rfl
  | cons c a ih =>
      obtain ⟨hc, ha⟩ := closed_cons.1 h
      have hevent : event? (c :: (a ++ b)) = event? (c :: a) := by
        by_cases hbracket : c = '<'
        · exact event?_append (uncrossed_of_mem (List.mem_cons_of_mem c (hc hbracket)) b)
        · rw [event?_of_ne hbracket, event?_of_ne hbracket]
      rw [List.cons_append, events_cons, events_cons, hevent, ih ha, List.append_assoc]

theorem prefix_of_prefix_bracket {needle cs rest : List Char} (hneedle : '<' ∉ needle)
    (h : needle <+: cs ++ '<' :: rest) : needle <+: cs := by
  rcases List.prefix_or_prefix_of_prefix h (List.prefix_append cs _) with h | ⟨more, rfl⟩
  · exact h
  · rw [List.prefix_append_right_inj] at h
    cases more with
    | nil => exact (List.append_nil cs).symm ▸ List.prefix_rfl
    | cons c more =>
        obtain ⟨rfl, _⟩ := List.cons_prefix_cons.1 h
        exact absurd (List.mem_append_right cs (List.mem_cons_self ..)) hneedle

/-- A needle has a bracket at its beginning only. -/
theorem uncrossed_bracket (c : Char) (cs rest : List Char) : Uncrossed (c :: cs) ('<' :: rest) := by
  constructor
  · intro h
    obtain ⟨hc, h⟩ := List.cons_prefix_cons.1 h
    exact List.cons_prefix_cons.2 ⟨hc, prefix_of_prefix_bracket (by decide) h⟩
  · intro h
    obtain ⟨hc, h⟩ := List.cons_prefix_cons.1 h
    exact List.cons_prefix_cons.2 ⟨hc, prefix_of_prefix_bracket (by decide) h⟩

theorem events_append_bracket (before rest : List Char) :
    events (before ++ '<' :: rest) = events before ++ events ('<' :: rest) := by
  induction before with
  | nil => rfl
  | cons c before ih =>
      have hevent : event? (c :: (before ++ '<' :: rest)) = event? (c :: before) :=
        event?_append (uncrossed_bracket c before rest)
      rw [List.cons_append, events_cons, events_cons, hevent, ih, List.append_assoc]

theorem exists_of_events {text : List Char} {front back : List Bool} (h : events text = front ++ true :: back) :
    ∃ before after, text = before ++ (anchorStart ++ after) ∧ events before = front := by
  induction text generalizing front with
  | nil => simp [events_nil] at h
  | cons c text ih =>
      rw [events_cons] at h
      cases hevent : event? (c :: text) with
      | none =>
          rw [hevent] at h
          obtain ⟨before, after, rfl, hfront⟩ := ih h
          refine ⟨c :: before, after, rfl, ?_⟩
          rw [events_cons, ← event?_append (uncrossed_bracket c before _), hfront]
          exact congrArg (fun e => Option.toList e ++ front) hevent
      | some b =>
          rw [hevent] at h
          cases front with
          | nil =>
              obtain rfl : b = true := (List.cons.inj h).1
              obtain ⟨after, hafter⟩ := event?_eq_true_iff.1 hevent
              exact ⟨[], after, hafter.symm, rfl⟩
          | cons b' front =>
              obtain ⟨rfl, hrest⟩ := List.cons.inj h
              obtain ⟨before, after, rfl, hfront⟩ := ih hrest
              refine ⟨c :: before, after, rfl, ?_⟩
              rw [events_cons, ← event?_append (uncrossed_bracket c before _), hfront]
              exact congrArg (fun e => Option.toList e ++ front) hevent

theorem nests_iff {text : List Char} : Nests text ↔
    ∃ front back, events text = front ++ true :: back ∧ front.count false < front.count true := by
  constructor
  · rintro ⟨before, after, rfl, hcount⟩
    rw [occurrences_start, occurrences_end] at hcount
    refine ⟨events before, events (anchorStart ++ after).tail, ?_, hcount⟩
    exact events_append_bracket before (anchorStart ++ after).tail
  · rintro ⟨front, back, hevents, hcount⟩
    obtain ⟨before, after, rfl, rfl⟩ := exists_of_events hevents
    exact ⟨before, after, rfl, by rwa [occurrences_start, occurrences_end]⟩

end MarkdownOutline.Html
