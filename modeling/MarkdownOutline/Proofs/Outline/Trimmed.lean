import MarkdownOutline.Proofs.Outline.Layout

namespace MarkdownOutline.Outline

/-- Writes entries at the depths that their levels are, the one before them at depth `current`. -/
def emitFrom (current : Nat) : List Entry → String
  | [] => repeated current listClose
  | e :: rest => between current e.level.toNat ++ e.link ++ emitFrom e.level.toNat rest

def cut (front back : Nat) (text : String) : String :=
  String.ofList ((text.toList.take (text.length - back)).drop front)

theorem cut_append (front text back : String) :
    cut front.length back.length (front ++ text ++ back) = text := by
  have hlength : (front ++ text ++ back).length - back.length = (front.toList ++ text.toList).length := by
    rw [String.length_append, Nat.add_sub_cancel, ← String.toList_append, String.length_toList]
  rw [cut, hlength, String.toList_append, String.toList_append, List.take_left, ← String.length_toList,
    List.drop_left, String.ofList_toList]

theorem length_repeated (n : Nat) (s : String) : (repeated n s).length = n * s.length := by
  induction n with
  | zero => rw [repeated_zero, Nat.zero_mul]; rfl
  | succ n ih => rw [repeated_succ, String.length_append, ih, Nat.succ_mul, Nat.add_comm]

theorem between_add (current depth surplus : Nat) :
    between (current + surplus) (depth + surplus) = between current depth := by
  rw [between, between, Nat.add_sub_add_right, Nat.add_sub_add_right]
  simp only [Nat.add_lt_add_iff_right]

section

variable {minimum : Int} {entries : List Entry} {surplus : Nat}

theorem emitFrom_add (hminimum : minimum = surplus + 1) {current : Nat} {text : String}
    (h : writeFrom minimum current entries = .ok text) :
    emitFrom (current + surplus) entries = text ++ repeated surplus listClose := by
  induction entries generalizing current text with
  | nil =>
      cases h
      exact repeated_add current surplus listClose
  | cons e rest ih =>
      rw [writeFrom] at h
      split at h
      · cases h
      · next hlevel =>
          obtain ⟨more, hmore, h⟩ := exists_of_bind_eq_ok h
          cases h
          have hdepth : e.level.toNat = (e.level - minimum + 1).toNat + surplus := by omega
          rw [emitFrom, hdepth, between_add, ih hmore, String.append_assoc, String.append_assoc,
            String.append_assoc]

/-- The surplus lists are opened at the front. -/
theorem emitFrom_zero (hne : entries ≠ []) (hminimum : minimum = surplus + 1) {text : String}
    (h : writeFrom minimum 0 entries = .ok text) :
    emitFrom 0 entries = repeated surplus listOpen ++ text ++ repeated surplus listClose := by
  obtain ⟨e, rest, rfl⟩ := List.exists_cons_of_ne_nil hne
  rw [writeFrom] at h
  split at h
  · cases h
  · next hlevel =>
      obtain ⟨more, hmore, h⟩ := exists_of_bind_eq_ok h
      cases h
      have hdepth : e.level.toNat = surplus + (e.level - minimum + 1).toNat := by omega
      have hbetween : between 0 e.level.toNat =
          repeated surplus listOpen ++ between 0 (e.level - minimum + 1).toNat := by
        rw [between, between, if_pos (by omega), if_pos (by omega), hdepth, Nat.sub_zero, Nat.sub_zero,
          repeated_add]
      have hrest := emitFrom_add hminimum hmore
      rw [emitFrom, hbetween, hdepth, Nat.add_comm, hrest]
      simp only [String.append_assoc]

end

def Entry.lowered (amount : Int) (e : Entry) : Entry := { e with level := e.level + amount }

theorem Entry.level_lowered (amount : Int) (e : Entry) : (e.lowered amount).level = e.level + amount := rfl

section

variable {minimum : Int} {entries : List Entry} (amount : Int)

theorem minLevel?_lowered (h : minLevel? entries = some minimum) :
    minLevel? (entries.map (Entry.lowered amount)) = some (minimum + amount) := by
  obtain ⟨hmem, hle⟩ := List.min?_eq_some_iff.1 h
  rw [minLevel?, List.min?_eq_some_iff]
  constructor
  · obtain ⟨e, he, rfl⟩ := List.mem_map.1 hmem
    exact List.mem_map.2 ⟨e.lowered amount, List.mem_map_of_mem he, rfl⟩
  · intro level hlevel
    obtain ⟨lowered, hlowered, rfl⟩ := List.mem_map.1 hlevel
    obtain ⟨e, he, rfl⟩ := List.mem_map.1 hlowered
    exact Int.add_le_add_right (hle e.level (List.mem_map_of_mem he)) amount

theorem writeFrom_lowered (h : ∀ e ∈ entries, minimum ≤ e.level) (current : Nat) :
    writeFrom (minimum + amount) current (entries.map (Entry.lowered amount)) =
      writeFrom minimum current entries := by
  induction entries generalizing current with
  | nil => rfl
  | cons e rest ih =>
      obtain ⟨he, hrest⟩ := List.forall_mem_cons.1 h
      have hdepth : (e.lowered amount).level - (minimum + amount) + 1 = e.level - minimum + 1 := by
        rw [Entry.level_lowered]
        omega
      have hlowered : ¬(e.lowered amount).level < minimum + amount := by
        rw [Entry.level_lowered]
        omega
      rw [List.map_cons, writeFrom, writeFrom, if_neg hlowered, if_neg (Int.not_lt.2 he)]
      simp only [hdepth, ih hrest]
      rfl

end

/-- A layout is what the levels as depths give, without the lists above the shallowest entry: each opens
with ten characters and closes with eleven. Only the differences of the levels matter. -/
theorem layout_eq_cut {entries : List Entry} (hne : entries ≠ []) (hlevels : ∀ e ∈ entries, 1 ≤ e.level) :
    (∃ shallowest, minLevel? entries = some shallowest ∧
      layout entries none =
        .ok (cut ((shallowest.toNat - 1) * 10) ((shallowest.toNat - 1) * 11) (emitFrom 0 entries))) ∧
    ∀ amount, layout (entries.map (Entry.lowered amount)) none = layout entries none := by
  have hwrite {es : List Entry} {minimum : Int} (hes : es ≠ []) (h : minLevel? es = some minimum) :
      layout es none = writeFrom minimum 0 es := layout_eq_writeFrom hes ((Option.none_or ..).trans h)
  obtain ⟨shallowest, hshallowest⟩ := exists_minimum hne none
  rw [Option.none_or] at hshallowest
  have hle := minLevel?_le hshallowest
  obtain ⟨text, htext⟩ := exists_writeFrom hle 0
  refine ⟨⟨shallowest, hshallowest, ?_⟩, fun amount => ?_⟩
  · obtain ⟨hmem, _⟩ := List.min?_eq_some_iff.1 hshallowest
    obtain ⟨e, he, rfl⟩ := List.mem_map.1 hmem
    have hone := hlevels e he
    have hminimum : e.level = ((e.level.toNat - 1 : Nat) : Int) + 1 := by omega
    have hcut := cut_append (repeated (e.level.toNat - 1) listOpen) text (repeated (e.level.toNat - 1) listClose)
    rw [length_repeated, length_repeated, show listOpen.length = 10 from rfl,
      show listClose.length = 11 from rfl, ← emitFrom_zero hne hminimum htext] at hcut
    rw [hcut, hwrite hne hshallowest, htext]
  · have hlowered : entries.map (Entry.lowered amount) ≠ [] := by rwa [ne_eq, List.map_eq_nil_iff]
    rw [hwrite hlowered (minLevel?_lowered amount hshallowest), writeFrom_lowered amount hle,
      hwrite hne hshallowest]

def thirdLevel : List Entry := [⟨4, "a", "A"⟩, ⟨3, "b", "B"⟩]

/-- Two lists are cut off at each end. -/
theorem thirdLevel_cut : thirdLevel ≠ [] ∧ (∀ e ∈ thirdLevel, 1 ≤ e.level) ∧
    layout thirdLevel none = .ok (cut 20 22 (emitFrom 0 thirdLevel)) ∧
    layout (thirdLevel.map (Entry.lowered 5)) none = layout thirdLevel none := by
  have hne : thirdLevel ≠ [] := List.cons_ne_nil _ _
  have hlevels : ∀ e ∈ thirdLevel, 1 ≤ e.level := by decide
  obtain ⟨⟨shallowest, hshallowest, hcut⟩, hlowered⟩ := layout_eq_cut hne hlevels
  obtain rfl : 3 = shallowest := Option.some.inj hshallowest
  exact ⟨hne, hlevels, hcut, hlowered 5⟩

end MarkdownOutline.Outline
