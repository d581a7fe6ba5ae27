import MarkdownOutline.Proofs.Outline.Nested

namespace MarkdownOutline.Outline

def before? (pattern : List Char) : List Char → Option (List Char)
  | [] => none
  | c :: cs => if pattern.isPrefixOf (c :: cs) then some [] else (before? pattern cs).map (c :: ·)

def Link.read? (cs : List Char) : Option Link :=
  let start := "<a href=\"#".toList
  if start.isPrefixOf cs then
    let rest := cs.drop start.length
    let anchor := rest.takeWhile (· ≠ '"')
    (before? "</a>".toList (rest.drop (anchor.length + 2))).map fun html =>
      ⟨String.ofList anchor, String.ofList html⟩
  else none

theorem Link.toList_write (link : Link) : link.write.toList =
    "<a href=\"#".toList ++ (link.anchor.toList ++ ("\">".toList ++ (link.html.toList ++ "</a>".toList))) := by
  simp only [Link.write, String.toList_append, List.append_assoc]

theorem layout_eq_writeFrom {entries : List Entry} (hne : entries ≠ []) {given : Option Int} {minimum : Int}
    (h : given.or (minLevel? entries) = some minimum) : layout entries given = writeFrom minimum 0 entries := by
  rw [layout, h]
  exact if_neg (by rwa [List.isEmpty_iff])

theorem minLevel?_le {entries : List Entry} {minimum : Int} (h : minLevel? entries = some minimum) :
    ∀ e ∈ entries, minimum ≤ e.level := by
  obtain ⟨_, hle⟩ := List.min?_eq_some_iff.1 h
  exact fun e he => hle e.level (List.mem_map_of_mem he)

theorem exists_minimum {entries : List Entry} (hne : entries ≠ []) (given : Option Int) :
    ∃ minimum, given.or (minLevel? entries) = some minimum := by
  cases given with
  | some minimum => exact ⟨minimum, rfl⟩
  | none =>
      obtain ⟨first, rest, rfl⟩ := List.exists_cons_of_ne_nil hne
      exact ⟨_, rfl⟩

end MarkdownOutline.Outline
