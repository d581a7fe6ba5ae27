import MarkdownOutline.Proofs.Outline.Fault

namespace MarkdownOutline.Outline

structure Link where
  anchor : String
  html : String
  deriving DecidableEq

def Entry.target (e : Entry) : Link := ⟨e.anchor, e.html⟩

def Link.write (link : Link) : String := "<a href=\"#" ++ link.anchor ++ "\">" ++ link.html ++ "</a>"

/-- An item of a list, with the items of the list in it; there is no list without items. -/
structure Item where
  link : Option Link
  nested : List Item

/-- The items of one list. None is empty, and only the first may be without a link. -/
inductive IsOutline : List Item → Prop
  | mk {first : Item} {rest : List Item} (hfirst : first.link = none → first.nested ≠ [])
      (hrest : ∀ item ∈ rest, item.link ≠ none)
      (hnested : ∀ item ∈ first :: rest, item.nested ≠ [] → IsOutline item.nested) :
      IsOutline (first :: rest)

theorem IsOutline.nested {items : List Item} (h : IsOutline items) :
    ∀ item ∈ items, item.nested ≠ [] → IsOutline item.nested := by
  obtain ⟨_, _, hnested⟩ := h
  exact hnested

mutual

def Item.write : Item → String
  | ⟨link, nested⟩ => "<li>" ++ link.elim "" Link.write ++ writeList nested ++ "</li>"

def writeList : List Item → String
  | [] => ""
  | first :: rest => "\n<ul>\n" ++ first.write ++ writeRest rest ++ "\n</ul>"

def writeRest : List Item → String
  | [] => ""
  | item :: rest => "\n\n" ++ item.write ++ writeRest rest

end

mutual

def Item.links (depth : Nat) : Item → List (Nat × Link)
  | ⟨link, nested⟩ => (link.map fun link => (depth, link)).toList ++ linksOf (depth + 1) nested

def linksOf (depth : Nat) : List Item → List (Nat × Link)
  | [] => []
  | item :: rest => item.links depth ++ linksOf depth rest

end

/-- What is still to come while lists are open: the list in the item that was begun last, and for each
open list, the innermost first, the items behind the one that is open in it. -/
structure Pending where
  nested : List Item
  behind : List (List Item)

namespace Pending

def writeBehind : List (List Item) → String
  | [] => ""
  | items :: rest => "</li>" ++ writeRest items ++ "\n</ul>" ++ writeBehind rest

def write (p : Pending) : String := writeList p.nested ++ writeBehind p.behind

def linksBehind : List (List Item) → List (Nat × Link)
  | [] => []
  | items :: rest => linksOf (rest.length + 1) items ++ linksBehind rest

def links (p : Pending) : List (Nat × Link) := linksOf (p.behind.length + 1) p.nested ++ linksBehind p.behind

structure IsProper (p : Pending) : Prop where
  nested : p.nested ≠ [] → IsOutline p.nested
  linked : ∀ items ∈ p.behind, ∀ item ∈ items, item.link ≠ none
  behind : ∀ items ∈ p.behind, ∀ item ∈ items, item.nested ≠ [] → IsOutline item.nested

def wrap (link : Option Link) (p : Pending) : Pending :=
  ⟨⟨link, p.nested⟩ :: p.behind.headD [], p.behind.tail⟩

def ended (n : Nat) (p : Pending) : Pending := ⟨[], List.replicate n [] ++ p.nested :: p.behind⟩

def before (current depth : Nat) (link : Link) (p : Pending) : Pending :=
  if current < depth then Nat.repeat (wrap none) (depth - current - 1) (p.wrap (some link))
  else ended (current - depth) (p.wrap (some link))

end Pending

def pending (minimum : Int) (current : Nat) : List Entry → Pending
  | [] => ⟨[], List.replicate current []⟩
  | e :: rest =>
    let depth := (e.level - minimum + 1).toNat
    (pending minimum depth rest).before current depth e.target

theorem repeated_zero (s : String) : repeated 0 s = "" := rfl

theorem repeated_succ (n : Nat) (s : String) : repeated (n + 1) s = s ++ repeated n s := by
  rw [repeated, List.replicate_succ, String.join_cons, repeated]

theorem repeated_add (m n : Nat) (s : String) : repeated (m + n) s = repeated m s ++ repeated n s := by
  induction m with
  | zero => rw [Nat.zero_add, repeated_zero, String.empty_append]
  | succ m ih => rw [Nat.succ_add, repeated_succ, ih, repeated_succ, String.append_assoc]

namespace Pending

variable {link : Option Link} {p : Pending} {n current depth : Nat}

theorem IsProper.wrap (hp : p.IsProper) (hlink : link = none → p.nested ≠ []) :
    (p.wrap link).IsProper := by
  have hhead : ∀ item ∈ p.behind.headD [], item.link ≠ none ∧ (item.nested ≠ [] → IsOutline item.nested) := by
    cases hbehind : p.behind with
    | nil => exact fun _ hitem => (List.not_mem_nil hitem).elim
    | cons items rest =>
        have hmem : items ∈ p.behind := hbehind ▸ List.mem_cons_self ..
        exact fun item hitem => ⟨hp.linked items hmem item hitem, hp.behind items hmem item hitem⟩
  refine ⟨fun _ => ⟨hlink, fun item hitem => (hhead item hitem).1, ?_⟩, ?_, ?_⟩
  · exact List.forall_mem_cons.2 ⟨hp.nested, fun item hitem => (hhead item hitem).2⟩
  · exact fun items hitems => hp.linked items (List.mem_of_mem_tail hitems)
  · exact fun items hitems => hp.behind items (List.mem_of_mem_tail hitems)

theorem nested_wrap_ne_nil : (p.wrap link).nested ≠ [] := List.cons_ne_nil _ _

theorem nested_repeat_wrap_ne_nil (h : p.nested ≠ []) : (Nat.repeat (wrap none) n p).nested ≠ [] := by
  cases n with
  | zero => exact h
  | succ n => exact nested_wrap_ne_nil

theorem IsProper.repeat_wrap (hp : p.IsProper) (h : p.nested ≠ []) :
    (Nat.repeat (Pending.wrap none) n p).IsProper := by
  induction n with
  | zero => exact hp
  | succ n ih => exact ih.wrap fun _ => nested_repeat_wrap_ne_nil h

theorem IsProper.ended (hp : p.IsProper) (hlinked : ∀ item ∈ p.nested, item.link ≠ none) :
    (p.ended n).IsProper := by
  have hmem {items : List Item} (h : items ∈ (p.ended n).behind) :
      items = [] ∨ items = p.nested ∨ items ∈ p.behind := by
    rcases List.mem_append.1 h with h | h
    · exact .inl (List.eq_of_mem_replicate h)
    · exact .inr (List.mem_cons.1 h)
  have hnested : ∀ item ∈ p.nested, item.nested ≠ [] → IsOutline item.nested := by
    intro item hitem
    exact (hp.nested (List.ne_nil_of_mem hitem)).nested item hitem
  refine ⟨fun h => absurd rfl h, fun items h => ?_, fun items h => ?_⟩
  · rcases hmem h with rfl | rfl | h
    · exact fun _ hitem => (List.not_mem_nil hitem).elim
    · exact hlinked
    · exact hp.linked items h
  · rcases hmem h with rfl | rfl | h
    · exact fun _ hitem => (List.not_mem_nil hitem).elim
    · exact hnested
    · exact hp.behind items h

theorem IsProper.before (hp : p.IsProper) (link : Link) : (p.before current depth link).IsProper := by
  have hwrap : (p.wrap (some link)).IsProper := hp.wrap fun h => nomatch h
  rw [Pending.before]
  split
  · exact hwrap.repeat_wrap nested_wrap_ne_nil
  · refine hwrap.ended (List.forall_mem_cons.2 ⟨fun h => (nomatch h), fun item hitem => ?_⟩)
    cases hbehind : p.behind with
    | nil => rw [hbehind] at hitem; exact (List.not_mem_nil hitem).elim
    | cons items rest =>
        rw [hbehind] at hitem
        exact hp.linked items (hbehind ▸ List.mem_cons_self ..) item hitem

end Pending

section

variable {minimum : Int} {current : Nat} {entries : List Entry}

end

end MarkdownOutline.Outline
