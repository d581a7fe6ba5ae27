import MarkdownOutline.Proofs.Html.Events
import MarkdownOutline.Proofs.Html.Shown

namespace MarkdownOutline

def Branch.isLink : Branch → Bool
  | link .. => true
  | _ => false

mutual

def Node.links : Node → Nat
  | .leaf .. => 0
  | .branch _ shape children => shape.isLink.toNat + Node.linksAll children

def Node.linksAll : List Node → Nat
  | [] => 0
  | child :: rest => child.links + Node.linksAll rest

end

namespace Html

def Tag.anchor? : Tag → Option Bool
  | start name attributes => if name = "a" ∧ attributes ≠ [] then some true else none
  | finish name => if name = "a" then some false else none
  | doctype | single .. => none

theorem event?_eq_of_iff {cs : List Char} {event : Option Bool} (hstart : anchorStart <+: cs ↔ event = some true)
    (hend : anchorEnd <+: cs ↔ event = some false) : event? cs = event := by
  rw [← event?_eq_true_iff] at hstart
  rw [← event?_eq_false_iff] at hend
  cases event with
  | none =>
      cases hevent : event? cs with
      | none => rfl
      | some b => cases b <;> simp_all
  | some b => cases b <;> simp_all

theorem prefix_name_iff {name : String} (hname : IsName name) {c : Char} (hc : isNameChar c = false)
    {rest : List Char} (hrest : rest.takeWhile isNameChar = []) :
    ['a', c] <+: name.toList ++ rest ↔ name = "a" ∧ rest.head? = some c := by
  constructor
  · rintro ⟨more, hmore⟩
    have hletter : ∀ d ∈ ['a'], isNameChar d = true := List.forall_mem_singleton.2 (by decide)
    have hletters : ['a'] ++ c :: more = name.toList ++ rest := hmore
    obtain ⟨hsame, hmore⟩ := stretch_unique hletter hname.2 (List.takeWhile_cons_of_neg (by simp [hc])) hrest
      hletters
    exact ⟨String.toList_inj.1 hsame.symm, by rw [← hmore, List.head?_cons]⟩
  · rintro ⟨rfl, hhead⟩
    obtain ⟨more, rfl⟩ := List.head?_eq_some_iff.1 hhead
    exact ⟨more, rfl⟩

theorem event?_name {name : String} (hname : IsName name) {rest : List Char}
    (hrest : rest.takeWhile isNameChar = []) :
    event? ('<' :: (name.toList ++ rest)) = if name = "a" ∧ rest.head? = some ' ' then some true else none := by
  have hstart : anchorStart <+: '<' :: (name.toList ++ rest) ↔ name = "a" ∧ rest.head? = some ' ' :=
    (List.prefix_cons_inj '<').trans (prefix_name_iff hname (by decide) hrest)
  refine event?_eq_of_iff (hstart.trans (by simp)) (iff_of_false ?_ (by split <;> simp))
  rintro ⟨more, hmore⟩
  exact hname.not_marked rest (by decide) _ (List.cons.inj hmore).2.symm

theorem event?_finish {name : String} (hname : IsName name) :
    event? ('<' :: '/' :: (name.toList ++ ['>'])) = if name = "a" then some false else none := by
  have hend : anchorEnd <+: '<' :: '/' :: (name.toList ++ ['>']) ↔ name = "a" := by
    have hname := prefix_name_iff hname (c := '>') (by decide)
      (List.takeWhile_cons_of_neg (a := '>') (l := []) (by decide))
    refine (List.prefix_cons_inj '<').trans ((List.prefix_cons_inj '/').trans (hname.trans ?_))
    simp
  refine event?_eq_of_iff (iff_of_false ?_ (by split <;> simp)) (hend.trans (by simp))
  rintro ⟨more, hmore⟩
  exact absurd (List.cons.inj (List.cons.inj hmore).2).1 (by decide)

theorem event?_tag {t : Tag} (h : t.Known) : event? (Token.tag t).chars = t.anchor? := by
  cases t with
  | doctype => decide
  | finish name => exact event?_finish h.isName
  | start name as =>
      have hrest : ((as.flatMap attributeChars ++ []) ++ ['>']).takeWhile isNameChar = [] := by
        cases as <;> rfl
      rw [Token.chars, Tag.inside, List.append_assoc, event?_name (isName_of_start h.1) hrest, Tag.anchor?]
      cases as <;> simp [attributeChars]
  | single name as =>
      have hrest : ((as.flatMap attributeChars ++ [' ', '/']) ++ ['>']).takeWhile isNameChar = [] := by
        cases as <;> rfl
      have hname : name ≠ "a" := by
        rintro rfl
        exact absurd h.1 (by decide)
      rw [Token.chars, Tag.inside, List.append_assoc, event?_name (isName_of_single h.1) hrest, Tag.anchor?,
        if_neg fun hanchor => hname hanchor.1]

def Token.anchor? : Token → Option Bool
  | tag t => t.anchor?
  | run _ => none

theorem not_mem_of_isClean {text : String} (h : IsClean text) : '<' ∉ text.toList :=
  fun hmem => absurd (h _ hmem) (by decide)

theorem not_mem_inside {t : Tag} (h : t.Known) : '<' ∉ t.inside ++ ['>'] := by
  intro hmem
  rcases List.mem_append.1 hmem with hmem | hmem
  · exact (not_angle_of_mem_inside h hmem).1 rfl
  · exact absurd hmem (by decide)

theorem closed_token {t : Token} (h : t.Loose) : Closed t.chars := by
  cases t with
  | run text => exact closed_of_not_mem (not_mem_of_isClean h)
  | tag t =>
      have hend : '>' ∈ t.inside ++ ['>'] := List.mem_append_right _ (List.mem_singleton_self _)
      exact closed_cons.2 ⟨fun _ => hend, closed_of_not_mem (not_mem_inside h)⟩

theorem events_token {t : Token} (h : t.Loose) : events t.chars = t.anchor?.toList := by
  cases t with
  | run text => exact events_of_not_mem (not_mem_of_isClean h)
  | tag t =>
      have hevent := event?_tag h
      rw [Token.chars] at hevent ⊢
      rw [events_cons, hevent, events_of_not_mem (not_mem_inside h), List.append_nil]
      rfl

theorem events_tokens {tokens : List Token} (h : ∀ t ∈ tokens, t.Loose) :
    Closed (tokens.flatMap Token.chars) ∧
      events (tokens.flatMap Token.chars) = (tagsOf tokens).filterMap Tag.anchor? := by
  induction tokens with
  | nil => exact ⟨closed_of_not_mem List.not_mem_nil, rfl⟩
  | cons t tokens ih =>
      obtain ⟨ht, htokens⟩ := List.forall_mem_cons.1 h
      obtain ⟨hclosed, hevents⟩ := ih htokens
      refine ⟨(closed_token ht).append hclosed, ?_⟩
      rw [List.flatMap_cons, events_append (closed_token ht), events_token ht, hevents]
      cases t with
      | run text => rfl
      | tag t =>
          have hcons : tagsOf (.tag t :: tokens) = t :: tagsOf tokens := rfl
          rw [hcons, List.filterMap_cons]
          cases hanchor : t.anchor? with
          | none => simp [Token.anchor?, hanchor]
          | some b => simp [Token.anchor?, hanchor]

theorem events_write {markup : List Markup} (h : ∀ m ∈ markup, m.Known) :
    Closed (write markup).toList ∧ events (write markup).toList = (tags markup).filterMap Tag.anchor? := by
  rw [toList_write h, tags]
  refine events_tokens fun t ht => ?_
  obtain ⟨m, hm, ht⟩ := List.mem_flatMap.1 ht
  exact Markup.loose_tokens (h m hm) t ht

theorem anchor?_blank (t : Tag) : t.blank.anchor? = t.anchor? := by
  cases t with
  | start name as => cases as <;> simp [Tag.blank, Tag.anchor?]
  | _ => rfl

theorem events_of_shows {skeleton : List Tag} {markup : List Markup} (h : Shows skeleton markup) :
    Closed (write markup).toList ∧ events (write markup).toList = skeleton.filterMap Tag.anchor? := by
  obtain ⟨hclosed, hevents⟩ := events_write h.known
  refine ⟨hclosed, hevents.trans ?_⟩
  rw [← h.shown, List.filterMap_map]
  exact List.filterMap_congr fun t _ => (anchor?_blank t).symm

end Html

mutual

def Node.anchors : Node → List Bool
  | .leaf .. => []
  | .branch _ shape children =>
    if shape.isLink then true :: (Node.anchorsAll children ++ [false]) else Node.anchorsAll children

def Node.anchorsAll : List Node → List Bool
  | [] => []
  | child :: rest => child.anchors ++ Node.anchorsAll rest

end

mutual

theorem count_anchors (b : Bool) (node : Node) : node.anchors.count b = node.links := by
  cases node with
  | leaf loc content => rfl
  | branch loc shape children =>
      have hchildren := count_anchorsAll b children
      rw [Node.anchors, Node.links]
      cases shape.isLink with
      | false => rw [if_neg Bool.false_ne_true, hchildren, Bool.toNat_false, Nat.zero_add]
      | true =>
          rw [if_pos rfl, List.count_cons, List.count_append, hchildren]
          cases b <;> simp [Nat.add_comm]

theorem count_anchorsAll (b : Bool) (children : List Node) :
    (Node.anchorsAll children).count b = Node.linksAll children := by
  cases children with
  | nil => rfl
  | cons child rest =>
      rw [Node.anchorsAll, List.count_append, count_anchors, count_anchorsAll, Node.linksAll]

end

namespace Html

variable (o : Options)

theorem filterMap_leafTags (content : Leaf) : (leafTags content).filterMap Tag.anchor? = [] := by
  cases content <;> simp [leafTags, element, Tag.anchor?]

theorem headingTag_ne (h : Heading) : headingTag h ≠ "a" := by
  intro heq
  have hhead := congrArg (fun name => name.toList.head?) heq
  rw [headingTag, String.toList_append] at hhead
  exact absurd hhead (by simp)

/-- Of the branches only links are written as anchors. -/
theorem branchTag?_cases (a : Around) (shape : Branch) :
    (shape.isLink = true ∧ ∃ names, branchTag? o a shape = some ("a", "href" :: names)) ∨
      shape.isLink = false ∧ ∀ name names, branchTag? o a shape = some (name, names) → name ≠ "a" := by
  cases shape with
  | link url title => exact .inl ⟨rfl, _, rfl⟩
  | heading h =>
      refine .inr ⟨rfl, fun name names htag => ?_⟩
      obtain ⟨rfl, -⟩ := Prod.mk.inj (Option.some.inj htag)
      split
      · decide
      · exact headingTag_ne h
  | paragraph =>
      refine .inr ⟨rfl, fun name names htag => ?_⟩
      rw [branchTag?] at htag
      split at htag
      · cases htag
      · obtain ⟨rfl, -⟩ := Prod.mk.inj (Option.some.inj htag)
        decide
  | list ordered number tight =>
      refine .inr ⟨rfl, fun name names htag => ?_⟩
      cases ordered <;> (obtain ⟨rfl, -⟩ := Prod.mk.inj (Option.some.inj htag); decide)
  | document | other => exact .inr ⟨rfl, fun name names htag => by cases htag⟩
  | _ =>
      refine .inr ⟨rfl, fun name names htag => ?_⟩
      obtain ⟨rfl, -⟩ := Prod.mk.inj (Option.some.inj htag)
      decide

theorem filterMap_front_back (a : Around) (shape : Branch) (inner : List Tag) :
    (front (branchTag? o a shape) ++ inner ++ back (branchTag? o a shape)).filterMap Tag.anchor? =
      if shape.isLink then true :: (inner.filterMap Tag.anchor? ++ [false]) else inner.filterMap Tag.anchor? := by
  rw [List.filterMap_append, List.filterMap_append]
  rcases branchTag?_cases o a shape with ⟨hlink, names, htag⟩ | ⟨hlink, hname⟩
  · rw [hlink, htag]
    simp [front, back, blanks, Tag.anchor?]
  · rw [hlink]
    cases htag : branchTag? o a shape with
    | none => simp [front, back]
    | some tag => simp [front, back, Tag.anchor?, hname tag.1 tag.2 htag]

mutual

/-- What is written for a tree has an anchor where the tree has a link. -/
theorem filterMap_treeTags (a : Around) (node : Node) :
    (treeTags o a node).filterMap Tag.anchor? = node.anchors := by
  cases node with
  | leaf loc content => exact filterMap_leafTags content
  | branch loc shape children =>
      rw [treeTags, filterMap_front_back, filterMap_treesTags (a.inside shape) children, Node.anchors]

theorem filterMap_treesTags (a : Around) (children : List Node) :
    (treesTags o a children).filterMap Tag.anchor? = Node.anchorsAll children := by
  cases children with
  | nil => rfl
  | cons child rest =>
      rw [treesTags, List.filterMap_append, filterMap_treeTags, filterMap_treesTags, Node.anchorsAll]

end

end Html

end MarkdownOutline
