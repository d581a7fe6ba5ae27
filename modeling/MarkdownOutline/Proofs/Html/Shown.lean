import MarkdownOutline.Proofs.Html.Fault
import MarkdownOutline.Proofs.Html.Skeleton
import MarkdownOutline.Proofs.Inline.Nodes

namespace MarkdownOutline

def Leaf.IsPlain : Leaf → Prop
  | htmlBlock _ | htmlInline _ | other _ => False
  | codeBlock _ (some info) _ => info = "" ∨ ∃ c ∈ info.toList, Text.isBlank c = false
  | _ => True

def Branch.IsPlain : Branch → Prop
  | other _ => False
  | _ => True

mutual

def Node.IsPlain : Node → Prop
  | .leaf _ content => content.IsPlain
  | .branch _ shape children => shape.IsPlain ∧ Node.ArePlain children

def Node.ArePlain : List Node → Prop
  | [] => True
  | child :: rest => child.IsPlain ∧ Node.ArePlain rest

end

theorem Node.arePlain_iff {nodes : List Node} : Node.ArePlain nodes ↔ ∀ n ∈ nodes, n.IsPlain := by
  induction nodes with
  | nil => simp [Node.ArePlain]
  | cons n rest ih => rw [Node.ArePlain, ih, List.forall_mem_cons]

namespace Html

open Text Markup

/-- Only known markup, with these tags once the values of their attributes are left out. -/
structure Shows (skeleton : List Tag) (markup : List Markup) : Prop where
  known : ∀ m ∈ markup, m.Known
  shown : (tags markup).map Tag.blank = skeleton

namespace Shows

theorem nil : Shows [] [] := ⟨fun _ h => (List.not_mem_nil h).elim, rfl⟩

theorem append {ts us : List Tag} {ms ns : List Markup} (h : Shows ts ms) (h' : Shows us ns) :
    Shows (ts ++ us) (ms ++ ns) where
  known := List.forall_mem_append.2 ⟨h.known, h'.known⟩
  shown := by rw [tags_append, List.map_append, h.shown, h'.shown]

theorem text (content : String) : Shows [] [text content] where
  known := List.forall_mem_singleton.2 trivial
  shown := rfl

theorem finish {name : String} (h : IsPaired name) : Shows [.finish name] [finish name] where
  known := List.forall_mem_singleton.2 h
  shown := rfl

theorem blank_escaped (as : List Attribute) :
    (as.map Attribute.escaped).map Attribute.blank = blanks (as.map Attribute.name) := by
  simp [blanks, Attribute.escaped, Attribute.blank]

variable {name : String} {as : List Attribute} {names : List String}

theorem start (h : IsPaired name ∨ name ∈ openNames) (has : as.map Attribute.name = names)
    (hnames : ∀ n ∈ names, n ∈ attributeNames) :
    Shows [.start name (blanks names)] [start name as] where
  known := by
    subst has
    exact List.forall_mem_singleton.2 ⟨h, List.forall_mem_map.1 hnames⟩
  shown := by
    subst has
    rw [← blank_escaped]
    rfl

theorem single (h : name ∈ singleNames) (has : as.map Attribute.name = names)
    (hnames : ∀ n ∈ names, n ∈ attributeNames) :
    Shows [.single name (blanks names)] [single name as] where
  known := by
    subst has
    exact List.forall_mem_singleton.2 ⟨h, List.forall_mem_map.1 hnames⟩
  shown := by
    subst has
    rw [← blank_escaped]
    rfl

theorem map_name_nil : ([] : List Attribute).map Attribute.name = [] := rfl

theorem bareStart (h : name ∈ pairedNames) : Shows [.start name []] [Markup.start name []] :=
  start (.inl (.inl h)) map_name_nil fun _ h => (List.not_mem_nil h).elim

theorem bareSingle (h : name ∈ singleNames) : Shows [.single name []] [Markup.single name []] :=
  single h map_name_nil fun _ h => (List.not_mem_nil h).elim

theorem newline : Shows [] [newline] := text _

end Shows

theorem map_name_optional (name : String) (value : Option String) :
    (optional name value).map Attribute.name = ifSet name value := by
  cases value with
  | none => rfl
  | some text =>
      by_cases h : text = ""
      · subst h
        rfl
      · simp [optional, ifSet, isSet_some, h]

theorem mem_ifSet {name : String} (h : name ∈ attributeNames) (value : Option String) :
    ∀ n ∈ ifSet name value, n ∈ attributeNames := by
  intro n hn
  rw [ifSet] at hn
  split at hn
  · obtain rfl : n = name := by simpa using hn
    exact h
  · cases hn

theorem isSet_of_language? {info language : Option String} (h : language? info = .ok language) :
    language.isSome = isSet info := by
  cases info with
  | none =>
      cases h
      rfl
  | some text =>
      by_cases htext : text = ""
      · subst htext
        cases h
        rfl
      · simp only [language?] at h
        split at h
        · cases h
        · cases h
          simp [isSet_some, htext]

section

variable (o : Options)

theorem numbered_ne_empty {slug : String} (h : slug ≠ "") (n : Nat) : numbered slug n ≠ "" := by
  rw [numbered]
  split
  · exact h
  · simp [h]

theorem ensures_uniqueSlug (text : String) : Ensures (uniqueSlug o text) (· ≠ "") := by
  intro s fresh h
  rw [run_uniqueSlug] at h
  cases hslug : o.slugify text with
  | error e =>
      rw [hslug] at h
      cases h
  | ok slug =>
      rw [hslug] at h
      cases h
      refine numbered_ne_empty ?_ _
      split
      · decide
      · simpa using ‹¬slug.isEmpty = true›

theorem shows_plainCode (code : String) {info language : Option String}
    (h : language? info = .ok language) :
    Shows (leafTags (.codeBlock code info true)) (plainCode code language) := by
  have hnames : (optional "class" (language.map fun l => "language-" ++ l)).map Attribute.name =
      ifSet "class" info := by
    rw [map_name_optional, ifSet, ifSet, ← isSet_of_language? h]
    cases language with
    | none => rfl
    | some l => simp [isSet_some]
  have hpre := Shows.bareStart (by decide : "pre" ∈ pairedNames)
  have hcode := Shows.start (.inl (.inl (by decide : "code" ∈ pairedNames))) hnames
    (mem_ifSet (by decide) info)
  exact hpre.append (hcode.append ((Shows.text code).append
    ((Shows.finish (.inl (by decide))).append ((Shows.finish (.inl (by decide))).append .newline))))

theorem ensures_leaf {content : Leaf} (ho : o.highlight = false ∨ content.IsInline) (h : content.IsPlain) :
    Ensures (leaf o content) (Shows (leafTags content)) := by
  cases content with
  | text content => exact Ensures.pure (.text content)
  | codeSpan code =>
      have hcode := Shows.bareStart (by decide : "code" ∈ pairedNames)
      exact Ensures.pure (hcode.append ((Shows.text code).append (.finish (.inl (by decide)))))
  | codeBlock code info fenced =>
      refine (Ensures.lift fun language hlanguage => hlanguage).bind fun language hlanguage => ?_
      rw [ho.resolve_right id]
      exact Ensures.pure (shows_plainCode code hlanguage)
  | thematicBreak =>
      exact Ensures.pure ((Shows.bareSingle (by decide)).append .newline)
  | image url alt title =>
      refine (Ensures.lift fun src _ => trivial).bind fun src _ => Ensures.pure ?_
      refine Shows.single (by decide) ?_ ?_
      · rw [List.map_append, map_name_optional]
        rfl
      · exact List.forall_mem_append.2 ⟨by decide, mem_ifSet (by decide) title⟩
  | lineBreak =>
      exact Ensures.pure ((Shows.bareSingle (by decide)).append .newline)
  | softBreak => exact Ensures.pure .newline
  | htmlBlock | htmlInline | other => exact h.elim

theorem ensures_headingOpening (a : Around) (h : Heading) (text : String) :
    Ensures (headingOpening o h text) fun m => Shows (front (branchTag? o a (.heading h))) [m] := by
  rw [headingOpening, branchTag?, headingNames]
  cases h.isTitle with
  | true => exact Ensures.pure (Shows.start (.inl (.inr ⟨1, rfl⟩)) rfl (by simp [attributeNames]))
  | false =>
      have hstart {anchor : Option String} {names : List String}
          (hnames : ifSet "id" anchor = names) :
          Shows [.start (headingTag h) (blanks names)] [start (headingTag h) (optional "id" anchor)] :=
        Shows.start (.inl (.inr ⟨h.level, rfl⟩)) (by rw [map_name_optional, hnames])
          (hnames ▸ mem_ifSet (by decide) anchor)
      cases anchor? h with
      | some anchor => exact Ensures.pure (hstart rfl)
      | none =>
          cases o.autoHeadingIds with
          | false => exact Ensures.pure (hstart rfl)
          | true =>
              refine (ensures_uniqueSlug o text).bind fun slug hslug => Ensures.pure (hstart ?_)
              simp [ifSet, isSet_some, hslug]

theorem ensures_opening (a : Around) {shape : Branch} (h : shape.IsPlain) (children : List Node) :
    Ensures (opening o a shape children) (Shows (front (branchTag? o a shape))) := by
  cases shape with
  | document => exact Ensures.pure .nil
  | heading heading => exact (ensures_headingOpening o a heading _).bind fun m hm => Ensures.pure hm
  | paragraph =>
      rw [opening, branchTag?]
      split
      · exact Ensures.pure .nil
      · exact Ensures.pure (Shows.bareStart (by decide))
  | blockQuote => exact Ensures.pure ((Shows.bareStart (by decide)).append .newline)
  | list ordered number tight =>
      cases ordered with
      | false => exact Ensures.pure ((Shows.bareStart (by decide)).append .newline)
      | true =>
          refine Ensures.pure ((Shows.start (.inl (.inl (by decide))) ?_ ?_).append .newline)
          · split <;> rfl
          · split <;> decide
  | listItem =>
      cases children with
      | nil => exact Ensures.pure (Shows.bareStart (by decide))
      | cons child rest =>
          refine Ensures.pure ?_
          split
          · exact Shows.bareStart (by decide)
          · exact (Shows.bareStart (by decide)).append .newline
  | emphasis | strong | strikethrough => exact Ensures.pure (Shows.bareStart (by decide))
  | link url title =>
      refine (Ensures.lift fun href _ => trivial).bind fun href _ => Ensures.pure ?_
      refine Shows.start (.inl (.inl (by decide))) (congrArg _ (map_name_optional _ _)) ?_
      exact List.forall_mem_cons.2 ⟨by decide, mem_ifSet (by decide) title⟩
  | other kind => exact h.elim

theorem ensures_closing (a : Around) (last : Bool) {shape : Branch} (h : shape.IsPlain) :
    Ensures (closing a last shape) (Shows (back (branchTag? o a shape))) := by
  have hback {name : String} {names : List String} (htag : branchTag? o a shape = some (name, names)) :
      Shows (back (branchTag? o a shape)) [finish name] := by
    rw [htag]
    exact .finish (isPaired_of_branchTag? htag)
  cases shape with
  | document => exact Ensures.pure .nil
  | paragraph =>
      by_cases htight : a.isTightItem = true
      · rw [closing, branchTag?, if_pos htight, if_pos htight]
        split
        · exact Ensures.pure .nil
        · exact Ensures.pure .newline
      · have htag : branchTag? o a .paragraph = some ("p", []) := by rw [branchTag?, if_neg htight]
        rw [closing, if_neg htight]
        simpa using Ensures.pure ((hback htag).append .newline)
  | list ordered number tight => cases ordered <;> exact Ensures.pure ((hback rfl).append .newline)
  | heading | blockQuote | listItem => exact Ensures.pure ((hback rfl).append .newline)
  | emphasis | strong | strikethrough | link => exact Ensures.pure (hback rfl)
  | other kind => exact h.elim

mutual

theorem ensures_tree (a : Around) (last : Bool) {node : Node} (ho : o.highlight = false ∨ node.IsInline)
    (h : node.IsPlain) : Ensures (tree o a last node) (Shows (treeTags o a node)) := by
  cases node with
  | leaf loc content => exact ensures_leaf o ho h
  | branch loc shape children =>
      refine (ensures_opening o a h.1 children).bind fun front hfront => ?_
      refine (ensures_trees (a.inside shape) (ho.imp_right And.right) h.2).bind fun inner hinner => ?_
      refine (ensures_closing o a last h.1).bind fun back hback => ?_
      exact Ensures.pure ((hfront.append hinner).append hback)

theorem ensures_trees (a : Around) {children : List Node} (ho : o.highlight = false ∨ Node.AreInline children)
    (h : Node.ArePlain children) : Ensures (trees o a children) (Shows (treesTags o a children)) := by
  cases children with
  | nil => exact Ensures.pure .nil
  | cons child rest =>
      refine (ensures_tree a rest.isEmpty (ho.imp_right And.left) h.1).bind fun markup hmarkup => ?_
      exact (ensures_trees a (ho.imp_right And.right) h.2).bind fun more hmore =>
        Ensures.pure (hmarkup.append hmore)

end

theorem shows_stylesheet (css : Option String) :
    Shows (if isSet css then [.start "link" (blanks ["rel", "type", "href"])] else [])
      (match css with
        | none | some "" => []
        | some href => [Markup.text "  ",
            start "link" [⟨"rel", "stylesheet"⟩, ⟨"type", "text/css"⟩, ⟨"href", href⟩], newline]) := by
  cases css with
  | none => exact .nil
  | some href =>
      by_cases h : href = ""
      · subst h
        exact .nil
      · rw [isSet_some, if_pos (bne_iff_ne.2 h)]
        have hlink : Shows [.start "link" (blanks ["rel", "type", "href"])]
            [start "link" [⟨"rel", "stylesheet"⟩, ⟨"type", "text/css"⟩, ⟨"href", href⟩]] :=
          .start (.inr (by decide)) rfl (by simp [attributeNames])
        simpa [h] using (Shows.text "  ").append (hlink.append .newline)

theorem shows_pageStart (title : String) :
    Shows (.doctype :: .start "html" [] :: (element "head" [] (headTags o) ++ [.start "body" []]))
      (pageStart title o.css) := by
  have hfirst : Shows
      (.doctype :: .start "html" [] :: .start "head" [] ::
        (element "title" [] [] ++ [.start "meta" (blanks ["charset"])]))
      [raw "<!DOCTYPE html>\n", start "html" [], newline, start "head" [], newline, Markup.text "  ",
        start "title" [], Markup.text title, finish "title", newline, Markup.text "  ",
        start "meta" [⟨"charset", "utf-8"⟩], newline] := by
    refine ⟨?_, rfl⟩
    simp [Markup.Known, IsPaired, pairedNames, openNames, attributeNames, newline]
  have hlast : Shows [.finish "head", .start "body" []]
      [finish "head", newline, start "body" [], Markup.text "\n\n"] := by
    refine ⟨?_, rfl⟩
    simp [Markup.Known, IsPaired, pairedNames, newline]
  have h : Shows _ (pageStart title o.css) := (hfirst.append (shows_stylesheet o.css)).append hlast
  simpa [element, headTags, blanks] using h

def headerTags : List Tag :=
  if o.completePage then
    .doctype :: .start "html" [] :: (element "head" [] (headTags o) ++ [.start "body" []])
  else []

def footerTags : List Tag := if o.completePage then [.finish "body", .finish "html"] else []

theorem pageTags_eq (root : Node) :
    pageTags o root = headerTags o ++ treeTags o {} root ++ footerTags o := by
  rw [pageTags, headerTags, footerTags]
  split <;> simp [element, blanks]

theorem ensures_header (root : Node) : Ensures (header o root) (Shows (headerTags o)) := by
  rw [headerTags]
  refine Ensures.bind (p := fun _ => True) (fun _ _ _ => trivial) fun _ _ => ?_
  split
  · cases o.title with
    | some title => exact Ensures.pure (shows_pageStart o title)
    | none =>
        refine (Ensures.lift (p := fun _ => True) fun _ _ => trivial).bind fun title _ => ?_
        exact Ensures.pure (shows_pageStart o title)
  · exact Ensures.pure .nil

theorem shows_footer : Shows (footerTags o) (if o.completePage then pageEnd else []) := by
  rw [footerTags]
  split
  · refine ⟨?_, rfl⟩
    simp [pageEnd, Markup.Known, IsPaired, pairedNames, newline]
  · exact .nil

theorem ensures_page (ho : o.highlight = false) {root : Node} (h : root.IsPlain) :
    Ensures (page o root) fun text => ∃ markup, text = write markup ∧ Shows (pageTags o root) markup := by
  refine (ensures_header o root).bind fun front hfront => ?_
  refine (ensures_tree o {} true (.inl ho) h).bind fun body hbody => Ensures.pure ?_
  refine ⟨front ++ body ++ (if o.completePage then pageEnd else []), ?_, ?_⟩
  · simp [write, String.append_assoc]
  · rw [pageTags_eq]
    exact (hfront.append hbody).append (shows_footer o)

end

end Html

end MarkdownOutline
