import Mathlib.Data.List.TakeWhile
import MarkdownOutline.Proofs.Html.Refinement
import MarkdownOutline.Proofs.Html.Shown
import MarkdownOutline.Proofs.Text.Reference

namespace MarkdownOutline

open Text CharRef

def Leaf.addresses : Leaf → List String
  | image url _ _ => [url]
  | _ => []

def Branch.addresses : Branch → List String
  | link url _ => [url]
  | _ => []

mutual

def Node.addresses : Node → List String
  | .leaf _ content => content.addresses
  | .branch _ shape children => shape.addresses ++ Node.addressesAll children

def Node.addressesAll : List Node → List String
  | [] => []
  | child :: rest => child.addresses ++ Node.addressesAll rest

end

theorem Leaf.IsPlain.hasMarkup {content : Leaf} (h : content.IsPlain) : content.HasMarkup := by
  cases content with
  | codeBlock code info fenced =>
      cases info with
      | none => trivial
      | some text => exact h
  | other kind => exact h
  | _ => trivial

mutual

theorem Node.IsPlain.hasMarkup {node : Node} (h : node.IsPlain) : node.HasMarkup := by
  cases node with
  | leaf loc content => exact Leaf.IsPlain.hasMarkup h
  | branch loc shape children =>
      refine ⟨?_, Node.ArePlain.haveMarkup h.2⟩
      cases shape with
      | other kind => exact h.1
      | _ => trivial

theorem Node.ArePlain.haveMarkup {nodes : List Node} (h : Node.ArePlain nodes) : Node.HaveMarkup nodes := by
  cases nodes with
  | nil => trivial
  | cons child rest => exact ⟨Node.IsPlain.hasMarkup h.1, Node.ArePlain.haveMarkup h.2⟩

end

namespace Html

section

variable (o : Options)

def branchSlugged (shape : Branch) (children : List Node) : List String :=
  match shape with
  | .heading h => if wantsSlug o h then [plainTexts children] else []
  | _ => []

mutual

def slugged : Node → List String
  | .leaf .. => []
  | .branch _ shape children => branchSlugged o shape children ++ sluggedAll children

def sluggedAll : List Node → List String
  | [] => []
  | child :: rest => slugged child ++ sluggedAll rest

end

/-- No address holds a number that is too long to be read, every slug can be made, and a page
without a title can be searched for one. -/
structure Writable (root : Node) : Prop where
  addresses : ∀ url ∈ root.addresses, ¬HasLong url.toList
  slugs : ∀ text ∈ slugged o root, ∃ slug, o.slugify text = .ok slug
  titled : o.completePage = true → o.title = none → root.isBranch = true

theorem encodeUrl_ok_iff (url : String) : errorOf? (encodeUrl url) = none ↔ ¬HasLong url.toList := by
  rw [← decode_ok_iff, encodeUrl]
  cases decode url.toList <;> simp [errorOf?]

theorem firstWord?_isSome {cs : List Char} (h : ∃ c ∈ cs, isBlank c = false) :
    (firstWord? cs).isSome = true := by
  obtain ⟨c, hc, hblank⟩ := h
  rw [firstWord?]
  split
  · have := List.dropWhile_eq_nil_iff.1 ‹trimLeft isBlank cs = []› c hc
    rw [this] at hblank
    cases hblank
  · rfl

theorem language?_of_hasMarkup {code : String} {info : Option String} {fenced : Bool}
    (h : (Leaf.codeBlock code info fenced).HasMarkup) : errorOf? (language? info) = none := by
  cases info with
  | none => rfl
  | some text =>
      rcases h with rfl | h
      · rfl
      · obtain ⟨word, hword⟩ := Option.isSome_iff_exists.1 (firstWord?_isSome h)
        unfold language?
        split
        · rfl
        · rfl
        · simp_all [errorOf?]

theorem leafFault?_eq_none {content : Leaf} (h : content.HasMarkup) :
    leafFault? content = none ↔ ∀ url ∈ content.addresses, ¬HasLong url.toList := by
  cases content with
  | codeBlock code info fenced => simp [leafFault?, Leaf.addresses, language?_of_hasMarkup h]
  | image url alt title => simp [leafFault?, Leaf.addresses, encodeUrl_ok_iff]
  | other => exact h.elim
  | _ => simp [leafFault?, Leaf.addresses]

theorem branchFault?_eq_none {shape : Branch} (h : shape.HasMarkup) (children : List Node) :
    branchFault? o shape children = none ↔
      (∀ url ∈ shape.addresses, ¬HasLong url.toList) ∧
        ∀ text ∈ branchSlugged o shape children, ∃ slug, o.slugify text = .ok slug := by
  cases shape with
  | heading heading =>
      cases hwants : wantsSlug o heading with
      | false => simp [branchFault?, branchSlugged, Branch.addresses, hwants]
      | true => simp [branchFault?, branchSlugged, Branch.addresses, hwants, errorOf?_eq_none]
  | link url title => simp [branchFault?, branchSlugged, Branch.addresses, encodeUrl_ok_iff]
  | other kind => exact h.elim
  | _ => simp [branchFault?, branchSlugged, Branch.addresses]

mutual

theorem treeFault?_eq_none {node : Node} (h : node.HasMarkup) :
    treeFault? o node = none ↔
      (∀ url ∈ node.addresses, ¬HasLong url.toList) ∧
        ∀ text ∈ slugged o node, ∃ slug, o.slugify text = .ok slug := by
  cases node with
  | leaf loc content =>
      simp only [treeFault?, Node.addresses, slugged, leafFault?_eq_none h]
      simp
  | branch loc shape children =>
      simp only [treeFault?, Node.addresses, slugged, Option.or_eq_none_iff, List.forall_mem_append,
        branchFault?_eq_none o h.1, treesFault?_eq_none h.2]
      exact and_and_and_comm

theorem treesFault?_eq_none {children : List Node} (h : Node.HaveMarkup children) :
    treesFault? o children = none ↔
      (∀ url ∈ Node.addressesAll children, ¬HasLong url.toList) ∧
        ∀ text ∈ sluggedAll o children, ∃ slug, o.slugify text = .ok slug := by
  cases children with
  | nil => simp [treesFault?, Node.addressesAll, sluggedAll]
  | cons child rest =>
      simp only [treesFault?, Node.addressesAll, sluggedAll, Option.or_eq_none_iff,
        List.forall_mem_append, treeFault?_eq_none h.1, treesFault?_eq_none h.2]
      exact and_and_and_comm

end

theorem headerFault?_eq_none (root : Node) :
    headerFault? o root = none ↔ (o.completePage = true → o.title = none → root.isBranch = true) := by
  rw [headerFault?]
  cases root with
  | leaf loc content =>
      cases o.completePage <;> cases o.title <;> simp [titleText, errorOf?, Node.isBranch]
  | branch loc shape children => simp [titleText, errorOf?, Node.isBranch]

theorem pageFault?_eq_none {root : Node} (h : root.HasMarkup) :
    pageFault? o root = none ↔ Writable o root := by
  rw [pageFault?, Option.or_eq_none_iff, headerFault?_eq_none, treeFault?_eq_none o h]
  exact ⟨fun h => ⟨h.2.1, h.2.2, h.1⟩, fun h => ⟨h.titled, h.addresses, h.slugs⟩⟩

def rendering (place : Place) (root : Node) (s : State) : Except RenderError String :=
  (((renderer o).render place root).run.run s).1

theorem rendering_eq_page (place : Place) (root : Node) (s : State) :
    rendering o place root s = ((page o root).run.run s).1 := by
  obtain ⟨result, t, k, hpage, hrender, _⟩ := run_render o place root s
  rw [rendering, hpage, hrender]

theorem errorOf?_rendering (place : Place) (root : Node) (s : State) :
    errorOf? (rendering o place root s) = pageFault? o root := by
  rw [rendering_eq_page, fails_page]

theorem rendering_ok_iff_of_hasMarkup {root : Node} (h : root.HasMarkup) (place : Place) (s : State) :
    (∃ text, rendering o place root s = .ok text) ↔ Writable o root := by
  rw [← pageFault?_eq_none o h, ← errorOf?_rendering o place root s, errorOf?_eq_none]

theorem rendering_ok_iff {root : Node} (h : root.IsPlain) (place : Place) (s : State) :
    (∃ text, rendering o place root s = .ok text) ↔ Writable o root :=
  rendering_ok_iff_of_hasMarkup o h.hasMarkup place s

theorem splits_rendering (ho : o.highlight = false) {root : Node} (h : root.IsPlain) {place : Place}
    {s : State} {text : String} (htext : rendering o place root s = .ok text) :
    ∃ tokens, Splits tokens text ∧ (tagsOf tokens).map Tag.blank = pageTags o root := by
  rw [rendering_eq_page] at htext
  obtain ⟨markup, rfl, hshows⟩ := ensures_page o ho h s text htext
  obtain ⟨tokens, hsplits, htags⟩ := splits_write hshows.known
  exact ⟨tokens, hsplits, by rw [htags, hshows.shown]⟩

theorem tags_of_splits (ho : o.highlight = false) {root : Node} (h : root.IsPlain) {place : Place}
    {s : State} {text : String} (htext : rendering o place root s = .ok text) {tokens : List Token}
    (hsplits : Splits tokens text) : (tagsOf tokens).map Tag.blank = pageTags o root := by
  obtain ⟨others, hothers, htags⟩ := splits_rendering o ho h htext
  rw [hsplits.unique hothers, htags]

/-- A tree without markup of its own is written unless one of its addresses, or a text that a slug is
made from, cannot be decoded. What is written splits in one way only into known tags and runs
of text, none of which holds a character that begins or ends markup. The tags are balanced, and
trees of one shape have the same tags with the same attributes. -/
theorem rendering_safe (ho : o.highlight = false) {root : Node} (hroot : root.IsPlain)
    (place : Place) (s : State) :
    ((∃ text, rendering o place root s = .ok text) ↔ Writable o root) ∧
    ∀ text, rendering o place root s = .ok text →
      ∃ tokens, Splits tokens text ∧ (∀ others, Splits others text → others = tokens) ∧
        Balanced (tagsOf tokens) ∧
        ∀ (other : Node) (place' : Place) (s' : State) (text' : String) (tokens' : List Token),
          other.IsPlain → other.bare = root.bare → rendering o place' other s' = .ok text' →
          Splits tokens' text' → (tagsOf tokens').map Tag.blank = (tagsOf tokens).map Tag.blank := by
  refine ⟨rendering_ok_iff o hroot place s, fun text htext => ?_⟩
  obtain ⟨tokens, hsplits, htags⟩ := splits_rendering o ho hroot htext
  refine ⟨tokens, hsplits, fun others h => h.unique hsplits, ?_, ?_⟩
  · apply Balanced.of_blank
    rw [htags]
    exact balanced_pageTags o root
  · intro other place' s' text' tokens' hother hbare htext' hsplits'
    rw [tags_of_splits o ho hother htext' hsplits', htags, pageTags_eq_of_bare o hbare]

end

def pageOptions : Options := { completePage := true, css := some "a\"b", autoHeadingIds := true }

def hostile : Node :=
  .branch ⟨1, 1, none, none⟩ .document
    [.branch ⟨1, 1, none, none⟩ (.heading {}) [.leaf ⟨1, 1, none, none⟩ (.text "</h1><script>")],
      .branch ⟨2, 1, none, none⟩ .paragraph
        [.branch ⟨2, 1, none, none⟩ (.link "\"&gt;&#60;" (some "\"<"))
          [.leaf ⟨2, 1, none, none⟩ (.codeSpan "</a>")]]]

theorem rendering_hostile :
    pageOptions.highlight = false ∧ hostile.IsPlain ∧
      ∃ text tokens, rendering pageOptions [] hostile {} = .ok text ∧ Splits tokens text ∧
        Balanced (tagsOf tokens) := by
  have hplain : hostile.IsPlain := by
    simp [hostile, Node.IsPlain, Node.ArePlain, Branch.IsPlain, Leaf.IsPlain]
  obtain ⟨hok, hsafe⟩ := rendering_safe pageOptions rfl hplain [] {}
  have hwritable : Writable pageOptions hostile := by
    refine ⟨?_, ?_, fun _ _ => rfl⟩
    · intro url hurl hlong
      obtain rfl : url = "\"&gt;&#60;" := List.mem_singleton.1 hurl
      exact absurd hlong.length_lt (by decide)
    · intro text htext
      rw [show pageOptions.slugify = slug from rfl, slug_ok_iff]
      intro hlong
      obtain rfl : text = "</h1><script>" := List.mem_singleton.1 htext
      exact absurd hlong.length_lt (by decide)
  obtain ⟨text, htext⟩ := hok.2 hwritable
  obtain ⟨tokens, hsplits, _, hbalanced, _⟩ := hsafe text htext
  exact ⟨rfl, hplain, text, tokens, htext, hsplits, hbalanced⟩

def linkTo (url : String) : Node :=
  .branch ⟨1, 1, none, none⟩ .document
    [.branch ⟨1, 1, none, none⟩ .paragraph
      [.branch ⟨1, 1, none, none⟩ (.link url none) [.leaf ⟨1, 1, none, none⟩ (.text "x")]]]

theorem isPlain_linkTo (url : String) : (linkTo url).IsPlain := by
  simp [linkTo, Node.IsPlain, Node.ArePlain, Branch.IsPlain, Leaf.IsPlain]

def longNumeral : List Char := List.replicate 4299 '0' ++ ['6', '5']

theorem hasLong_longNumeral : HasLong ('&' :: '#' :: longNumeral ++ [';']) := by
  refine ⟨longNumeral, ?_, ?_, [], [';'], ?_⟩
  · rw [longNumeral, List.length_append, List.length_replicate]
    decide
  · rw [longNumeral, List.all_append, List.all_replicate]
    decide
  · rw [List.nil_append]

theorem long_reference_not_rendered :
    (linkTo (String.ofList ('&' :: '#' :: longNumeral ++ [';']))).IsPlain ∧
      ¬∃ text,
        rendering {} [] (linkTo (String.ofList ('&' :: '#' :: longNumeral ++ [';']))) {} = .ok text := by
  refine ⟨isPlain_linkTo _, fun hok => ?_⟩
  have hwritable := (rendering_ok_iff {} (isPlain_linkTo _) [] {}).1 hok
  refine hwritable.addresses _ (List.mem_cons_self ..) ?_
  rw [String.toList_ofList]
  exact hasLong_longNumeral

end Html

end MarkdownOutline
