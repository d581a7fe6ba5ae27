import MarkdownOutline.Proofs.Block.Address
import MarkdownOutline.Proofs.Block.Nesting
import MarkdownOutline.Proofs.Document.Marks
import MarkdownOutline.Proofs.Html.Safety
import MarkdownOutline.Proofs.Outline.Fault

namespace MarkdownOutline

open Text CharRef

def RenderError.IsNumeral : RenderError → Prop
  | numeral _ | slug (.numeral _) => True
  | _ => False

theorem isNumeral_of_encodeUrl {url : String} {e : RenderError} (h : errorOf? (Html.encodeUrl url) = some e) :
    e.IsNumeral := by
  rw [errorOf?_eq_some, Html.encodeUrl] at h
  split at h
  · cases h
  · cases h
    trivial

theorem isNumeral_of_slug {text : String} {e : Slug.SlugError} (h : errorOf? (slug text) = some e) :
    (RenderError.slug e).IsNumeral := by
  rw [errorOf?_eq_some, slug, Slug.ofChars.eq_def] at h
  cases htext : text.toList with
  | nil =>
      rw [htext] at h
      cases h
  | cons c cs =>
      have hseparator : Separator.parse "-".toList = .ok [.text "-".toList] := rfl
      rw [htext] at h
      simp only [hseparator] at h
      cases hdecode : decode (c :: cs) with
      | ok decoded =>
          rw [hdecode] at h
          cases h
      | error cause =>
          rw [hdecode] at h
          cases h
          trivial

namespace Html

section

variable {o : Options}

mutual

theorem isNumeral_of_treeFault? (ho : o.slugify = fun text => slug text) {node : Node}
    (h : node.HasMarkup) {e : RenderError} (he : treeFault? o node = some e) : e.IsNumeral := by
  cases node with
  | leaf loc content =>
      cases content with
      | codeBlock code info fenced =>
          have hnone : treeFault? o (.leaf loc (.codeBlock code info fenced)) = none := language?_of_hasMarkup h
          rw [hnone] at he
          cases he
      | image url alt title => exact isNumeral_of_encodeUrl he
      | other kind => exact h.elim
      | _ => cases he
  | branch loc shape children =>
      rcases Option.or_eq_some_iff.1 he with he | ⟨_, he⟩
      · cases shape with
        | heading heading =>
            simp only [branchFault?] at he
            split at he
            · obtain ⟨cause, hcause, rfl⟩ := Option.map_eq_some_iff.1 he
              rw [ho] at hcause
              exact isNumeral_of_slug hcause
            · cases he
        | link url title => exact isNumeral_of_encodeUrl he
        | other kind => exact h.1.elim
        | _ => cases he
      · exact isNumeral_of_treesFault? ho h.2 he

theorem isNumeral_of_treesFault? (ho : o.slugify = fun text => slug text) {nodes : List Node}
    (h : Node.HaveMarkup nodes) {e : RenderError} (he : treesFault? o nodes = some e) : e.IsNumeral := by
  cases nodes with
  | nil => cases he
  | cons child rest =>
      rcases Option.or_eq_some_iff.1 he with he | ⟨_, he⟩
      · exact isNumeral_of_treeFault? ho h.1 he
      · exact isNumeral_of_treesFault? ho h.2 he

end

mutual

theorem slugged_of_isInline {node : Node} (h : node.IsInline) : slugged o node = [] := by
  cases node with
  | leaf loc content => rfl
  | branch loc shape children =>
      rw [slugged, sluggedAll_of_areInline h.2, List.append_nil]
      cases shape with
      | heading heading => exact h.1.elim
      | _ => rfl

theorem sluggedAll_of_areInline {nodes : List Node} (h : Node.AreInline nodes) : sluggedAll o nodes = [] := by
  cases nodes with
  | nil => rfl
  | cons child rest => rw [sluggedAll, slugged_of_isInline h.1, sluggedAll_of_areInline h.2]; rfl

end

theorem rendering_of_isRead (ho : o.slugify = fun text => slug text) {doc : Node} (h : doc.IsRead)
    (hbranch : doc.isBranch = true) (place : Place) (s : State) :
    ((∃ text, rendering o place doc s = .ok text) ↔
      (∀ url ∈ doc.addresses, ¬HasLong url.toList) ∧ ∀ text ∈ slugged o doc, ¬HasLong text.toList) ∧
    ∀ e, rendering o place doc s = .error e → e.IsNumeral := by
  have hslug (text : String) : (∃ result, o.slugify text = .ok result) ↔ ¬HasLong text.toList := by
    rw [ho]
    exact slug_ok_iff text
  have hheader : headerFault? o doc = none := (headerFault?_eq_none o doc).2 fun _ _ => hbranch
  constructor
  · rw [rendering_ok_iff_of_hasMarkup o h.hasMarkup place s]
    constructor
    · exact fun hw => ⟨hw.addresses, fun text htext => (hslug text).1 (hw.slugs text htext)⟩
    · exact fun hw => ⟨hw.1, fun text htext => (hslug text).2 (hw.2 text htext), fun _ _ => hbranch⟩
  · intro e he
    have hfault : pageFault? o doc = some e := by rw [← errorOf?_rendering o place doc s, he]; rfl
    rw [pageFault?, hheader, Option.none_or] at hfault
    exact isNumeral_of_treeFault? ho h.hasMarkup hfault

end

end Html

namespace Outline

def outlining (o : Html.Options) (place : Place) (doc : Node) (s : Html.State) :
    Except OutlineError String := ((render (Html.renderer o) place doc).run s).1.1

theorem inlayFault?_eq_none (o : Html.Options) {p : Placed} (hp : p.Plain) :
    inlayFault? o p = none ↔ ∀ url ∈ Node.addressesAll p.children, ¬HasLong url.toList := by
  rw [inlayFault?, Html.treesFault?_eq_none o hp.inline.areRead.haveMarkup,
    Html.sluggedAll_of_areInline hp.inline]
  simp

theorem outlining_of_isRead {o : Html.Options} (ho : o.slugify = fun text => slug text) {doc : Node}
    (h : doc.IsRead) (place : Place) (s : Html.State) :
    ((∃ text, outlining o place doc s = .ok text) ↔
      ∀ p ∈ doc.listed place, ∀ url ∈ Node.addressesAll p.children, ¬HasLong url.toList) ∧
    ∀ e, outlining o place doc s = .error e → ∃ cause, e = .render cause ∧ cause.IsNumeral := by
  have hplain := h.plain place
  have hlisted : ∀ p ∈ doc.listed place, p.Plain := fun p hp => hplain p (List.mem_filter.1 hp).1
  have hfault := errorOf?_outline (o := o) hplain s
  constructor
  · rw [outlining, ← errorOf?_eq_none, hfault, Option.map_eq_none_iff, List.findSome?_eq_none_iff]
    exact forall₂_congr fun p hp => inlayFault?_eq_none o (hlisted p hp)
  · intro e he
    have hsome : errorOf? (outlining o place doc s) = some e := by rw [he]; rfl
    rw [outlining, hfault] at hsome
    obtain ⟨cause, hcause, rfl⟩ := Option.map_eq_some_iff.1 hsome
    obtain ⟨p, hp, hpfault⟩ := List.exists_of_findSome?_eq_some hcause
    have hmarkup := (hlisted p hp).inline.areRead.haveMarkup
    exact ⟨cause, rfl, Html.isNumeral_of_treesFault? ho hmarkup hpfault⟩

theorem Marks.isBranch {root doc : Node} (h : Marks root doc) (hroot : root.isBranch = true) :
    doc.isBranch = true := by
  induction h with
  | refl => exact hroot
  | @assign doc anchors place _ ih =>
      cases doc with
      | leaf loc content => exact ih
      | branch loc shape children => cases shape <;> rfl

end Outline

/-- Reading fails at a container that lies too deep and for no other reason, and then with the line of
the first such container. What was read, with or without the anchors of outlines, is rendered and
outlined unless a number in it has too many digits. In no text is a bond left that is not open
or a missing neighbour asked about. -/
theorem failures (settings : Settings) (file : Option String) (source : String) :
    (∃ blocks,
      (∀ room, Block.charCount (Block.sourceLines source) < room →
        Block.readNested settings file true room 1 (Block.sourceLines source) = .ok blocks) ∧
      parse settings file source =
        match Node.overflowAll? Block.maxNesting blocks with
        | none => .ok (Block.documentOf file source blocks)
        | some line => .error (Block.tooDeep file line)) ∧
    (∀ root doc, parse settings file source = .ok root → Outline.Marks root doc →
      ∀ (o : Html.Options) (place : Place) (s : Html.State), o.slugify = (fun text => slug text) →
        ((∃ text, Html.rendering o place doc s = .ok text) ↔
          (∀ url ∈ doc.addresses, ¬HasLong url.toList) ∧
            ∀ text ∈ Html.slugged o doc, ¬HasLong text.toList) ∧
        (∀ e, Html.rendering o place doc s = .error e → e.IsNumeral) ∧
        ((∃ text, Outline.outlining o place doc s = .ok text) ↔
          ∀ p ∈ doc.listed place, ∀ url ∈ Node.addressesAll p.children, ¬HasLong url.toList) ∧
        ∀ e, Outline.outlining o place doc s = .error e → ∃ cause, e = .render cause ∧ cause.IsNumeral) ∧
    (∀ (ctx : Inline.Context) (loc : Location) (cs : List Char),
      Inline.assemble? loc (Inline.scan ctx cs) = some (Inline.assemble loc (Inline.scan ctx cs))) ∧
    ∀ (mark : Char) (length : Nat) (before after : Option Char),
      Inline.Run.between? mark length before after = some (Inline.Run.between mark length before after) := by
  obtain ⟨blocks, hroom, hparse⟩ := Block.exists_parse_eq settings file source
  refine ⟨⟨blocks, hroom, hparse⟩, ?_, Inline.assemble?_scan, Inline.between?_eq_some⟩
  intro root doc hroot hmarks o place s ho
  have hread : doc.IsRead := hmarks.isRead (isRead_of_parse hroot)
  have hbranch : doc.isBranch = true := hmarks.isBranch (isBranch_of_parse hroot)
  obtain ⟨hrenders, hrenderFails⟩ := Html.rendering_of_isRead ho hread hbranch place s
  obtain ⟨houtlines, houtlineFails⟩ := Outline.outlining_of_isRead ho hread place s
  exact ⟨hrenders, hrenderFails, houtlines, houtlineFails⟩

example : errorOf? (parse {} none (String.ofList ("a\n\n".toList ++ List.replicate 65 '>'))) =
    some (Block.tooDeep none 3) := by decide +kernel

def knottedSource : String := "# [a](b)\n\n> - c\n>\n>   ~~~  \n>   d"

def knotted : Node :=
  .branch ⟨1, 1, some 6, none⟩ .document
    [.branch ⟨1, 1, none, none⟩ (.heading {})
        [.branch ⟨1, 1, none, none⟩ (.link "b" none) [.leaf ⟨1, 1, none, none⟩ (.text "a")]],
      .branch ⟨3, 1, some 6, none⟩ .blockQuote
        [.branch ⟨3, 1, some 6, none⟩ (.list false 1 false)
          [.branch ⟨3, 1, some 6, none⟩ .listItem
            [.branch ⟨3, 1, some 3, none⟩ .paragraph [.leaf ⟨3, 1, some 3, none⟩ (.text "c")],
              .leaf ⟨5, 1, some 6, none⟩ (.codeBlock "d\n" none true)]]]]

def sluggedOptions : Html.Options := { autoHeadingIds := true }

theorem knotted_written :
    parse {} none knottedSource = .ok knotted ∧
      (∃ text, Html.rendering sluggedOptions [] knotted {} = .ok text) ∧
      ∃ text, Outline.outlining sluggedOptions [] (Outline.assign [([0], "a")] [] knotted) {} = .ok text := by
  have hparse : parse {} none knottedSource = .ok knotted := ok_of_toOption (by decide +kernel)
  have hshort (text : String) (h : text.toList.length ≤ maxDigits) : ¬HasLong text.toList :=
    fun hlong => absurd hlong.length_lt (Nat.not_lt.2 h)
  obtain ⟨_, hwritten, _⟩ := failures {} none knottedSource
  have hread := hwritten knotted knotted hparse .refl sluggedOptions [] {} rfl
  have hmarked := hwritten knotted _ hparse (.assign [([0], "a")] [] .refl) sluggedOptions [] {} rfl
  refine ⟨hparse, hread.1.2 ⟨?_, ?_⟩, hmarked.2.2.1.2 ?_⟩
  · intro url hurl
    obtain rfl : url = "b" := List.mem_singleton.1 hurl
    exact hshort "b" (by decide)
  · intro text htext
    obtain rfl : text = "a" := List.mem_singleton.1 htext
    exact hshort "a" (by decide)
  · intro p hp url hurl
    have hlisted : (Outline.assign [([0], "a")] [] knotted).listed [] =
        [⟨[0], ⟨1, 1, none, none⟩, { id := some "a" },
          [.branch ⟨1, 1, none, none⟩ (.link "b" none) [.leaf ⟨1, 1, none, none⟩ (.text "a")]]⟩] := rfl
    rw [hlisted] at hp
    cases List.mem_singleton.1 hp
    obtain rfl : url = "b" := List.mem_singleton.1 hurl
    exact hshort "b" (by decide)

def longAddress : List Char := '&' :: '#' :: Html.longNumeral ++ [';']

theorem isAddress_longAddress : IsAddress longAddress := by
  intro c hc
  simp only [longAddress, Html.longNumeral, List.mem_cons, List.mem_append, List.mem_replicate,
    List.not_mem_nil, or_false] at hc
  rcases hc with ((rfl | rfl | ⟨_, rfl⟩ | rfl | rfl) | rfl)
  all_goals exact ⟨rfl, by decide⟩

theorem not_rendering_longAddress (o : Html.Options) (place : Place) (s : Html.State) :
    ¬∃ text, Html.rendering o place (linkDocument none longAddress) s = .ok text := by
  intro hok
  have hread := isRead_of_parse (parse_link isAddress_longAddress {} none)
  have hwritable := (Html.rendering_ok_iff_of_hasMarkup o hread.hasMarkup place s).1 hok
  refine hwritable.addresses _ (List.mem_cons_self ..) ?_
  rw [String.toList_ofList]
  exact Html.hasLong_longNumeral

/-- The address of a link may hold the number of a letter behind thousands of zeros. -/
theorem long_reference_read_not_rendered :
    parse {} none (String.ofList (Inline.linkText ('&' :: '#' :: Html.longNumeral ++ [';']))) =
        .ok (linkDocument none ('&' :: '#' :: Html.longNumeral ++ [';'])) ∧
      ¬∃ text, Html.rendering {} []
        (linkDocument none ('&' :: '#' :: Html.longNumeral ++ [';'])) {} = .ok text :=
  ⟨parse_link isAddress_longAddress {} none, not_rendering_longAddress {} [] {}⟩

end MarkdownOutline
