import MarkdownOutline.Proofs.Html.Fresh
import MarkdownOutline.Proofs.Html.Safety
import MarkdownOutline.Proofs.Html.Visit
import MarkdownOutline.Proofs.Outline.Written

namespace MarkdownOutline.Html

open Markup

section

variable (o : Options)

inductive IsBase (text : String) : String → Prop
  | slug {slug : String} (h : o.slugify text = .ok slug) (hne : slug ≠ "") : IsBase text slug
  | empty (h : o.slugify text = .ok "") : IsBase text "section"

theorem IsBase.ne_empty {o : Options} {text base : String} (h : IsBase o text base) : base ≠ "" := by
  cases h with
  | slug _ hne => exact hne
  | empty _ => decide

def anchoredTag (h : Heading) (anchor : String) : String := (start (headingTag h) [⟨"id", anchor⟩]).write

theorem run_uniqueSlug_ok {text fresh : String} {s t : State}
    (h : (uniqueSlug o text).run.run s = (.ok fresh, t)) :
    ∃ base, IsBase o text base ∧ fresh = freshSlug s.slugs base ∧ t = { s with slugs := s.slugs.insert fresh } := by
  rw [run_uniqueSlug] at h
  cases hslug : o.slugify text with
  | error e =>
      rw [hslug] at h
      cases h
  | ok slug =>
      rw [hslug] at h
      cases h
      by_cases hempty : slug = ""
      · subst hempty
        exact ⟨"section", .empty hslug, rfl, rfl⟩
      · have hnot : ¬slug.isEmpty = true := by simpa using hempty
        rw [if_neg hnot]
        exact ⟨slug, .slug hslug hempty, rfl, rfl⟩

variable {o : Options}

theorem optional_of_ne_empty (name : String) {value : String} (h : value ≠ "") :
    optional name (some value) = [⟨name, value⟩] := by
  simp [optional]

theorem freshSlug_ne_empty (used : Std.HashSet String) {base : String} (h : base ≠ "") :
    freshSlug used base ≠ "" := numbered_ne_empty h _

theorem run_visitIn_asked {v : Visit} {p : Placed} (hv : asked? o v = some p) {c : List Opened} {s t : State}
    {markup : List Markup} (h : (visitIn o c v).run.run s = (.ok markup, t)) :
    ∃ base, IsBase o (plainTexts p.children) base ∧
      write markup = anchoredTag p.heading (freshSlug s.slugs base) ∧
      t = { s with slugs := s.slugs.insert (freshSlug s.slugs base) } := by
  rw [visitIn_asked o hv] at h
  obtain ⟨fresh, u, hslug, h⟩ := exists_of_run_bind_eq_ok h
  obtain ⟨base, hbase, rfl, rfl⟩ := run_uniqueSlug_ok o hslug
  cases h
  refine ⟨base, hbase, ?_, rfl⟩
  rw [optional_of_ne_empty "id" (freshSlug_ne_empty s.slugs hbase.ne_empty)]
  simp [write, anchoredTag]

theorem exists_getElem?_of_forall₂ {α β : Type} {R : α → β → Prop} {l : List α} {l' : List β}
    (h : List.Forall₂ R l l') {i : Nat} {a : α} (ha : l[i]? = some a) : ∃ b, l'[i]? = some b ∧ R a b := by
  obtain ⟨hi, rfl⟩ := List.getElem?_eq_some_iff.1 ha
  have hi' : i < l'.length := h.length_eq ▸ hi
  exact ⟨l'[i], List.getElem?_eq_getElem hi', h.get hi hi'⟩

def askedParts (o : Options) (body : List (Visit × String)) : List (Placed × String) :=
  body.filterMap fun part => (asked? o part.1).map fun p => (p, part.2)

theorem run_records {visits : List Visit} {body : List (Visit × String)} {s t : State}
    (h : (visits.mapM (Outline.record o)).run.run s = (.ok body, t)) :
    ∃ bases, List.Forall₂ (fun p base => IsBase o (plainTexts p.children) base) (visits.filterMap (asked? o)) bases ∧
      askedParts o body = List.zipWith (fun p slug => (p, anchoredTag p.heading slug))
        (visits.filterMap (asked? o)) (handOut s.slugs bases) := by
  induction visits generalizing s body with
  | nil =>
      cases h
      exact ⟨[], .nil, rfl⟩
  | cons v visits ih =>
      obtain ⟨markup, u', more, hmarkup, hmore, rfl⟩ := Outline.exists_of_run_record_cons h
      obtain ⟨bases, hbases, hparts⟩ := ih hmore
      obtain ⟨c, t', _, hwritten, rfl⟩ := (run_visit_ok_iff o).1 hmarkup
      have hparts : askedParts o more = List.zipWith (fun p slug => (p, anchoredTag p.heading slug))
          (visits.filterMap (asked? o)) (handOut t'.slugs bases) := hparts
      cases hv : asked? o v with
      | none =>
          have hslugs : t'.slugs = s.slugs := by
            have hkept := (detached_visitIn o hv c s s rfl).2.2
            rwa [hwritten] at hkept
          rw [hslugs] at hparts
          refine ⟨bases, ?_, ?_⟩
          · rwa [List.filterMap_cons_none hv]
          · rw [List.filterMap_cons_none hv, ← hparts, askedParts, List.filterMap_cons_none (by rw [hv]; rfl)]
            rfl
      | some p =>
          obtain ⟨base, hbase, htag, rfl⟩ := run_visitIn_asked hv hwritten
          refine ⟨base :: bases, ?_, ?_⟩
          · rw [List.filterMap_cons_some hv]
            exact .cons hbase hbases
          · rw [List.filterMap_cons_some hv, handOut, List.zipWith_cons_cons, ← hparts, askedParts,
              List.filterMap_cons_some (by rw [hv]; rfl), htag]
            rfl

theorem run_header_slugs (o : Options) (root : Node) (s : State) : ((header o root).run.run s).2.slugs = {} := by
  rw [header, run_bind, run_modify]
  cases o.completePage with
  | false => rfl
  | true =>
      simp only [if_true]
      cases o.title with
      | some title => rfl
      | none =>
          simp only [run_bind, run_lift]
          cases titleText root <;> rfl

theorem exists_parts {root : Node} (h : pageFault? o root = none) (place : Place) (s : State) :
    ∃ parts u, ((renderer o).parts place root).run.run s = (.ok parts, u) := by
  have hok : errorOf? (rendering o place root s) = none := (errorOf?_rendering o place root s).trans h
  obtain ⟨text, htext⟩ := errorOf?_eq_none.1 hok
  rw [rendering, Renderer.render_eq_parts, map_eq_pure_bind, run_bind] at htext
  rcases hrun : ((renderer o).parts place root).run.run s with ⟨e | parts, u⟩
  · rw [hrun] at htext
    cases htext
  · exact ⟨parts, u, rfl⟩

/-- Behind the header, which forgets all slugs, any visits that succeed hand out slugs that are all different, and
none is empty. The search for each of them ends, and it finds the base itself or else the base with the smallest
number that makes it differ from all slugs before it. -/
theorem slugs_handed_out {root : Node} {s t u : State} {front : List Markup} {visits : List Visit}
    {body : List (Visit × String)} (hheader : (header o root).run.run s = (.ok front, t))
    (hbody : (visits.mapM (Outline.record o)).run.run t = (.ok body, u)) :
    ∃ slugs : List String,
      askedParts o body = List.zipWith (fun p slug => (p, anchoredTag p.heading slug))
        (visits.filterMap (asked? o)) slugs ∧
      slugs.length = (visits.filterMap (asked? o)).length ∧ slugs.Nodup ∧ (∀ slug ∈ slugs, slug ≠ "") ∧
      ∀ (i : Nat) (p : Placed) (slug : String), (visits.filterMap (asked? o))[i]? = some p → slugs[i]? = some slug →
        ∃ base, IsBase o (plainTexts p.children) base ∧
          (∀ found, Search (· ∈ slugs.take i) base base 1 found ↔ found = slug) ∧
          IsFresh (· ∈ slugs.take i) base slug := by
  have hslugs : t.slugs = {} := by
    have h := run_header_slugs o root s
    rwa [hheader] at h
  obtain ⟨bases, hbases, hparts⟩ := run_records hbody
  rw [hslugs] at hparts
  refine ⟨handOut {} bases, hparts, ?_, nodup_handOut {} bases, ?_, ?_⟩
  · rw [length_handOut, hbases.length_eq]
  · intro slug hslug
    obtain ⟨base, hbase, n, rfl⟩ := exists_base_of_mem_handOut hslug
    obtain ⟨i, hi⟩ := List.mem_iff_getElem?.1 hbase
    obtain ⟨p, _, hp⟩ := exists_getElem?_of_forall₂ hbases.flip hi
    exact numbered_ne_empty (IsBase.ne_empty hp) n
  · intro i p slug hp hslug
    obtain ⟨base, hbase, hp⟩ := exists_getElem?_of_forall₂ hbases hp
    obtain ⟨n, rfl, hn⟩ := firstFrom_of_handOut hbase hslug
    have hused : (fun other => other ∈ ({} : Std.HashSet String) ∨ other ∈ (handOut {} bases).take i) =
        (· ∈ (handOut {} bases).take i) := by
      funext other
      exact propext (or_iff_right Std.HashSet.not_mem_empty)
    rw [hused] at hn
    exact ⟨base, hp, fun found => search_iff_of_firstFrom hn, hn.isFresh⟩

end

def textHeading (line : Nat) (h : Heading) (text : String) : Node :=
  .branch ⟨line, 1, none, none⟩ (.heading h) [.leaf ⟨line, 1, none, none⟩ (.text text)]

/-- The second heading has the slug that the third would get first. -/
def repeatedHeadings : Node :=
  .branch ⟨1, 1, none, none⟩ .document [textHeading 1 {} "a", textHeading 2 {} "a-1", textHeading 3 {} "a"]

def plainSlugs : Options := { autoHeadingIds := true, slugify := .ok }

theorem IsBase.eq_of_plainSlugs {text base : String} (hne : text ≠ "") (h : IsBase plainSlugs text base) :
    base = text := by
  cases h with
  | slug h _ => exact (Except.ok.inj h).symm
  | empty h => exact absurd (Except.ok.inj h) hne

theorem repeatedHeadings_slugs : ∃ front t body u,
    (header plainSlugs repeatedHeadings).run.run {} = (.ok front, t) ∧
    ((repeatedHeadings.visits []).mapM (Outline.record plainSlugs)).run.run t = (.ok body, u) ∧
    ∃ slugs : List String,
      askedParts plainSlugs body = List.zipWith (fun p slug => (p, anchoredTag p.heading slug))
        ((repeatedHeadings.visits []).filterMap (asked? plainSlugs)) slugs ∧
      slugs.length = 3 ∧ slugs.Nodup ∧ (∀ slug ∈ slugs, slug ≠ "") ∧
      ∀ slug, slugs[2]? = some slug → IsFresh (· ∈ slugs.take 2) "a" slug := by
  obtain ⟨parts, _, h⟩ := @exists_parts plainSlugs repeatedHeadings rfl [] {}
  obtain ⟨front, t, u, hheader, hbody⟩ := Outline.run_header_of_parts h
  obtain ⟨slugs, hparts, hlength, hnodup, hne, hfresh⟩ := slugs_handed_out hheader hbody
  refine ⟨front, t, parts.body, u, hheader, hbody, slugs, hparts, hlength, hnodup, hne, fun slug hslug => ?_⟩
  obtain ⟨base, hbase, _, hslug⟩ := hfresh 2 _ slug rfl hslug
  obtain rfl : base = "a" := IsBase.eq_of_plainSlugs (by decide) hbase
  exact hslug

end MarkdownOutline.Html
