import MarkdownOutline.Proofs.Block.Apart

namespace MarkdownOutline

namespace Block

/-- A gap between two items, or between two blocks of an item. -/
def HasRealGap (p : Passage) (items : List Node) : Prop :=
  (∃ item ∈ items.tail, p.IsBlankAt (item.loc.line - 1)) ∨
    ∃ item ∈ items, ∃ child ∈ item.children.tail, p.IsBlankAt (child.loc.line - 1)

instance (p : Passage) (items : List Node) : Decidable (HasRealGap p items) :=
  inferInstanceAs (Decidable (_ ∨ _))

/-- What is taken for a gap of a list. -/
inductive LooksLoose (p : Passage) (loc : Location) (items : List Node) : Prop
  /-- The next marker is right behind a bare one. -/
  | bare {item} : item ∈ items → item.children = [] → p.bullet? (item.loc.line + 1) = p.bullet? loc.line →
      LooksLoose p loc items
  /-- Behind the list and a blank line is a rule that looks like a marker. -/
  | rule {l} : p.IsBlankAt loc.last → p.lineAt? (loc.last + 1) = some l → isThematic l = true →
      p.bullet? (loc.last + 1) = p.bullet? loc.line → LooksLoose p loc items
  /-- The first block of an item is behind a bare marker and a blank line. -/
  | child {item child} : item ∈ items → item.children.head? = some child → item.loc.line + 1 < child.loc.line →
      (p.inside item).LooksParted child.loc.line → LooksLoose p loc items
  /-- A blank line is in fenced code. -/
  | code {item codeLoc code info n} : item ∈ items → .leaf codeLoc (.codeBlock code info true) ∈ item.children →
      codeLoc.line < n → n ≤ codeLoc.last → p.IsBlankAt (n - 1) → (p.inside item).LooksParted n →
      LooksLoose p loc items

structure IsReadAsList (settings : Settings) (file : Option String) (p : Passage) (loc : Location) (tight : Bool)
    (items : List Node) : Prop where
  list : ∃ room bullet taken, p.bullet? loc.line = some bullet ∧
    readItems (contextWithin settings file room) bullet loc.line (p.since loc.line) = .ok taken ∧
      taken.nodes = items ∧ tight = !taken.loose ∧ 0 < taken.lines ∧ loc.last + 1 = loc.line + taken.lines
  inside : ∀ item ∈ items, ∃ itemLoc children room, item = .branch itemLoc .listItem children ∧
    readBlocks (contextWithin settings file room) itemLoc.line (p.inside item).lines = .ok children

section

variable {settings : Settings} {file : Option String}

theorem isReadAsList_of_parse {source : String} {root : Node} {path : List Nat} {loc : Location}
    {ordered tight : Bool} {start : Int} {items : List Node} (h : parse settings file source = .ok root)
    (hlist : root.descendant? path = some (.branch loc (.list ordered start tight) items)) :
    IsReadAsList settings file (passageAt source root path) loc tight items := by
  have hread := parse_isReadIn h path _ hlist
  have htitle : ¬(Node.branch loc (.list ordered start tight) items).IsTitle := by
    rintro ⟨heading, hheading, _⟩
    cases hheading
  obtain ⟨room, _, first, rest, more, hsince, _, hblock⟩ := hread.block rfl htitle
  obtain ⟨m, taken, hmarker, hitems, rfl, htight, hlines⟩ := readsList_of_readBlock hblock
  change (passageAt source root path).since loc.line = first :: rest at hsince
  refine ⟨⟨room, m.bullet, taken, ?_, ?_, rfl, htight, hlines⟩, ?_⟩
  · rw [Passage.bullet?, Passage.lineAt?_of_since hsince, Option.bind_some, hmarker, Option.map_some]
  · rw [hsince]
    exact hitems
  · intro item hitem
    obtain ⟨front, back, hnodes⟩ := List.append_of_mem hitem
    obtain ⟨itemLoc, children, _, _, _, rfl, _⟩ := (readsItem_of_readItems hitems hsince hnodes).read
    obtain ⟨i, hi, halong⟩ := Node.exists_descendant?_child (p := sourcePassage source) hlist hitem
    have hread := parse_isReadIn h _ _ hi
    rw [halong] at hread
    obtain ⟨room, _, hblocks⟩ := hread.inside itemLoc .listItem children rfl rfl
    exact ⟨itemLoc, children, room, rfl, hblocks⟩

variable {p : Passage} {loc : Location} {tight : Bool} {items : List Node}
  (h : IsReadAsList settings file p loc tight items)
include h

theorem IsReadAsList.hasGap {item : Node} (hitem : item ∈ items) (hgap : hasGap (p.inside item).lines = true) :
    tight = false := by
  obtain ⟨room, bullet, taken, _, hitems, rfl, rfl, _⟩ := h.list
  obtain ⟨front, back, hnodes⟩ := List.append_of_mem hitem
  rw [Bool.not_eq_false', loose_readItems (lays_readWithin settings file room) hitems rfl]
  exact ⟨front, item, back, hnodes, .inl hgap⟩

theorem IsReadAsList.of_hasGap {item : Node} (hitem : item ∈ items)
    (hgap : Block.hasGap (p.inside item).lines = true) : HasRealGap p items ∨ LooksLoose p loc items := by
  obtain ⟨itemLoc, children, room, rfl, hblocks⟩ := h.inside item hitem
  obtain ⟨n, hn, hblank, hparted⟩ := Passage.hasGap_iff.1 hgap
  change itemLoc.line + 1 < n at hn
  have hout : p.IsBlankAt (n - 1) := hblank.of_inside (by omega)
  obtain ⟨l, hl, hapart⟩ := hparted.apart
  obtain ⟨node, hnode, hplace⟩ := exists_block_of_isApart (lays_readWithin settings file room) hblocks
    (Passage.since_line (p.inside (.branch itemLoc .listItem children))) (Int.le_refl _) (by omega) hl hapart
    (.inr hblank)
  rcases hplace with rfl | ⟨⟨codeLoc, code, info, rfl⟩, hlt, hle⟩
  · cases children with
    | nil => cases hnode
    | cons first others =>
        rcases List.mem_cons.1 hnode with rfl | hnode
        · exact .inr (.child hitem rfl hn hparted)
        · exact .inl (.inr ⟨_, hitem, node, hnode, hout⟩)
  · exact .inr (.code hitem hnode hlt hle hout hparted)

omit h in
theorem of_setsApart {bullet : Bullet} (hbullet : p.bullet? loc.line = some bullet)
    (hrule : ∀ l, p.lineAt? (loc.last + 1) = some l → sibling? bullet l = none) {front back : List Node}
    {item : Node} (hitems : items = front ++ item :: back)
    (hapart : p.SetsApart bullet item (nextLine (loc.last + 1) back)) :
    HasRealGap p items ∨ LooksLoose p loc items := by
  rcases hapart.gap with hblank | ⟨hnone, hstop⟩
  · cases back with
    | cons next back =>
        refine .inl (.inl ⟨next, ?_, hblank⟩)
        rw [hitems]
        cases front <;> simp
    | nil =>
        change p.IsBlankAt (loc.last + 1 - 1) at hblank
        rw [Int.add_sub_cancel] at hblank
        have hnext : p.bullet? (loc.last + 1) = some bullet := hapart.bullet
        obtain ⟨l, m, hl, hmarker, hm⟩ := Passage.bullet?_eq_some_iff.1 hnext
        have hthematic : isThematic l = true := by
          cases hthematic : isThematic l with
          | true => rfl
          | false =>
              have hnone := hrule l hl
              rw [sibling?_eq_some_iff.2 ⟨hmarker, hm, hthematic⟩] at hnone
              cases hnone
        exact .inr (.rule hblank hl hthematic (hnext.trans hbullet.symm))
  · refine .inr (.bare ?_ hnone ?_)
    · rw [hitems]
      simp
    · rw [← hstop, hapart.bullet, hbullet]

theorem IsReadAsList.of_loose (hloose : tight = false) : HasRealGap p items ∨ LooksLoose p loc items := by
  obtain ⟨room, bullet, taken, hbullet, hitems, rfl, rfl, _, hlast⟩ := h.list
  rw [Bool.not_eq_false', loose_readItems (lays_readWithin settings file room) hitems rfl] at hloose
  obtain ⟨front, item, back, hnodes, hgap | hapart⟩ := hloose
  · refine h.of_hasGap ?_ hgap
    rw [hnodes]
    simp
  · rw [← hlast] at hapart
    refine of_setsApart hbullet ?_ hnodes hapart
    intro l hl
    rw [hlast] at hl
    obtain ⟨first, _, hfirst, _⟩ := Passage.bullet?_eq_some_iff.1 hbullet
    exact stop_of_readItems hitems rfl (Passage.line_le_of_lineAt? hfirst) hl

theorem IsReadAsList.isBlankAt_above {item child : Node} (hitem : item ∈ items)
    (hchild : item.children.head? = some child) (hbelow : item.loc.line < child.loc.line) :
    (p.inside item).IsBlankAt (child.loc.line - 1) := by
  obtain ⟨itemLoc, children, room, rfl, hblocks⟩ := h.inside item hitem
  obtain ⟨others, hothers⟩ := List.head?_eq_some_iff.1 hchild
  change children = child :: others at hothers
  rw [hothers] at hblocks
  have hsince := Passage.since_line (p.inside (.branch itemLoc .listItem children))
  obtain ⟨n, first, rest, more, _, _, _, hread, habove⟩ := head_readBlocks hblocks hsince
  have hline : child.loc.line = n := (spans_readBlock (lays_readWithin settings file room) hread).first
  rw [hline]
  refine habove.resolve_left fun hn => ?_
  change itemLoc.line < child.loc.line at hbelow
  omega

theorem IsReadAsList.isBlankAt_inside {item child : Node} {n : Int} {l : Line} (hitem : item ∈ items)
    (hchild : child ∈ item.children) (hn : child.loc.line < n) (hl : (p.inside item).lineAt? n = some l)
    (hblank : p.IsBlankAt (n - 1)) : item.loc.line + 1 < n ∧ (p.inside item).IsBlankAt (n - 1) := by
  obtain ⟨itemLoc, children, room, rfl, hblocks⟩ := h.inside item hitem
  have hbounds := (lays_readBlocks (lays_readWithin settings file room) hblocks).stacked.bounds child hchild
  have hfirst : itemLoc.line ≤ child.loc.line := hbounds.1
  obtain ⟨first, rest, m, hp, hmarker⟩ := Passage.exists_marker?_of_inside hl
  have hne := Passage.ne_of_isBlankAt hp (isBlankLine_of_marker? hmarker) hblank
  obtain ⟨above, habove⟩ := Passage.exists_lineAt?_pred hl (show itemLoc.line < n by omega)
  refine ⟨?_, (Passage.isBlankAt_inside_iff (by omega) habove).2 hblank⟩
  change itemLoc.line + 1 < n
  omega

theorem IsReadAsList.of_looksLoose (hloose : LooksLoose p loc items) : tight = false := by
  obtain ⟨room, bullet, taken, hbullet, hitems, rfl, htight, hpos, hlast⟩ := h.list
  have hinner := lays_readWithin settings file room
  have hsetsApart {front back : List Node} {item : Node} (hnodes : taken.nodes = front ++ item :: back)
      (hapart : p.SetsApart bullet item (nextLine (loc.line + taken.lines) back)) : tight = false := by
    rw [htight, Bool.not_eq_false', loose_readItems hinner hitems rfl]
    exact ⟨front, item, back, hnodes, .inr hapart⟩
  cases hloose with
  | bare hitem hnone hnext =>
      obtain ⟨front, back, hnodes⟩ := List.append_of_mem hitem
      rw [hbullet] at hnext
      have hstop := stop_of_bare hinner (readsItem_of_readItems hitems rfl hnodes) hnone hnext
      exact hsetsApart hnodes ⟨by rw [hstop, hnext], .inr ⟨hnone, hstop⟩⟩
  | rule hblank hl hthematic hnext =>
      have hne : taken.nodes ≠ [] := by
        intro hnil
        have hstart := nextLine_of_readItems hitems
        rw [hnil, nextLine] at hstart
        omega
      obtain ⟨front, item, hnodes⟩ := (List.eq_nil_or_concat taken.nodes).resolve_left hne
      rw [List.concat_eq_append] at hnodes
      refine hsetsApart hnodes ⟨?_, .inl ?_⟩
      · rw [nextLine, ← hlast, hnext, hbullet]
      · rw [nextLine, ← hlast, Int.add_sub_cancel]
        exact hblank
  | @child item _ hitem hchild hbelow hparted =>
      have habove := h.isBlankAt_above hitem hchild (by omega)
      obtain ⟨itemLoc, children, _, rfl, _⟩ := h.inside item hitem
      exact h.hasGap hitem (Passage.hasGap_iff.2 ⟨_, hbelow, habove, hparted⟩)
  | @code item _ _ _ _ hitem hcode hlt hle hblank hparted =>
      obtain ⟨l, hl, _⟩ := hparted.apart
      obtain ⟨hbelow, habove⟩ := h.isBlankAt_inside hitem hcode hlt hl hblank
      obtain ⟨itemLoc, children, _, rfl, _⟩ := h.inside item hitem
      exact h.hasGap hitem (Passage.hasGap_iff.2 ⟨_, hbelow, habove, hparted⟩)

theorem IsReadAsList.bounds {item : Node} (hitem : item ∈ items) : loc.line ≤ item.loc.line ∧
    item.loc.line ≤ loc.last ∧ ∀ child ∈ item.children, item.loc.line ≤ child.loc.line ∧
      child.loc.line ≤ loc.last ∧ child.loc.last ≤ loc.last := by
  obtain ⟨room, bullet, taken, _, hitems, rfl, _, _, hlast⟩ := h.list
  obtain ⟨hstacked, hsettled⟩ := stacked_readItems (lays_readWithin settings file room) hitems
  have hbounds := hstacked.bounds item hitem
  refine ⟨hbounds.1, by omega, fun child hchild => ?_⟩
  have hinside := (hsettled item hitem [] item rfl).inside child hchild
  omega

/-- Without a blank line only bare markers make a list loose. -/
theorem IsReadAsList.bare_of_loose (hfull : ∀ n, loc.line ≤ n → n ≤ loc.last → ¬p.IsBlankAt n)
    (hloose : tight = false) :
    ∃ item ∈ items, item.children = [] ∧ p.bullet? (item.loc.line + 1) = p.bullet? loc.line := by
  rcases h.of_loose hloose with (⟨item, hitem, hblank⟩ | ⟨item, hitem, child, hchild, hblank⟩) | hlooks
  · have hbounds := h.bounds (List.mem_of_mem_tail hitem)
    obtain ⟨room, bullet, taken, _, hitems, rfl, _, _, _⟩ := h.list
    have hstacked := (stacked_readItems (lays_readWithin settings file room) hitems).1
    have hlt := hstacked.lt_of_mem_tail hitem
    exact absurd hblank (hfull _ (by omega) (by omega))
  · have hbounds := h.bounds hitem
    have hchildBounds := hbounds.2.2 child (List.mem_of_mem_tail hchild)
    obtain ⟨itemLoc, children, room, rfl, hblocks⟩ := h.inside item hitem
    have hstacked := (lays_readBlocks (lays_readWithin settings file room) hblocks).stacked
    have hlt : itemLoc.line < child.loc.line := hstacked.lt_of_mem_tail hchild
    change loc.line ≤ itemLoc.line ∧ _ at hbounds
    exact absurd hblank (hfull _ (by omega) (by omega))
  · cases hlooks with
    | @bare item hitem hnone hnext => exact ⟨item, hitem, hnone, hnext⟩
    | rule hblank _ _ _ =>
        obtain ⟨_, _, taken, _, _, _, _, hpos, hlast⟩ := h.list
        exact absurd hblank (hfull _ (by omega) (Int.le_refl _))
    | @child item child hitem hchild hbelow _ =>
        have habove := h.isBlankAt_above hitem hchild (by omega)
        have hbounds := h.bounds hitem
        have hchildBounds := hbounds.2.2 child (List.mem_of_mem_head? hchild)
        obtain ⟨itemLoc, children, _, rfl, _⟩ := h.inside item hitem
        change itemLoc.line + 1 < _ at hbelow
        change loc.line ≤ itemLoc.line ∧ _ at hbounds
        exact absurd (habove.of_inside (by omega)) (hfull _ (by omega) (by omega))
    | @code item codeLoc _ _ _ hitem hcode hlt hle hblank _ =>
        have hbounds := h.bounds hitem
        have hcodeBounds := hbounds.2.2 _ hcode
        change _ ≤ codeLoc.line ∧ codeLoc.line ≤ _ ∧ codeLoc.last ≤ _ at hcodeBounds
        exact absurd hblank (hfull _ (by omega) (by omega))

theorem IsReadAsList.paragraphs {item : Node} (hitem : item ∈ items) {c d : Location} {cs ds front back : List Node}
    (hchildren : item.children = front ++ .branch c .paragraph cs :: .branch d .paragraph ds :: back) :
    (p.inside item).IsBlankAt (d.line - 1) ∧ (p.inside item).line + 1 < d.line ∧
      ∃ l, (p.inside item).lineAt? d.line = some l ∧ isBlankLine l = false ∧ IsText l := by
  obtain ⟨itemLoc, children, room, rfl, hblocks⟩ := h.inside item hitem
  have hinner := lays_readWithin settings file room
  have hsince := Passage.since_line (p.inside (.branch itemLoc .listItem children))
  obtain ⟨hblank, hlt, htext⟩ := blank_between_paragraphs hinner hblocks hsince hchildren
  have hbounds := (lays_readBlocks hinner hblocks).stacked.bounds (.branch c .paragraph cs) (by
    rw [show children = _ from hchildren]
    simp)
  refine ⟨hblank, ?_, htext⟩
  change itemLoc.line + 1 < d.line
  have hle : itemLoc.line ≤ c.line := hbounds.1
  omega

end

end Block

open Block

/-- Between two paragraphs of an item is a blank line. If the list is tight all the same, then the second
paragraph is indented or an odd number of lines above it look like fences. -/
theorem paragraphs_of_tight_list {settings : Settings} {file : Option String} {source : String} {root item : Node}
    {path : List Nat} {loc c d : Location} {ordered tight : Bool} {start : Int} {items cs ds front back : List Node}
    (h : parse settings file source = .ok root)
    (hlist : root.descendant? path = some (.branch loc (.list ordered start tight) items)) (hitem : item ∈ items)
    (hchildren : item.children = front ++ .branch c .paragraph cs :: .branch d .paragraph ds :: back) :
    (passageAt source root path).IsBlankAt (d.line - 1) ∧
      (tight = true → ∃ l, ((passageAt source root path).inside item).lineAt? d.line = some l ∧
        (2 ≤ indentOf l ∨ ¬Even (((passageAt source root path).inside item).fencesAbove d.line))) := by
  have hread := isReadAsList_of_parse h hlist
  obtain ⟨hgap, hlt, l, hl, hfull, htext⟩ := hread.paragraphs hitem hchildren
  refine ⟨?_, ?_⟩
  · obtain ⟨itemLoc, children, _, rfl, _⟩ := hread.inside item hitem
    change itemLoc.line + 1 < d.line at hlt
    exact hgap.of_inside (by omega)
  · intro htight
    refine ⟨l, hl, ?_⟩
    by_cases hindent : 2 ≤ indentOf l
    · exact .inl hindent
    · refine .inr fun heven => ?_
      have hparted : ((passageAt source root path).inside item).LooksParted d.line :=
        ⟨⟨l, hl, hfull, Nat.lt_of_not_le hindent, htext.marker⟩, heven⟩
      have hloose := hread.hasGap hitem (Passage.hasGap_iff.2 ⟨d.line, hlt, hgap, hparted⟩)
      rw [htight] at hloose
      cases hloose

def spacedItem : Node :=
  .branch ⟨1, 1, some 3, none⟩ .listItem
    [.branch ⟨1, 1, some 1, none⟩ .paragraph [.leaf ⟨1, 1, some 1, none⟩ (.text "a")],
      .branch ⟨3, 1, some 3, none⟩ .paragraph [.leaf ⟨3, 1, some 3, none⟩ (.text "b")]]

/-- The second paragraph is indented deeper than the content of the item. -/
def spacedDocument : Node :=
  .branch ⟨1, 1, some 3, none⟩ .document [.branch ⟨1, 1, some 3, none⟩ (.list false 1 true) [spacedItem]]

theorem spacedDocument_paragraphs :
    parse {} none "- a\n\n    b" = .ok spacedDocument ∧
      (passageAt "- a\n\n    b" spacedDocument [0]).IsBlankAt 2 ∧
      ∃ l, ((passageAt "- a\n\n    b" spacedDocument [0]).inside spacedItem).lineAt? 3 = some l ∧
        (2 ≤ indentOf l ∨ ¬Even (((passageAt "- a\n\n    b" spacedDocument [0]).inside spacedItem).fencesAbove 3)) := by
  have hparse : parse {} none "- a\n\n    b" = .ok spacedDocument := ok_of_toOption (by decide +kernel)
  have hlist : spacedDocument.descendant? [0] = some (.branch ⟨1, 1, some 3, none⟩ (.list false 1 true) [spacedItem]) :=
    rfl
  have hchildren : spacedItem.children = [] ++ spacedItem.children := rfl
  have hgap := paragraphs_of_tight_list hparse hlist (List.mem_singleton_self spacedItem) hchildren
  exact ⟨hparse, hgap.1, hgap.2 rfl⟩

/-- A tight list with two paragraphs side by side. -/
theorem tight_list_joins_paragraphs :
    parse {} none "- a\n\n    b" = .ok spacedDocument ∧
      spacedDocument.descendant? [0] = some (.branch ⟨1, 1, some 3, none⟩ (.list false 1 true) [spacedItem]) ∧
      ∃ c d cs ds, spacedItem.children = [.branch c .paragraph cs, .branch d .paragraph ds] :=
  ⟨ok_of_toOption (by decide +kernel), rfl, _, _, _, _, rfl⟩

/-- A list is loose because of a real gap or of what is taken for one. Without blank lines it is loose only
where a bare marker is right above another marker. -/
theorem gaps_of_loose_list {settings : Settings} {file : Option String} {source : String} {root : Node}
    {path : List Nat} {loc : Location} {ordered tight : Bool} {start : Int} {items : List Node}
    (h : parse settings file source = .ok root)
    (hlist : root.descendant? path = some (.branch loc (.list ordered start tight) items)) :
    (tight = false → HasRealGap (passageAt source root path) items ∨
      LooksLoose (passageAt source root path) loc items) ∧
    (LooksLoose (passageAt source root path) loc items → tight = false) ∧
    ((∀ n, loc.line ≤ n → n ≤ loc.last → ¬(passageAt source root path).IsBlankAt n) →
      (tight = false ↔ ∃ item ∈ items, item.children = [] ∧
        (passageAt source root path).bullet? (item.loc.line + 1) = (passageAt source root path).bullet? loc.line)) := by
  have hread := isReadAsList_of_parse h hlist
  refine ⟨hread.of_loose, hread.of_looksLoose, fun hfull => ⟨hread.bare_of_loose hfull, ?_⟩⟩
  rintro ⟨item, hitem, hnone, hnext⟩
  exact hread.of_looksLoose (.bare hitem hnone hnext)

def bareItem : Node := .branch ⟨1, 1, some 0, none⟩ .listItem []

def secondItem : Node :=
  .branch ⟨2, 1, some 2, none⟩ .listItem
    [.branch ⟨2, 1, some 2, none⟩ .paragraph [.leaf ⟨2, 1, some 2, none⟩ (.text "b")]]

def bareAboveItem : Node :=
  .branch ⟨1, 1, some 2, none⟩ .document
    [.branch ⟨1, 1, some 2, none⟩ (.list false 1 false) [bareItem, secondItem]]

theorem bareAboveItem_gaps :
    parse {} none "-\n- b" = .ok bareAboveItem ∧
      (HasRealGap (passageAt "-\n- b" bareAboveItem [0]) [bareItem, secondItem] ∨
        LooksLoose (passageAt "-\n- b" bareAboveItem [0]) ⟨1, 1, some 2, none⟩ [bareItem, secondItem]) := by
  have hparse : parse {} none "-\n- b" = .ok bareAboveItem := ok_of_toOption (by decide +kernel)
  have hlist : bareAboveItem.descendant? [0] = some
      (.branch ⟨1, 1, some 2, none⟩ (.list false 1 false) [bareItem, secondItem]) := rfl
  exact ⟨hparse, (gaps_of_loose_list hparse hlist).1 rfl⟩

/-- A loose list without a blank line. -/
theorem bareAboveItem_not_parted :
    parse {} none "-\n- b" = .ok bareAboveItem ∧
      bareAboveItem.descendant? [0] = some
        (.branch ⟨1, 1, some 2, none⟩ (.list false 1 false) [bareItem, secondItem]) ∧
      ¬HasRealGap (passageAt "-\n- b" bareAboveItem [0]) [bareItem, secondItem] ∧
      ∀ l ∈ (passageAt "-\n- b" bareAboveItem [0]).lines, isBlankLine l = false :=
  ⟨ok_of_toOption (by decide +kernel), rfl, by decide +kernel, by decide +kernel⟩

end MarkdownOutline
