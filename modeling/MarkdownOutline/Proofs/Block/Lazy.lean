import MarkdownOutline.Proofs.Block.Handed

namespace MarkdownOutline

namespace Block

open Text

namespace Passage

def above (p : Passage) (n : Int) : Passage := ⟨p.line, p.lines.take (n - p.line).toNat⟩

def Reads (p : Passage) (settings : Settings) (file : Option String) (room : Nat) (blocks : List Node) : Prop :=
  readBlocks (contextWithin settings file room) p.line p.lines = .ok blocks

theorem lines_eq_above_append (p : Passage) {n : Int} {l : Line} (h : p.lineAt? n = some l) :
    n = (p.above n).line + (p.above n).lines.length ∧ ∃ below, p.lines = (p.above n).lines ++ l :: below := by
  have hle := line_le_of_lineAt? h
  obtain ⟨k, rfl⟩ : ∃ k : Nat, n = p.line + k := ⟨(n - p.line).toNat, by omega⟩
  have habove : p.above (p.line + k) = ⟨p.line, p.lines.take k⟩ := by
    rw [above, show (p.line + k - p.line).toNat = k by omega]
  rw [lineAt?_line_add] at h
  obtain ⟨hk, hl⟩ := List.getElem?_eq_some_iff.1 h
  rw [habove]
  refine ⟨?_, p.lines.drop (k + 1), ?_⟩
  · rw [List.length_take_of_le (Nat.le_of_lt hk)]
  · rw [← hl, List.getElem_cons_drop, List.take_append_drop]

end Passage

theorem Layer.full_of_lazy? {layer : Layer} {raw line : Line} (hforeign : layer.own? raw = none)
    (h : layer.lazy? raw = some line) : isBlankLine raw = false ∧ startsBlock raw = false := by
  cases layer with
  | quote =>
      simp only [lazy?, Option.ite_none_right_eq_some, Bool.and_eq_true, Bool.not_eq_true'] at h
      exact h.1
  | item column =>
      simp only [lazy?, Option.ite_none_right_eq_some, Bool.and_eq_true, Bool.not_eq_true'] at h
      refine ⟨Bool.eq_false_iff.2 fun hblank => ?_, h.1.1⟩
      rw [own?, if_pos hblank] at hforeign
      cases hforeign

/-- A container with some lines inside takes for one of them a line that is not its own. -/
structure TakesLazily (p inside : Passage) (container : Node) (layer : Layer) (n : Int) (raw line : Line) : Prop where
  lines : p.inside container = inside
  opens : ∃ loc shape children first content, container = .branch loc shape children ∧
    p.lineAt? loc.line = some first ∧ layer.Opens shape first content
  behind : container.loc.line < n
  outside : p.lineAt? n = some raw
  foreign : layer.own? raw = none
  taken : inside.lineAt? n = some line

section

variable {p inside : Passage} {container : Node} {layer : Layer} {n : Int} {raw line : Line}
  (h : TakesLazily p inside container layer n raw line)
include h

theorem TakesLazily.look : layer.lazy? raw = some line ∧ isBlankLine raw = false ∧ startsBlock raw = false ∧
    ∃ l, inside.lineAt? (n - 1) = some l ∧ isBlankLine l = false := by
  obtain ⟨loc, shape, children, first, content, rfl, hfirst, hopens⟩ := h.opens
  obtain ⟨rest, hsince⟩ := Passage.exists_since_of_lineAt? hfirst
  have htaken := h.taken
  rw [← h.lines] at htaken
  obtain ⟨l, outer, hl, houter, htake⟩ := Passage.take?_of_inside hsince hopens h.behind htaken
  rw [h.lines] at hl
  rw [h.outside] at houter
  cases houter
  rw [Layer.take?, h.foreign] at htake
  obtain ⟨hfull, hlazy⟩ := Option.ite_none_right_eq_some.1 htake
  obtain ⟨hraw, hstarts⟩ := Layer.full_of_lazy? h.foreign hlazy
  exact ⟨hlazy, hraw, hstarts, l, hl, (Bool.not_eq_true' _).mp hfull⟩

/-- Its place is told from the lines above it inside. -/
theorem TakesLazily.holdsTextAt_iff {settings : Settings} {file : Option String}
    (hread : IsReadIn settings file p container) :
    ∃ room < maxNesting, inside.Reads settings file room container.children ∧
      ∀ i path, container.HoldsTextAt n (i :: path) ↔ ∃ blocks top,
        (inside.above n).Reads settings file room blocks ∧ blocks[i]? = some top ∧
          GoesOn n (inside.above n) top path line := by
  obtain ⟨loc, shape, children, first, content, rfl, _, hopens⟩ := h.opens
  have hcontainer : shape.isContainer = true := by
    cases hopens <;> rfl
  obtain ⟨room, hroom, hblocks⟩ := hread.inside loc shape children rfl hcontainer
  rw [h.lines] at hblocks
  refine ⟨room, hroom, hblocks, fun i path => ?_⟩
  obtain ⟨hn, below, hlines⟩ := inside.lines_eq_above_append h.taken
  rw [hlines] at hblocks
  have hiff := handsOn (Nat.le_of_lt hroom) (Passage.since_line (inside.above n)) hblocks i path
  rw [← hn] at hiff
  exact Node.holdsTextAt_cons_iff.trans hiff

end

end Block

open Block

/-- A line that a container takes without being its own looks like text outside, behind a line that is not
blank. It is text of a block that begins above it if and only if the lines above end within a paragraph and each
container around takes the line for text that goes on with it. -/
theorem text_of_lazy_line {settings : Settings} {file : Option String} {source : String} {root container : Node}
    {path : List Nat} {inside : Passage} {layer : Layer} {n : Int} {raw line : Line}
    (h : parse settings file source = .ok root) (hcontainer : root.descendant? path = some container)
    (hlazy : TakesLazily (passageAt source root path) inside container layer n raw line) :
    (layer.lazy? raw = some line ∧ isBlankLine raw = false ∧ startsBlock raw = false ∧
      ∃ l, inside.lineAt? (n - 1) = some l ∧ isBlankLine l = false) ∧
    ∃ room < maxNesting, inside.Reads settings file room container.children ∧
      ∀ i path, container.HoldsTextAt n (i :: path) ↔ ∃ blocks top,
        (inside.above n).Reads settings file room blocks ∧ blocks[i]? = some top ∧
          GoesOn n (inside.above n) top path line := by
  have hread := parse_isReadIn h path container hcontainer
  exact ⟨hlazy.look, hlazy.holdsTextAt_iff hread⟩

def itemQuote : Node :=
  .branch ⟨1, 1, some 2, none⟩ .blockQuote
    [.branch ⟨1, 1, some 2, none⟩ (.list false 1 true)
      [.branch ⟨1, 1, some 2, none⟩ .listItem
        [.branch ⟨1, 1, some 2, none⟩ .paragraph
          [.leaf ⟨1, 1, some 2, none⟩ (.text "a"), .leaf ⟨1, 1, some 2, none⟩ .softBreak,
            .leaf ⟨1, 1, some 2, none⟩ (.text "b")]]]]

/-- The quote hands the second line on to its item. -/
def itemQuoteDocument : Node := .branch ⟨1, 1, some 2, none⟩ .document [itemQuote]

def itemQuoteInside : Passage := ⟨1, ["- a".toList, "b".toList]⟩

theorem itemQuote_lazy_line :
    parse {} none "> - a\nb" = .ok itemQuoteDocument ∧
      TakesLazily (passageAt "> - a\nb" itemQuoteDocument [0]) itemQuoteInside itemQuote .quote 2 "b".toList
        "b".toList ∧
      ∃ room < maxNesting, ∃ blocks top, (itemQuoteInside.above 2).Reads {} none room blocks ∧
        blocks[0]? = some top ∧ GoesOn 2 (itemQuoteInside.above 2) top [0, 0] "b".toList := by
  have hparse : parse {} none "> - a\nb" = .ok itemQuoteDocument := ok_of_toOption (by decide +kernel)
  have hlazy : TakesLazily (passageAt "> - a\nb" itemQuoteDocument [0]) itemQuoteInside itemQuote .quote 2 "b".toList
      "b".toList :=
    { lines := rfl
      opens := ⟨_, _, _, "> - a".toList, "- a".toList, rfl, rfl, .quote rfl⟩
      behind := by decide
      outside := rfl
      foreign := rfl
      taken := rfl }
  obtain ⟨_, room, hroom, _, hiff⟩ := text_of_lazy_line hparse rfl hlazy
  exact ⟨hparse, hlazy, room, hroom, (hiff 0 [0, 0]).1 ⟨_, rfl, .paragraph (by decide) (by decide)⟩⟩

def headingQuote : Node :=
  .branch ⟨1, 1, some 2, none⟩ .blockQuote
    [.branch ⟨1, 1, none, none⟩ (.heading {}) [.leaf ⟨1, 1, none, none⟩ (.text "a")],
      .branch ⟨2, 1, some 2, none⟩ .paragraph [.leaf ⟨2, 1, some 2, none⟩ (.text "b")]]

/-- The quote takes the second line although nothing is there to go on with. -/
def headingQuoteDocument : Node := .branch ⟨1, 1, some 2, none⟩ .document [headingQuote]

def headingQuoteInside : Passage := ⟨1, ["# a".toList, "b".toList]⟩

theorem headingQuote_not_text :
    parse {} none "> # a\nb" = .ok headingQuoteDocument ∧
      TakesLazily (passageAt "> # a\nb" headingQuoteDocument [0]) headingQuoteInside headingQuote .quote 2 "b".toList
        "b".toList ∧
      ∀ path, ¬headingQuote.HoldsTextAt 2 path := by
  refine ⟨ok_of_toOption (by decide +kernel), ?_, ?_⟩
  · exact
      { lines := rfl
        opens := ⟨_, _, _, "> # a".toList, "# a".toList, rfl, rfl, .quote rfl⟩
        behind := by decide
        outside := rfl
        foreign := rfl
        taken := rfl }
  · have hnone : headingQuote.Throughout fun d => ¬d.HoldsText 2 := by
      refine Node.throughout_branch.2 ⟨nofun, List.forall_mem_cons.2 ⟨?_, List.forall_mem_singleton.2 ?_⟩⟩
      · refine Node.throughout_branch.2 ⟨?_, List.forall_mem_singleton.2 (Node.throughout_leaf.2 nofun)⟩
        rw [Node.holdsText_heading_iff]
        decide
      · refine Node.throughout_branch.2 ⟨?_, List.forall_mem_singleton.2 (Node.throughout_leaf.2 nofun)⟩
        rw [Node.holdsText_paragraph_iff]
        decide
    rintro path ⟨d, hd, hholds⟩
    exact hnone path d hd hholds

end MarkdownOutline
