import Mathlib.Algebra.Group.Nat.Defs
import MarkdownOutline.Block.Read
import MarkdownOutline.Proofs.Document.Grammar

namespace MarkdownOutline

theorem exists_of_bind_eq_ok {ε α β : Type} {x : Except ε α} {f : α → Except ε β} {b : β}
    (h : x >>= f = .ok b) : ∃ a, x = .ok a ∧ f a = .ok b := by
  cases x with
  | error e => cases h
  | ok a => exact ⟨a, rfl, h⟩

theorem ok_of_toOption {ε α : Type} {x : Except ε α} {a : α} (h : x.toOption = some a) : x = .ok a := by
  cases x with
  | error e => cases h
  | ok b =>
      cases h
      rfl

def Leaf.IsBlock : Leaf → Prop
  | codeBlock _ info _ => ∀ text ∈ info, ∃ c ∈ text.toList, Text.isBlank c = false
  | thematicBreak | htmlBlock _ => True
  | _ => False

namespace Block

open Text

/-- A property that the reader keeps up: leaf blocks, headings and paragraphs have it, and a
container has it if its children do. -/
structure Grammar (settings : Settings) (P : Node → Prop) : Prop where
  leaf : ∀ loc (content : Leaf), content.IsBlock → P (.leaf loc content)
  heading : ∀ loc (h : Heading) text, 1 ≤ h.level → h.id = none →
    P (.branch loc (.heading h) (Inline.read settings loc text))
  paragraph : ∀ loc text, P (.branch loc .paragraph (Inline.read settings loc text))
  quote : ∀ loc children, (∀ c ∈ children, P c) → P (.branch loc .blockQuote children)
  item : ∀ loc children, (∀ c ∈ children, P c) → P (.branch loc .listItem children)
  list : ∀ loc ordered start tight items, (∀ c ∈ items, P c) →
    P (.branch loc (.list ordered start tight) items)

structure Rules (settings : Settings) (Q : List Node → Prop) (I P : Node → Prop) : Prop where
  leaf : ∀ loc (content : Leaf), content.rank = .block → content.Conforms → P (.leaf loc content)
  heading : ∀ loc (h : Heading) text, h.Conforms → h.isTitle = false →
    P (.branch loc (.heading h) (Inline.read settings loc text))
  paragraph : ∀ loc text, P (.branch loc .paragraph (Inline.read settings loc text))
  quote : ∀ loc children, Q children → P (.branch loc .blockQuote children)
  item : ∀ loc children, Q children → I (.branch loc .listItem children)
  list : ∀ loc ordered start tight items, (Branch.list ordered start tight).Conforms → items ≠ [] →
    (∀ c ∈ items, I c) → P (.branch loc (.list ordered start tight) items)

def Reads (read : Reader) (Q : List Node → Prop) : Prop :=
  ∀ line lines nodes, read line lines = .ok nodes → Q nodes

def titleHeading : Heading := { isTitle := true, style := .title }

def Titled (settings : Settings) (P : Node → Prop) (nodes : List Node) : Prop :=
  (∀ n ∈ nodes, P n) ∨ ∃ loc text blocks, (∀ n ∈ blocks, P n) ∧
    nodes = .branch loc (.heading titleHeading) (Inline.read settings loc text) :: blocks

theorem isBlock_of_conforms {content : Leaf} (hrank : content.rank = .block) (h : content.Conforms) :
    content.IsBlock := by
  cases content with
  | codeBlock code info fenced =>
      intro text htext
      obtain ⟨hne, htrim⟩ := h.1 text htext
      have hchars : trim isBlank text.toList ≠ [] := by
        rw [htrim]
        exact fun hnil => hne (String.toList_eq_nil_iff.1 hnil)
      rw [← htrim]
      exact exists_mem_trim hchars
  | thematicBreak | htmlBlock => trivial
  | _ => cases hrank

theorem Grammar.rules {settings : Settings} {P : Node → Prop} (hP : Grammar settings P) :
    Rules settings (fun nodes => ∀ n ∈ nodes, P n) P P where
  leaf loc content hrank h := hP.leaf loc content (isBlock_of_conforms hrank h)
  heading loc h text hh _ := hP.heading loc h text hh.level_pos hh.unmarked
  paragraph := hP.paragraph
  quote := hP.quote
  item := hP.item
  list loc ordered start tight items _ _ h := hP.list loc ordered start tight items h

theorem level_of_atx? {line content : Line} {level : Nat} (h : atx? line = some (level, content)) :
    1 ≤ level ∧ level ≤ maxLevel := by
  simp only [atx?, Option.bind_eq_bind, Option.bind_eq_some_iff] at h
  obtain ⟨text, _, h⟩ := h
  split at h
  · cases h
    simp_all
  · cases h

theorem level_of_underline? {line : Line} {level : Nat} (h : underline? line = some level) :
    level = 1 ∨ level = 2 := by
  rw [underline?] at h
  split at h
  · split at h
    · cases h
      split <;> simp
    · cases h
  · cases h

theorem level_of_paragraphTail {lines tail : List Line} {level : Nat}
    (h : paragraphTail lines = (tail, some level)) : level = 1 ∨ level = 2 := by
  induction lines generalizing tail with
  | nil => cases h
  | cons line rest ih =>
      rw [paragraphTail] at h
      split at h
      · cases h
      · split at h
        · cases h
          exact level_of_underline? ‹_›
        · split at h
          · cases h
          · obtain ⟨-, hlevel⟩ := Prod.mk.inj h
            exact ih (Prod.ext rfl hlevel)

theorem numeral_lt (cs : List Char) : numeral cs < 10 ^ cs.length := by
  have hfrom (n bound : Nat) (hn : n < bound) :
      cs.foldl (fun n c => 10 * n + (digitValue? c).getD 0) n < bound * 10 ^ cs.length := by
    induction cs generalizing n bound with
    | nil => simpa using hn
    | cons c cs ih =>
      have hc := digitValue?_lt c
      have hstep := ih (10 * n + (digitValue? c).getD 0) (10 * bound) (by omega)
      rwa [Nat.mul_comm 10 bound, Nat.mul_assoc, ← Nat.pow_succ'] at hstep
  simpa [numeral] using hfrom 0 1 (by decide)

theorem bullet?_cases {cs rest : Line} {bullet : Bullet} {number width : Nat}
    (h : bullet? cs = some (bullet, number, width, rest)) :
    ∃ digits c, cs = digits ++ c :: rest ∧ width = digits.length + 1 ∧
      (isListMark c = true ∧ number = 1 ∨
        isDelimiter c = true ∧ number = numeral digits ∧ digits.length ≤ maxMarkerDigits) := by
  unfold bullet? at h
  split at h
  · cases h
  · rename_i c tail
    split at h
    · rename_i hmark
      cases h
      exact ⟨[], c, rfl, rfl, .inl ⟨hmark, rfl⟩⟩
    · simp only at h
      split at h
      · rename_i d behind hbehind
        split at h
        · rename_i hdigits
          cases h
          simp only [Bool.and_eq_true, decide_eq_true_eq] at hdigits
          refine ⟨(c :: tail).takeWhile isDigit, d, ?_, rfl, .inr ⟨hdigits.1.1, rfl, hdigits.2⟩⟩
          rw [← hbehind, drop_length_takeWhile, List.takeWhile_append_dropWhile]
        · cases h
      · cases h

theorem number_of_bullet? {cs rest : Line} {bullet : Bullet} {number width : Nat}
    (h : bullet? cs = some (bullet, number, width, rest)) : number < 10 ^ maxMarkerDigits := by
  obtain ⟨digits, c, _, _, ⟨_, rfl⟩ | ⟨_, rfl, hdigits⟩⟩ := bullet?_cases h
  · decide
  · exact Nat.lt_of_lt_of_le (numeral_lt digits) (Nat.pow_le_pow_right (by decide) hdigits)

theorem number_of_marker? {line : Line} {m : Marker} (h : marker? line = some m) :
    m.number < 10 ^ maxMarkerDigits := by
  simp only [marker?, Option.bind_eq_bind, Option.bind_eq_some_iff] at h
  obtain ⟨content, _, ⟨bullet, number, width, rest⟩, hbullet, h⟩ := h
  have hnumber := number_of_bullet? hbullet
  split at h
  · cases h
    exact hnumber
  split at h
  · cases h
  split at h <;> cases h <;> exact hnumber

theorem marker?_of_sibling? {bullet : Bullet} {line : Line} {m : Marker} (h : sibling? bullet line = some m) :
    marker? line = some m := by
  unfold sibling? at h
  split at h
  · split at h
    · cases h
      assumption
    · cases h
  · cases h

theorem nodes_ne_nil_of_readItems {ctx : Context} {bullet : Bullet} {line : Int} {first : Line}
    {rest : List Line} {m : Marker} {items : Items} (hm : sibling? bullet first = some m)
    (h : readItems ctx bullet line (first :: rest) = .ok items) : items.nodes ≠ [] := by
  rw [readItems, hm] at h
  obtain ⟨children, _, h⟩ := exists_of_bind_eq_ok h
  obtain ⟨more, _, h⟩ := exists_of_bind_eq_ok h
  cases h
  exact List.cons_ne_nil _ _

theorem conforms_codeBlock (code : String) (fence : Fence) :
    (Leaf.codeBlock code (fence.info?.map String.ofList) true).Conforms := by
  refine ⟨fun text htext => ?_, fun h => by cases h⟩
  obtain ⟨info, hinfo, rfl⟩ := Option.map_eq_some_iff.1 htext
  simp only [Fence.info?] at hinfo
  split at hinfo
  · cases hinfo
  · rename_i hempty
    cases hinfo
    refine ⟨fun hnil => hempty ?_, ?_⟩
    · rw [String.ofList_eq_empty_iff.1 hnil]
      rfl
    · rw [String.toList_ofList, trim_trim]

section

variable {ctx : Context} {Q : List Node → Prop} {I P : Node → Prop} (hP : Rules ctx.settings Q I P)
include hP

theorem atxNode_holds (line : Int) {level : Nat} (hlevel : 1 ≤ level ∧ level ≤ maxLevel) (content : Line) :
    P (atxNode ctx line level content) := by
  have hle : (1 : Int) ≤ (level : Int) ∧ (level : Int) ≤ 6 := by
    rw [maxLevel] at hlevel
    omega
  rw [atxNode]
  exact hP.heading _ _ _ ⟨hle.1, hle.2, (fun h => by cases h), rfl⟩ rfl

theorem paragraphBlock_holds (line : Int) (first : Line) (rest : List Line) :
    P (paragraphBlock ctx line first rest).node := by
  obtain ⟨tail, level, htail⟩ : ∃ tail level, paragraphTail rest = (tail, level) := ⟨_, _, rfl⟩
  rw [paragraphBlock]
  rw [htail]
  cases level with
  | none => exact hP.paragraph _ _
  | some level =>
      have hle : (1 : Int) ≤ (level : Int) ∧ (level : Int) ≤ 2 := by
        rcases level_of_paragraphTail htail with rfl | rfl <;> decide
      exact hP.heading _ _ _ ⟨hle.1, Int.le_trans hle.2 (by decide), fun _ => hle.2, rfl⟩ rfl

variable (hinner : Reads ctx.inner Q)
include hinner

theorem quoteBlock_holds {line : Int} {first : Line} {rest : List Line} {taken : Taken}
    (h : quoteBlock ctx line first rest = .ok taken) : P taken.node := by
  obtain ⟨children, hread, h⟩ := exists_of_bind_eq_ok h
  cases h
  exact hP.quote _ _ (hinner _ _ _ hread)

theorem readItems_holds {bullet : Bullet} {line : Int} {lines : List Line} {items : Items}
    (h : readItems ctx bullet line lines = .ok items) : ∀ n ∈ items.nodes, I n := by
  fun_induction readItems ctx bullet line lines generalizing items with
  | case1 =>
      cases h
      exact fun _ hn => (List.not_mem_nil hn).elim
  | case2 =>
      cases h
      exact fun _ hn => (List.not_mem_nil hn).elim
  | case3 line first rest m hm tail kept trailing after =>
      rename_i ih
      obtain ⟨children, hread, h⟩ := exists_of_bind_eq_ok h
      obtain ⟨more, hmore, h⟩ := exists_of_bind_eq_ok h
      cases h
      exact List.forall_mem_cons.2 ⟨hP.item _ _ (hinner _ _ _ hread), ih hmore⟩

theorem listBlock_holds {line : Int} {m : Marker} {first : Line} {rest : List Line} {taken : Taken}
    (hm : sibling? m.bullet first = some m) (h : listBlock ctx line m (first :: rest) = .ok taken) :
    P taken.node := by
  obtain ⟨items, hread, h⟩ := exists_of_bind_eq_ok h
  have hitems := readItems_holds hP hinner hread
  cases h
  refine hP.list _ _ _ _ _ ?_ (nodes_ne_nil_of_readItems hm hread) hitems
  have hnumber := number_of_marker? (marker?_of_sibling? hm)
  rw [Branch.Conforms]
  cases m.bullet.isOrdered with
  | false => rfl
  | true =>
      rw [maxMarkerDigits] at hnumber
      simp only [if_true, maxStart]
      omega

theorem readBlock_holds {line : Int} {first : Line} {rest : List Line} {taken : Taken}
    (h : readBlock ctx line first rest = .ok taken) : P taken.node := by
  rw [readBlock] at h
  split at h
  · cases h
    exact hP.leaf _ _ rfl (conforms_codeBlock _ _)
  split at h
  · cases h
    exact atxNode_holds hP line (level_of_atx? ‹_›) _
  split at h
  · cases h
    exact hP.leaf _ _ rfl trivial
  split at h
  · exact quoteBlock_holds hP hinner h
  split at h
  · refine listBlock_holds hP hinner ?_ h
    simp_all [sibling?]
  split at h
  · cases h
    exact hP.leaf _ _ rfl ⟨(fun _ hinfo => by cases hinfo), fun _ => rfl⟩
  split at h
  · cases h
    exact hP.leaf _ _ rfl trivial
  · cases h
    exact paragraphBlock_holds hP line first rest

theorem readBlocks_holds {line : Int} {lines : List Line} {nodes : List Node}
    (h : readBlocks ctx line lines = .ok nodes) : ∀ n ∈ nodes, P n := by
  fun_induction readBlocks ctx line lines generalizing nodes with
  | case1 =>
      cases h
      exact fun _ hn => (List.not_mem_nil hn).elim
  | case2 line first rest hblank ih => exact ih h
  | case3 line first rest hblank ih =>
      obtain ⟨block, hblock, h⟩ := exists_of_bind_eq_ok h
      obtain ⟨blocks, hblocks, h⟩ := exists_of_bind_eq_ok h
      cases h
      exact List.forall_mem_cons.2 ⟨readBlock_holds hP hinner hblock, ih _ hblocks⟩

theorem readTitled_holds {line : Int} {lines : List Line} {nodes : List Node}
    (h : readTitled ctx line lines = .ok nodes) : Titled ctx.settings P nodes := by
  simp only [readTitled] at h
  split at h
  · exact .inl (readBlocks_holds hP hinner h)
  · obtain ⟨blocks, hblocks, h⟩ := exists_of_bind_eq_ok h
    cases h
    exact .inr ⟨_, _, blocks, readBlocks_holds hP hinner hblocks, rfl⟩

end

section

variable {settings : Settings} {file : Option String} {room : Nat} {Q : List Node → Prop}
  {I P : Node → Prop} (hP : Rules settings Q I P) (hinner : Reads (readWithin settings file room) Q)
include hP hinner

theorem readWithin_titled : Reads (readWithin settings file (room + 1)) (Titled settings P) := by
  intro line lines nodes h
  rw [readWithin] at h
  split at h
  · exact @readTitled_holds ⟨settings, file, _⟩ Q I P hP hinner _ _ _ h
  · exact .inl (@readBlocks_holds ⟨settings, file, _⟩ Q I P hP hinner _ _ _ h)

/-- Only the outermost level has a title block. -/
theorem readWithin_below (hroom : room ≠ maxNesting) :
    Reads (readWithin settings file (room + 1)) fun nodes => ∀ n ∈ nodes, P n := by
  intro line lines nodes h
  rw [readWithin] at h
  rw [if_neg (by simp [hroom])] at h
  exact @readBlocks_holds ⟨settings, file, _⟩ Q I P hP hinner _ _ _ h

end

theorem readWithin_holds {settings : Settings} {P : Node → Prop} (hP : Grammar settings P)
    (file : Option String) (room : Nat) :
    Reads (readWithin settings file room) fun nodes => ∀ n ∈ nodes, P n := by
  induction room with
  | zero =>
      intro line lines nodes h
      cases h
  | succ room ih =>
      intro line lines nodes h
      rcases readWithin_titled hP.rules ih line lines nodes h with hall | ⟨loc, text, blocks, hall, rfl⟩
      · exact hall
      · exact List.forall_mem_cons.2 ⟨hP.heading _ _ _ (by decide) rfl, hall⟩

end Block

theorem exists_of_parse_eq_ok {settings : Settings} {file : Option String} {source : String} {root : Node}
    (h : parse settings file source = .ok root) :
    ∃ loc blocks, root = .branch loc .document blocks ∧
      Block.read settings file (Source.prepareChars source.toList) = .ok blocks := by
  obtain ⟨blocks, hread, h⟩ := exists_of_bind_eq_ok h
  cases h
  exact ⟨_, blocks, rfl, hread⟩

/-- What the reader keeps up holds of all blocks of a document, whose root is a branch. -/
theorem parse_holds {settings : Settings} {P : Node → Prop} (hP : Block.Grammar settings P)
    {file : Option String} {source : String} {root : Node} (h : parse settings file source = .ok root) :
    ∃ loc blocks, root = .branch loc .document blocks ∧ ∀ n ∈ blocks, P n := by
  obtain ⟨loc, blocks, rfl, hread⟩ := exists_of_parse_eq_ok h
  exact ⟨loc, blocks, rfl, Block.readWithin_holds hP file _ _ _ _ hread⟩

end MarkdownOutline
