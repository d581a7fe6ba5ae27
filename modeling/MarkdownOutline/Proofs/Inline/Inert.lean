import MarkdownOutline.Proofs.Inline.Numeral
import MarkdownOutline.Proofs.Inline.Pending

namespace MarkdownOutline.Inline

open Text

theorem exists_of_holed_eq_append {r front behind : List Char} {u v : Cells}
    (h : holed front (behind.map some) = u ++ v) (hlength : front.length < (fill r u).length) :
    ∃ w : List Char, u = holed front (w.map some) ∧ none ∉ v := by
  rcases List.append_eq_append_iff.1 h with ⟨w, rfl, hw⟩ | ⟨w, hw, _⟩
  · rcases List.append_eq_cons_iff.1 hw.symm with ⟨rfl, _⟩ | ⟨w, rfl, hbehind⟩
    · rw [List.append_nil, fill_map_some] at hlength
      exact absurd hlength (Nat.lt_irrefl _)
    · obtain ⟨label, rest, rfl, rfl, rfl⟩ := List.map_eq_append_iff.1 hbehind
      exact ⟨label, rfl, by simp⟩
  · have hfill := congrArg List.length (congrArg (fill r) hw)
    rw [fill_map_some, fill_append, List.length_append] at hfill
    omega

section

variable {ctx : Context} {before : Option Char} {t : Cells} (link : LinkCells t) {r : List Char}
  (hread : link? (fill r t) = some (⟨fill r link.label, link.target.fill r⟩, (fill r link.cells).length))
include hread

theorem scanFrom_link {read : List Char → List Node} (hlabel : ctx.label = some read)
    (pending : Option (List Char)) :
    scanFrom ctx before pending ('[' :: fill r t) = flush pending ++
      .node (.branch ctx.loc (.link (.ofList (link.target.fill r).url) ((link.target.fill r).title.map .ofList))
        (read (fill r link.label))) :: scanFrom ctx (some ')') none (fill r link.target.behind) := by
  rw [scanFrom_of_piece ctx (step_link hlabel hread before), link.take_fill, link.drop_fill, link.getLastD_fill]

theorem scanFrom_image {read : List Char → List Node} (hlabel : ctx.label = some read)
    (pending : Option (List Char)) :
    scanFrom ctx before pending ('!' :: '[' :: fill r t) = flush pending ++
      .node (.leaf ctx.loc (.image (.ofList (link.target.fill r).url) (plainTexts (read (fill r link.label)))
        ((link.target.fill r).title.map .ofList))) :: scanFrom ctx (some ')') none (fill r link.target.behind) := by
  rw [scanFrom_of_piece ctx (step_image hlabel hread before), List.take_succ_cons, List.drop_succ_cons, link.take_fill,
    link.drop_fill, List.getLastD_cons, link.getLastD_fill]

end

/-- The link that a label with a reference begins is there for every reference in its place. -/
theorem exists_linkCells {r inner inner' behind : List Char} {target : Target} {taken : Nat} (hr : IsFiller r)
    (hlink : link? (inner ++ (r ++ behind)) = some (⟨inner ++ (r ++ inner'), target⟩, taken)) :
    ∃ link : LinkCells (holed inner (behind.map some)), none ∉ link.rest ∧
      (∀ s, fill s link.label = inner ++ (s ++ inner')) ∧
      ∀ s, IsFiller s → link? (fill s (holed inner (behind.map some))) =
        some (⟨fill s link.label, link.target.fill s⟩, (fill s link.cells).length) := by
  obtain ⟨link, hread⟩ := link?_fill (holed inner (behind.map some))
  have hfill : inner ++ (r ++ behind) = fill r (holed inner (behind.map some)) := by
    rw [fill_holed, fill_map_some]
  rw [hfill, hread r hr] at hlink
  cases link with
  | none => cases hlink
  | some link =>
      rw [Option.map_some, Option.some.injEq, Prod.mk.injEq, Reference.mk.injEq] at hlink
      obtain ⟨⟨hlabel, _⟩, _⟩ := hlink
      have hlonger : inner.length < (fill r link.label).length := by
        have := hr.length_pos
        rw [hlabel, List.length_append, List.length_append]
        omega
      obtain ⟨w, hw, hrest⟩ := exists_of_holed_eq_append link.eq hlonger
      have hinner (s : List Char) : fill s link.label = inner ++ (s ++ w) := by
        rw [hw, fill_holed, fill_map_some]
      rw [hinner, List.append_cancel_left_eq, List.append_cancel_left_eq] at hlabel
      subst hlabel
      exact ⟨link, fun hmem => hrest (List.mem_cons_of_mem _ hmem), hinner, hread⟩

def contextWithin (settings : Settings) (loc : Location) : Nat → Context
  | 0 => ⟨settings, loc, none⟩
  | room + 1 => ⟨settings, loc, some (readWithin settings loc room)⟩

theorem readWithin_eq (settings : Settings) (loc : Location) (room : Nat) (cs : List Char) :
    readWithin settings loc room cs = assemble loc (scan (contextWithin settings loc room) cs) := by
  cases room <;> rfl

/-- The scan of a text comes to `r` between `front` and `behind`, itself or in the label of a link or an image
that it comes to. What the text that it reads there holds behind `r` is `rest`. -/
inductive Meets (settings : Settings) (loc : Location) (r : List Char) :
    Nat → List Char → List Char → List Char → Prop
  | here {room : Nat} {front behind : List Char} {done : List Piece} {before : Option Char}
      {pending : Option (List Char)}
      (h : Stands (contextWithin settings loc room) (front ++ (r ++ behind)) done before pending (r ++ behind)) :
      Meets settings loc r room front behind behind
  | label {room : Nat} {front opening inner inner' behind rest : List Char} {done : List Piece}
      {before : Option Char} {pending : Option (List Char)} {target : Target} {taken : Nat}
      (hopening : opening = ['['] ∨ opening = ['!', '['])
      (h : Stands (contextWithin settings loc (room + 1)) (front ++ opening ++ inner ++ (r ++ behind)) done
        before pending (opening ++ inner ++ (r ++ behind)))
      (hlink : link? (inner ++ (r ++ behind)) = some (⟨inner ++ (r ++ inner'), target⟩, taken))
      (hmeets : Meets settings loc r room inner inner' rest) :
      Meets settings loc r (room + 1) (front ++ opening ++ inner) behind rest

/-- A relation of nodes and one of pieces, such that what labels are read into relates the pieces around. -/
structure Carries (loc : Location) (P : List Node → List Node → Prop) (Q : List Piece → List Piece → Prop) :
    Prop where
  front : ∀ (pieces : List Piece) {l l' : List Piece}, Q l l' → Q (pieces ++ l) (pieces ++ l')
  link : ∀ (shape : Branch) (rest : List Piece) {ns ns' : List Node}, P ns ns' →
    Q (.node (.branch loc shape ns) :: rest) (.node (.branch loc shape ns') :: rest)
  image : ∀ (url : String) (title : Option String) (rest : List Piece) {ns ns' : List Node}, P ns ns' →
    Q (.node (.leaf loc (.image url (plainTexts ns) title)) :: rest)
      (.node (.leaf loc (.image url (plainTexts ns') title)) :: rest)
  nodes : ∀ (ctx : Context) (cs cs' : List Char), Q (scan ctx cs) (scan ctx cs') →
    P (assemble loc (scan ctx cs)) (assemble loc (scan ctx cs'))

section

variable {settings : Settings} {loc : Location} {room : Nat} {front behind rest r s : List Char}

/-- The scan comes to another filler in the same place. -/
theorem Meets.replace (hr : IsFiller r) (hs : IsFiller s) (h : Meets settings loc r room front behind rest) :
    Meets settings loc s room front behind rest := by
  induction h with
  | @here room front behind done before pending h => exact .here (Stands.replace hr hs [] h)
  | label hopening h hlink hmeets ih =>
      obtain ⟨link, _, hlabel, hread⟩ := exists_linkCells hr hlink
      have hlink := hread s hs
      rw [fill_holed, fill_map_some, hlabel] at hlink
      exact .label hopening (Stands.replace hr hs _ h) hlink ih

/-- What relates the two scans where the fillers stand relates what the texts are read into. -/
theorem Meets.carry {P : List Node → List Node → Prop} {Q : List Piece → List Piece → Prop}
    (hcarries : Carries loc P Q) (hr : IsFiller r) (hs : IsFiller s)
    (hhere : ∀ {ctx : Context} {source : List Char} {done : List Piece} {before : Option Char}
      {pending : Option (List Char)}, Stands ctx (source ++ (r ++ rest)) done before pending (r ++ rest) →
        Q (scan ctx (source ++ (r ++ rest))) (scan ctx (source ++ (s ++ rest))))
    (h : Meets settings loc r room front behind rest) :
    P (readWithin settings loc room (front ++ (r ++ behind))) (readWithin settings loc room (front ++ (s ++ behind))) := by
  induction h with
  | here h =>
      rw [readWithin_eq, readWithin_eq]
      exact hcarries.nodes _ _ _ (hhere h)
  | @label room front opening inner inner' behind rest done before pending target taken hopening h hlink hmeets ih =>
      have hchildren := ih hhere
      obtain ⟨link, hgap, hlabel, hread⟩ := exists_linkCells hr hlink
      have hfill (r : List Char) : inner ++ (r ++ behind) = fill r (holed inner (behind.map some)) := by
        rw [fill_holed, fill_map_some]
      have hreader : (contextWithin settings loc (room + 1)).label = some (readWithin settings loc room) := rfl
      rw [← hlabel, ← hlabel] at hchildren
      rw [link.target.eq, List.mem_append, List.mem_cons, not_or, not_or] at hgap
      have htarget := link.target.fill_congr hgap.1 s r
      have hbehind := fill_congr hgap.2.2 s r
      rw [readWithin_eq, readWithin_eq]
      refine hcarries.nodes _ _ _ ?_
      rw [h.scan_eq, (Stands.replace hr hs _ h).scan_eq, List.append_assoc opening, List.append_assoc opening, hfill, hfill]
      refine hcarries.front done ?_
      rcases hopening with rfl | rfl
      · change Q (scanFrom _ before pending ('[' :: fill r (holed inner (behind.map some))))
          (scanFrom _ before pending ('[' :: fill s (holed inner (behind.map some))))
        rw [scanFrom_link link (hread r hr) hreader, scanFrom_link link (hread s hs) hreader, htarget, hbehind]
        exact hcarries.front _ (hcarries.link _ _ hchildren)
      · change Q (scanFrom _ before pending ('!' :: '[' :: fill r (holed inner (behind.map some))))
          (scanFrom _ before pending ('!' :: '[' :: fill s (holed inner (behind.map some))))
        rw [scanFrom_image link (hread r hr) hreader, scanFrom_image link (hread s hs) hreader, htarget, hbehind]
        exact hcarries.front _ (hcarries.image _ _ _ hchildren)

end

theorem Stands.scan_reference {ctx : Context} {source rest r s : List Char} {done : List Piece}
    {before : Option Char} {pending : Option (List Char)} {c d : Char}
    (h : Stands ctx (source ++ (r ++ rest)) done before pending (r ++ rest)) (hr : Denotes r c) (hs : Denotes s d) :
    scan ctx (source ++ (s ++ rest)) =
      done ++ scanFrom ctx (some ';') (some ((shown s d).reverse ++ pending.getD [])) rest := by
  have hreplaced : Stands ctx (source ++ (s ++ rest)) done before pending (s ++ rest) :=
    Stands.replace hr.numeral.isFiller hs.numeral.isFiller [] h
  exact (hreplaced.reference hs).scan_eq

theorem carries_apart (loc : Location) (w w' : List Char) :
    Carries loc (NodesApart w w') (OneApart (PieceApart w w')) where
  front pieces _ _ h := h.append_left pieces
  link shape rest _ _ h := .here (.part (.node fun more => .branch loc shape h more)) rest
  image url title rest _ _ h := by
    obtain ⟨pre, post, htext, htext'⟩ := h.plainTexts
    rw [htext, htext']
    exact .here (.part (.node fun more => .image loc url pre post title more)) rest
  nodes ctx cs cs' h := nodesApart_assemble h loc (isFresh_of_mem_scanFrom none none cs)

theorem carries_outgrown (loc : Location) (k : Nat) :
    Carries loc (fun ns ns' => (plainTexts ns).length + k ≤ (plainTexts ns').length) (Outgrown k) where
  front pieces _ _ h := h.append_left pieces
  link shape rest ns ns' h := by
    refine ⟨rfl, ?_⟩
    simp only [Piece.textLengths_cons, Piece.textLength, Node.plainText]
    omega
  image url title rest ns ns' h := by
    refine ⟨rfl, ?_⟩
    simp only [Piece.textLengths_cons, Piece.textLength, Node.plainText, Leaf.plainText]
    omega
  nodes ctx cs cs' h := h.length_le loc (isFresh_of_mem_scanFrom none none cs)

section

variable {settings : Settings} {loc : Location} {room : Nat} {front behind rest r s : List Char} {c d : Char}
  (h : Meets settings loc r room front behind rest) (hr : Denotes r c) (hs : Denotes s d)
include h hr hs

theorem nodesApart_of_meets (hspace : shown r c = [' '] ∨ shown s d = [' '] → ¬EndsLine rest) :
    NodesApart (shown r c) (shown s d) (readWithin settings loc room (front ++ (r ++ behind)))
      (readWithin settings loc room (front ++ (s ++ behind))) := by
  refine h.carry (carries_apart loc _ _) hr.numeral.isFiller hs.numeral.isFiller fun {ctx _ done _ pending} hplace => ?_
  rw [hplace.scan_reference hr hr, hplace.scan_reference hr hs]
  refine OneApart.append_left ?_ done
  refine oneApart_scanFrom ctx hr.shown_ne_nil hs.shown_ne_nil (pending.getD []) (some ';') [] rest ?_
  intro hlast _
  exact hspace (hlast.imp (fun h => (hr.eq_space h).2) fun h => (hs.eq_space h).2)

theorem length_le_of_meets (hspace : shown r c = [' ']) (hother : d ≠ ' ') (hends : EndsLine rest) :
    (plainTexts (readWithin settings loc room (front ++ (r ++ behind)))).length + (shown s d).length ≤
      (plainTexts (readWithin settings loc room (front ++ (s ++ behind)))).length := by
  refine h.carry (carries_outgrown loc _) hr.numeral.isFiller hs.numeral.isFiller fun {ctx _ done _ pending} hplace => ?_
  rw [hplace.scan_reference hr hr, hplace.scan_reference hr hs, hspace]
  refine Outgrown.append_left ?_ done
  exact outgrown_scanFrom ctx hs.shown_ne_nil (fun hlast => hother (hs.eq_space hlast).1) (pending.getD []) hends
    (some ';') (List.forall_mem_nil _)

end

/-- Wherever the scan comes to a numeric reference to one character, a reference to another character in its
place changes this text and nothing else, unless a space that one of the two denotes ends a line. -/
theorem reference_inert {settings : Settings} {loc : Location} {room : Nat} {front behind rest r s : List Char}
    {c d : Char} (h : Meets settings loc r room front behind rest) (hr : Denotes r c) (hs : Denotes s d)
    (hne : c ≠ d) :
    NodesApart (shown r c) (shown s d) (readWithin settings loc room (front ++ (r ++ behind)))
        (readWithin settings loc room (front ++ (s ++ behind))) ↔
      ((shown r c = [' '] ∨ shown s d = [' ']) → ¬EndsLine rest) := by
  refine ⟨?_, nodesApart_of_meets h hr hs⟩
  intro hapart hspace hends
  have hlength := hapart.plainTexts.length_eq
  have heq {r : List Char} {c : Char} (hr : Denotes r c) (hspace : shown r c = [' ']) : c = ' ' :=
    (hr.eq_space (by rw [hspace]; rfl)).1
  rcases hspace with hspace | hspace
  · have hother : d ≠ ' ' := fun hd => hne ((heq hr hspace).trans hd.symm)
    have hlost := length_le_of_meets h hr hs hspace hother hends
    rw [hspace, List.length_singleton] at hlength
    omega
  · have hother : c ≠ ' ' := fun hc => hne (hc.trans (heq hs hspace).symm)
    have hreplaced := h.replace hr.numeral.isFiller hs.numeral.isFiller
    have hlost := length_le_of_meets hreplaced hs hr hspace hother hends
    rw [hspace, List.length_singleton] at hlength
    omega

/-- In a label, a space for an asterisk. -/
theorem labelledAsterisk_inert :
    Meets {} ⟨1, 1, none, none⟩ "&#42;".toList 32 "[a".toList "](u)".toList [] ∧
    Denotes "&#42;".toList '*' ∧ Denotes "&#x20;".toList ' ' ∧ '*' ≠ ' ' ∧
    NodesApart (shown "&#42;".toList '*') (shown "&#x20;".toList ' ')
      (readWithin {} ⟨1, 1, none, none⟩ 32 ("[a".toList ++ ("&#42;".toList ++ "](u)".toList)))
      (readWithin {} ⟨1, 1, none, none⟩ 32 ("[a".toList ++ ("&#x20;".toList ++ "](u)".toList))) := by
  have hmeets : Meets {} ⟨1, 1, none, none⟩ "&#42;".toList 32 "[a".toList "](u)".toList [] := by
    have hplace : Stands (contextWithin {} ⟨1, 1, none, none⟩ 31) ("a".toList ++ ("&#42;".toList ++ [])) [] (some 'a')
        (some ['a']) ("&#42;".toList ++ []) := by
      have hstep : step (contextWithin {} ⟨1, 1, none, none⟩ 31) none 'a' ("&#42;".toList ++ []) =
          ⟨.text ['a'], 0⟩ := rfl
      exact Stands.start.text hstep
    have hlink : link? ("a".toList ++ ("&#42;".toList ++ "](u)".toList)) =
        some (⟨"a".toList ++ ("&#42;".toList ++ []), ⟨"u".toList, none⟩⟩, 10) := by
      have hclosing : toClosingBracket? 0 ("a&#42;".toList ++ ']' :: "(u)".toList) = some "a&#42;".toList.length := by
        decide +kernel
      have htarget : target? "(u)".toList = some (⟨"u".toList, none⟩, 3) := by decide +kernel
      exact link?_of_closing hclosing htarget
    exact @Meets.label _ _ _ 31 [] ['['] _ _ _ _ _ _ _ _ _ (.inl rfl) .start hlink (.here hplace)
  have hasterisk : Denotes "&#42;".toList '*' := by
    refine ⟨@IsNumeral.decimal ['4', '2'] (by decide) (by decide), ?_⟩
    decide +kernel
  have hspace : Denotes "&#x20;".toList ' ' := by
    refine ⟨@IsNumeral.hex 'x' (.inl rfl) ['2', '0'] (by decide) (by decide), ?_⟩
    decide +kernel
  have hend : ¬EndsLine [] := by
    intro h
    cases h
  have hne : '*' ≠ ' ' := by decide
  exact ⟨hmeets, hasterisk, hspace, hne, (reference_inert hmeets hasterisk hspace hne).2 fun _ => hend⟩

/-- A space that a reference denotes counts at the end of a line, and breaks it hard. -/
theorem endingSpace_not_inert :
    Meets {} ⟨1, 1, none, none⟩ "&#32;".toList 32 "a ".toList "\nb".toList "\nb".toList ∧
    Denotes "&#32;".toList ' ' ∧ Denotes "&#65;".toList 'A' ∧
    readWithin {} ⟨1, 1, none, none⟩ 32 ("a ".toList ++ ("&#32;".toList ++ "\nb".toList)) =
      [.leaf ⟨1, 1, none, none⟩ (.text "a"), .leaf ⟨1, 1, none, none⟩ .lineBreak,
        .leaf ⟨1, 1, none, none⟩ (.text "b")] ∧
    readWithin {} ⟨1, 1, none, none⟩ 32 ("a ".toList ++ ("&#65;".toList ++ "\nb".toList)) =
      [.leaf ⟨1, 1, none, none⟩ (.text "a A"), .leaf ⟨1, 1, none, none⟩ .softBreak,
        .leaf ⟨1, 1, none, none⟩ (.text "b")] ∧
    ¬NodesApart (shown "&#32;".toList ' ') (shown "&#65;".toList 'A')
      (readWithin {} ⟨1, 1, none, none⟩ 32 ("a ".toList ++ ("&#32;".toList ++ "\nb".toList)))
      (readWithin {} ⟨1, 1, none, none⟩ 32 ("a ".toList ++ ("&#65;".toList ++ "\nb".toList))) := by
  have hplace : Stands (contextWithin {} ⟨1, 1, none, none⟩ 32) ("a ".toList ++ ("&#32;".toList ++ "\nb".toList)) []
      (some ' ') (some [' ', 'a']) ("&#32;".toList ++ "\nb".toList) := by
    have hletter : step (contextWithin {} ⟨1, 1, none, none⟩ 32) none 'a' (' ' :: ("&#32;".toList ++ "\nb".toList)) =
        ⟨.text ['a'], 0⟩ := rfl
    have hblank : step (contextWithin {} ⟨1, 1, none, none⟩ 32) (some 'a') ' ' ("&#32;".toList ++ "\nb".toList) =
        ⟨.text [' '], 0⟩ := rfl
    exact (Stands.start.text hletter).text hblank
  have hspace : readWithin {} ⟨1, 1, none, none⟩ 32 ("a ".toList ++ ("&#32;".toList ++ "\nb".toList)) =
      [.leaf ⟨1, 1, none, none⟩ (.text "a"), .leaf ⟨1, 1, none, none⟩ .lineBreak,
        .leaf ⟨1, 1, none, none⟩ (.text "b")] := by decide +kernel
  have hletter : readWithin {} ⟨1, 1, none, none⟩ 32 ("a ".toList ++ ("&#65;".toList ++ "\nb".toList)) =
      [.leaf ⟨1, 1, none, none⟩ (.text "a A"), .leaf ⟨1, 1, none, none⟩ .softBreak,
        .leaf ⟨1, 1, none, none⟩ (.text "b")] := by decide +kernel
  refine ⟨.here hplace, ⟨@IsNumeral.decimal ['3', '2'] (by decide) (by decide), by decide +kernel⟩,
    ⟨@IsNumeral.decimal ['6', '5'] (by decide) (by decide), by decide +kernel⟩, hspace, hletter, ?_⟩
  intro h
  rw [hspace, hletter] at h
  have hkinds := h.kinds
  revert hkinds
  decide

end MarkdownOutline.Inline
