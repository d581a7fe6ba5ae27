import MarkdownOutline.Proofs.Inline.Inert

namespace MarkdownOutline.Inline

open Text

/-- The characters that stand behind no backslash, and a backslash with nothing behind it. -/
def exposed : List Char → List Char
  | [] => []
  | '\\' :: _ :: cs => exposed cs
  | c :: cs => c :: exposed cs

/-- What a stretch of a bare destination is like apart from its escapes, with `depth` parentheses open in front
of it and `left` behind it. -/
structure IsBare (depth : Nat) (cs : List Char) (left : Nat) : Prop where
  blank : ∀ c ∈ cs, isBlank c = false
  whole : '\\' ∉ cs
  closes : ∀ front, front <+: cs → front.count ')' ≤ depth + front.count '('
  count : depth + cs.count '(' = left + cs.count ')'

def EndsBare (left : Nat) (behind : List Char) : Prop :=
  ∃ c after, behind = c :: after ∧ (isBlank c = true ∨ c = ')' ∧ left = 0)

theorem isBare_nil_iff {depth left : Nat} : IsBare depth [] left ↔ depth = left := by
  refine ⟨fun h => h.count, ?_⟩
  rintro rfl
  refine ⟨List.forall_mem_nil _, List.not_mem_nil, fun front hfront => ?_, rfl⟩
  rw [List.prefix_nil.1 hfront]
  exact Nat.zero_le _

theorem isBare_cons_iff {depth left : Nat} {c : Char} {cs : List Char} : IsBare depth (c :: cs) left ↔
    isBlank c = false ∧ c ≠ '\\' ∧
      ∃ next, next + [c].count ')' = depth + [c].count '(' ∧ IsBare next cs left := by
  have hcount (mark : Char) (front : List Char) : (c :: front).count mark = [c].count mark + front.count mark :=
    @List.count_append _ _ _ [c] _
  constructor
  · intro h
    obtain ⟨hc, hblank⟩ := List.forall_mem_cons.1 h.blank
    obtain ⟨hslash, hwhole⟩ := not_or.1 (mt List.mem_cons.2 h.whole)
    have hfirst := h.closes [c] (List.prefix_append [c] cs)
    refine ⟨hc, Ne.symm hslash, depth + [c].count '(' - [c].count ')', by omega, hblank, hwhole, ?_, ?_⟩
    · intro front hfront
      have := h.closes (c :: front) (List.cons_prefix_cons.2 ⟨rfl, hfront⟩)
      rw [hcount ')' front, hcount '(' front] at this
      omega
    · have := h.count
      rw [hcount ')' cs, hcount '(' cs] at this
      omega
  · rintro ⟨hc, hslash, next, hnext, h⟩
    refine ⟨List.forall_mem_cons.2 ⟨hc, h.blank⟩, mt List.mem_cons.1 (not_or.2 ⟨Ne.symm hslash, h.whole⟩), ?_, ?_⟩
    · intro front hfront
      rcases List.prefix_cons_iff.1 hfront with rfl | ⟨front, rfl, hprefix⟩
      · exact Nat.zero_le _
      · have := h.closes front hprefix
        rw [hcount ')' front, hcount '(' front]
        omega
    · have := h.count
      rw [hcount ')' cs, hcount '(' cs]
      omega

theorem endsBare_cons_iff {left : Nat} {c : Char} {after : List Char} :
    EndsBare left (c :: after) ↔ isBlank c = true ∨ c = ')' ∧ left = 0 := by
  simp [EndsBare]

theorem bareLength_eq_zero_iff {depth : Nat} {behind : List Char} (h : behind ≠ []) :
    bareLength depth behind = 0 ↔ EndsBare depth behind := by
  obtain ⟨c, after, rfl⟩ := List.exists_cons_of_ne_nil h
  rw [endsBare_cons_iff]
  by_cases hslash : c = '\\'
  · subst hslash
    have hblank : isBlank '\\' = false := rfl
    have hlast : bareLength depth ['\\'] = 1 := by cases depth <;> rfl
    cases after with
    | nil => simp [hlast, hblank]
    | cons d after => simp [bareLength, hblank]
  · rw [bareLength_cons hslash]
    split_ifs with hblank hopening hclosing hdepth <;> simp_all

/-- A character that does not end the destination changes the number of open parentheses only. -/
theorem bareLength_step {depth next : Nat} {c : Char} (hblank : isBlank c = false) (hslash : c ≠ '\\')
    (hnext : next + [c].count ')' = depth + [c].count '(') (cs : List Char) :
    bareLength depth (c :: cs) = bareLength next cs + 1 := by
  rw [bareLength_cons hslash, hblank, if_neg Bool.false_ne_true]
  split_ifs with hopening hclosing hdepth
  · subst hopening
    obtain rfl : next = depth + 1 := hnext
    rfl
  · subst hclosing hdepth
    cases hnext
  · subst hclosing
    have hone : next + 1 = depth := hnext
    rw [← hone, Nat.add_sub_cancel]
  · have hsame : next = depth := by simpa [hopening, hclosing] using hnext
    rw [hsame]

/-- A destination goes on until it cannot, and what it holds behind backslashes plays no part. -/
theorem bareLength_append_iff {depth : Nat} {source behind : List Char} (h : behind ≠ []) :
    bareLength depth (source ++ behind) = source.length ↔
      ∃ left, IsBare depth (exposed source) left ∧ EndsBare left behind := by
  fun_induction exposed source generalizing depth with
  | case1 =>
      simp only [isBare_nil_iff, exists_eq_left']
      exact bareLength_eq_zero_iff h
  | case2 c cs ih =>
      rw [List.cons_append, List.cons_append, bareLength.eq_2, ← ih]
      simp
  | case3 c cs hmatch ih =>
      simp only [isBare_cons_iff]
      constructor
      · intro hlength
        have hslash : c ≠ '\\' := by
          -- A backslash at the end would take what stands behind the destination.
          rintro rfl
          obtain rfl : cs = [] := by
            cases cs with
            | nil => rfl
            | cons d cs => exact (hmatch d cs rfl rfl).elim
          obtain ⟨d, after, rfl⟩ := List.exists_cons_of_ne_nil h
          rw [List.singleton_append, bareLength.eq_2] at hlength
          cases hlength
        have hgoes : ¬EndsBare depth (c :: (cs ++ behind)) := by
          rw [← bareLength_eq_zero_iff (List.cons_ne_nil _ _), ← List.cons_append, hlength]
          exact Nat.succ_ne_zero _
        rw [endsBare_cons_iff, not_or, Bool.not_eq_true] at hgoes
        obtain ⟨hblank, hclosing⟩ := hgoes
        have henough : [c].count ')' ≤ depth + [c].count '(' := by
          by_cases hc : c = ')'
          · subst hc
            simp at hclosing ⊢
            omega
          · simp [hc]
        have hnext : depth + [c].count '(' - [c].count ')' + [c].count ')' = depth + [c].count '(' :=
          Nat.sub_add_cancel henough
        rw [List.cons_append, bareLength_step hblank hslash hnext, List.length_cons, Nat.add_right_cancel_iff,
          ih] at hlength
        obtain ⟨left, hbare, hends⟩ := hlength
        exact ⟨left, ⟨hblank, hslash, _, hnext, hbare⟩, hends⟩
      · rintro ⟨left, ⟨hblank, hslash, next, hnext, hbare⟩, hends⟩
        rw [List.cons_append, bareLength_step hblank hslash hnext, ih.2 ⟨left, hbare, hends⟩]
        rfl

theorem destination?_bare {cs : List Char} (h : cs.head? ≠ some '<') :
    destination? cs = some (cs.take (bareLength 0 cs), cs.drop (bareLength 0 cs)) := by
  refine destination?.eq_2 cs ?_
  rintro rest rfl
  exact h rfl

theorem exists_of_title? {behind rest after : List Char} {title : Option (List Char)}
    (htitle : title? behind = some (title, rest)) (hend : skipLinkSpace rest = ')' :: after) :
    ∃ c more, behind = c :: more ∧ (isLinkSpace c = true ∨ c = ')') := by
  cases behind with
  | nil =>
      cases htitle
      cases hend
  | cons c more =>
      refine ⟨c, more, rfl, ?_⟩
      by_cases hspace : isLinkSpace c = true
      · exact .inl hspace
      · have hskip : skipLinkSpace (c :: more) = c :: more := List.dropWhile_cons_of_neg hspace
        simp only [title?, hskip, List.length_cons, Nat.lt_irrefl, if_false, Option.some.injEq, Prod.mk.injEq]
          at htitle
        obtain ⟨_, rfl⟩ := htitle
        rw [hskip] at hend
        exact .inr (List.cons.inj hend).1

/-- A bare destination that is read: what it is like, and what may stand behind it. -/
theorem exists_of_target? {inner : List Char} {target : Target} {taken : Nat}
    (h : target? ('(' :: inner) = some (target, taken)) (hbare : (skipLinkSpace inner).head? ≠ some '<') :
    ∃ source behind left, destination? (skipLinkSpace inner) = some (source, behind) ∧
      skipLinkSpace inner = source ++ behind ∧ target.url = unescape source ∧
      IsBare 0 (exposed source) left ∧ (left = 0 ∨ ∃ c ∈ behind.head?, isLinkSpace c = true) := by
  simp only [target?, destination?_bare hbare, Option.bind_eq_bind, Option.bind_some, Option.bind_eq_some_iff] at h
  obtain ⟨⟨title, rest⟩, htitle, h⟩ := h
  split at h
  · rename_i after hend
    cases h
    obtain ⟨c, more, hbehind, hc⟩ := exists_of_title? htitle hend
    have hsplit := List.take_append_drop (bareLength 0 (skipLinkSpace inner)) (skipLinkSpace inner)
    have hne : (skipLinkSpace inner).drop (bareLength 0 (skipLinkSpace inner)) ≠ [] := by
      rw [hbehind]
      exact List.cons_ne_nil _ _
    have hlength : bareLength 0 (skipLinkSpace inner) ≤ (skipLinkSpace inner).length := by
      by_contra hlonger
      exact hne (List.drop_eq_nil_of_le (by omega))
    obtain ⟨left, hleft, hends⟩ := (bareLength_append_iff hne).1 (by
      rw [hsplit, List.length_take_of_le hlength])
    refine ⟨_, _, left, destination?_bare hbare, hsplit.symm, rfl, hleft, ?_⟩
    rw [hbehind, endsBare_cons_iff] at hends
    rw [hbehind]
    rcases hc with hspace | rfl
    · exact .inr ⟨c, rfl, hspace⟩
    · exact .inl (hends.resolve_left (by decide)).2
  · cases h

theorem skipLinkSpace_closing {space : List Char} (h : ∀ c ∈ space, isLinkSpace c = true) (after : List Char) :
    skipLinkSpace (space ++ ')' :: after) = ')' :: after := by
  rw [skipLinkSpace, List.dropWhile_append_of_pos h]
  rfl

theorem title?_closing {space : List Char} (h : ∀ c ∈ space, isLinkSpace c = true) (after : List Char) :
    title? (space ++ ')' :: after) = some (none, ')' :: after) := by
  have hcloser : titleCloser? ')' = none := rfl
  simp only [title?, skipLinkSpace_closing h, hcloser, ite_self]

theorem isLinkSpace_head_of_isBare {source : List Char} {left : Nat} (h : IsBare 0 (exposed source) left) :
    ∀ c ∈ source.head?, isLinkSpace c = false := by
  fun_cases exposed source with
  | case1 => simp
  | case2 d cs => simp [isLinkSpace]
  | case3 c cs hmatch =>
      intro d hd
      obtain rfl : c = d := Option.some.inj hd
      rw [exposed.eq_3 _ _ hmatch] at h
      exact isLinkSpace_of_not_blank (h.blank c List.mem_cons_self)

theorem endsBare_closing {space : List Char} (h : ∀ c ∈ space, isLinkSpace c = true) {left : Nat}
    (hclosed : space = [] → left = 0) (after : List Char) : EndsBare left (space ++ ')' :: after) := by
  cases space with
  | nil => exact ⟨')', after, rfl, .inr ⟨rfl, hclosed rfl⟩⟩
  | cons c space =>
      have hlink := (List.forall_mem_cons.1 h).1
      have hblank : isBlank c = true := by
        by_contra hnot
        rw [isLinkSpace_of_not_blank (Bool.not_eq_true _ ▸ hnot)] at hlink
        cases hlink
      exact ⟨c, _, rfl, .inl hblank⟩

theorem exists_of_isBare {source space : List Char} {left : Nat} (h : IsBare 0 (exposed source) left)
    (hangle : source.head? ≠ some '<') (hspace : ∀ c ∈ space, isLinkSpace c = true)
    (hclosed : space = [] → left = 0) (after : List Char) :
    ∃ more, (∀ c ∈ more, isLinkSpace c = true) ∧
      destination? (skipLinkSpace (source ++ (space ++ ')' :: after))) = some (source, more ++ ')' :: after) := by
  cases source with
  | nil =>
      refine ⟨[], List.forall_mem_nil _, ?_⟩
      rw [List.nil_append, skipLinkSpace_closing hspace]
      exact destination?_bare (by simp)
  | cons c cs =>
      refine ⟨space, hspace, ?_⟩
      have hfirst := isLinkSpace_head_of_isBare h c rfl
      have hlength := (bareLength_append_iff (by simp)).2 ⟨left, h, endsBare_closing hspace hclosed after⟩
      have hskip : skipLinkSpace (c :: cs ++ (space ++ ')' :: after)) = c :: cs ++ (space ++ ')' :: after) :=
        List.dropWhile_cons_of_neg (by simp [hfirst])
      have hhead : (c :: cs ++ (space ++ ')' :: after)).head? ≠ some '<' := hangle
      rw [hskip, destination?_bare hhead, hlength, List.take_left, List.drop_left]

theorem target?_of_isBare {source space : List Char} {left : Nat} (h : IsBare 0 (exposed source) left)
    (hangle : source.head? ≠ some '<') (hspace : ∀ c ∈ space, isLinkSpace c = true)
    (hclosed : space = [] → left = 0) (after : List Char) :
    target? ('(' :: (source ++ (space ++ ')' :: after))) =
      some (⟨unescape source, none⟩, source.length + space.length + 2) := by
  obtain ⟨more, hmore, hdestination⟩ := exists_of_isBare h hangle hspace hclosed after
  have hclosing := skipLinkSpace_closing (List.forall_mem_nil (fun c => isLinkSpace c = true)) after
  rw [List.nil_append] at hclosing
  simp only [target?, hdestination, title?_closing hmore, hclosing, Option.bind_eq_bind, Option.bind_some,
    Option.some.injEq, Prod.mk.injEq, true_and, List.length_cons, List.length_append]
  omega

/-- A link or an image that is read in a text in which labels may nest `room` deep, itself or in the label of
another one. Behind its opening bracket stands `rest`. -/
inductive Refers (settings : Settings) (loc : Location) : Nat → List Char → List Char → Reference → Prop
  | here {room : Nat} {text opening rest : List Char} {done : List Piece} {before : Option Char}
      {pending : Option (List Char)} {reference : Reference} {taken : Nat}
      (hopening : opening = ['['] ∨ opening = ['!', '['])
      (h : Stands (contextWithin settings loc (room + 1)) text done before pending (opening ++ rest))
      (hlink : link? rest = some (reference, taken)) : Refers settings loc (room + 1) text rest reference
  | label {room : Nat} {text opening outside rest : List Char} {done : List Piece} {before : Option Char}
      {pending : Option (List Char)} {outer reference : Reference} {taken : Nat}
      (hopening : opening = ['['] ∨ opening = ['!', '['])
      (h : Stands (contextWithin settings loc (room + 1)) text done before pending (opening ++ outside))
      (hlink : link? outside = some (outer, taken)) (hinner : Refers settings loc room outer.label rest reference) :
      Refers settings loc (room + 1) text rest reference

theorem Refers.exists_link? {settings : Settings} {loc : Location} {room : Nat} {text rest : List Char}
    {reference : Reference} (h : Refers settings loc room text rest reference) :
    ∃ taken, link? rest = some (reference, taken) := by
  induction h with
  | here _ _ hlink => exact ⟨_, hlink⟩
  | label _ _ _ _ ih => exact ih

theorem exists_cons_of_target? {cs : List Char} {target : Target} {taken : Nat}
    (h : target? cs = some (target, taken)) : ∃ inner, cs = '(' :: inner := by
  by_contra hnot
  rw [target?.eq_2 cs fun inner hcs => hnot ⟨inner, hcs⟩] at h
  cases h

theorem exists_target?_of_link? {rest : List Char} {reference : Reference} {taken : Nat}
    (h : link? rest = some (reference, taken)) :
    ∃ inner more, rest = reference.label ++ ']' :: '(' :: inner ∧
      target? ('(' :: inner) = some (reference.target, more) := by
  obtain ⟨behind, hrest, hclosing⟩ := exists_of_link? h
  have hdrop : rest.drop (reference.label.length + 1) = behind := by
    rw [hrest, ← List.drop_drop, List.drop_left]
    rfl
  simp only [link?, hclosing, hdrop, Option.bind_eq_bind, Option.bind_some, Option.bind_eq_some_iff] at h
  obtain ⟨⟨target, more⟩, htarget, h⟩ := h
  obtain ⟨hreference, _⟩ := Prod.mk.inj (Option.some.inj h)
  have hsame : reference.target = target := by rw [← hreference]
  rw [← hsame] at htarget
  obtain ⟨inner, rfl⟩ := exists_cons_of_target? htarget
  exact ⟨inner, more, hrest, htarget⟩

theorem read_of_isBare (settings : Settings) (loc : Location) {label source space : List Char} {left : Nat}
    (hline : '\n' ∉ label) (hbare : IsBare 0 (exposed source) left) (hangle : source.head? ≠ some '<')
    (hspace : ∀ c ∈ space, isLinkSpace c = true) (hclosed : space = [] → left = 0) :
    read settings loc ('[' :: (backslash label ++ ']' :: '(' :: (source ++ (space ++ [')'])))) =
        [.branch loc (.link (.ofList (unescape source)) none) (textNodes loc label)] ∧
      read settings loc ('!' :: '[' :: (backslash label ++ ']' :: '(' :: (source ++ (space ++ [')'])))) =
        [.leaf loc (.image (.ofList (unescape source)) (.ofList label) none)] := by
  have hlink : link? (backslash label ++ ']' :: '(' :: (source ++ (space ++ [')']))) =
      some (⟨backslash label, ⟨unescape source, none⟩⟩,
        (backslash label ++ ']' :: '(' :: (source ++ (space ++ [')']))).length) := by
    rw [link?_append (escaped_label label) (target?_of_isBare hbare hangle hspace hclosed [])]
    simp
    omega
  have hlabel := readWithin_backslash settings loc (maxLabelNesting - 1) hline
  refine ⟨?_, ?_⟩
  · rw [read_eq_link settings loc hlink, hlabel]
    rfl
  · rw [read_eq_image settings loc hlink, hlabel, plainTexts_textNodes]
    rfl

/-- Every bare destination that is read, of a link or an image at any depth, has no white space and no bare
backslash apart from its escapes; none of its closing parentheses is the first of more than it opens; and all of
them are closed unless space stands behind it. Every destination of this kind is read. -/
theorem bare_destination (settings : Settings) (loc : Location) :
    (∀ {room : Nat} {text rest : List Char} {reference : Reference},
      Refers settings loc room text rest reference →
        ∃ inner, rest = reference.label ++ ']' :: '(' :: inner ∧
          ((skipLinkSpace inner).head? ≠ some '<' →
            ∃ source behind left, destination? (skipLinkSpace inner) = some (source, behind) ∧
              skipLinkSpace inner = source ++ behind ∧ reference.target.url = unescape source ∧
              IsBare 0 (exposed source) left ∧ (left = 0 ∨ ∃ c ∈ behind.head?, isLinkSpace c = true))) ∧
    ∀ (label : List Char) {source space : List Char} {left : Nat}, '\n' ∉ label → IsBare 0 (exposed source) left →
      source.head? ≠ some '<' → (∀ c ∈ space, isLinkSpace c = true) → (space = [] → left = 0) →
        read settings loc ('[' :: (backslash label ++ ']' :: '(' :: (source ++ (space ++ [')'])))) =
            [.branch loc (.link (.ofList (unescape source)) none) (textNodes loc label)] ∧
          read settings loc ('!' :: '[' :: (backslash label ++ ']' :: '(' :: (source ++ (space ++ [')'])))) =
            [.leaf loc (.image (.ofList (unescape source)) (.ofList label) none)] := by
  refine ⟨?_, fun label _ _ _ => read_of_isBare settings loc⟩
  intro room text rest reference h
  obtain ⟨taken, hlink⟩ := h.exists_link?
  obtain ⟨inner, more, hrest, htarget⟩ := exists_target?_of_link? hlink
  exact ⟨inner, hrest, exists_of_target? htarget⟩

/-- A link in the label of an image, with a parenthesis of its own behind a backslash and one bare. -/
theorem nestedDestination_bare :
    Refers {} ⟨1, 1, none, none⟩ 32 "![[x](\\)(b )](u)".toList "x](\\)(b )".toList
      ⟨"x".toList, ⟨")(b".toList, none⟩⟩ ∧
    (∃ inner, "x](\\)(b )".toList = "x".toList ++ ']' :: '(' :: inner ∧
      ((skipLinkSpace inner).head? ≠ some '<' →
        ∃ source behind left, destination? (skipLinkSpace inner) = some (source, behind) ∧
          skipLinkSpace inner = source ++ behind ∧ ")(b".toList = unescape source ∧
          IsBare 0 (exposed source) left ∧ (left = 0 ∨ ∃ c ∈ behind.head?, isLinkSpace c = true))) ∧
    exposed "\\)(b".toList = "(b".toList ∧ IsBare 0 (exposed "\\)(b".toList) 1 ∧
    read {} ⟨1, 1, none, none⟩ "[x](\\)(b )".toList =
      [.branch ⟨1, 1, none, none⟩ (.link ")(b" none) [.leaf ⟨1, 1, none, none⟩ (.text "x")]] := by
  have hrefers : Refers {} ⟨1, 1, none, none⟩ 32 "![[x](\\)(b )](u)".toList "x](\\)(b )".toList
      ⟨"x".toList, ⟨")(b".toList, none⟩⟩ := by
    have houter : link? "[x](\\)(b )](u)".toList = some (⟨"[x](\\)(b )".toList, ⟨"u".toList, none⟩⟩, 14) := by
      have hclosing : toClosingBracket? 0 ("[x](\\)(b )".toList ++ ']' :: "(u)".toList) = some 10 := by
        decide +kernel
      have htarget : target? "(u)".toList = some (⟨"u".toList, none⟩, 3) := by decide +kernel
      exact link?_of_closing hclosing htarget
    have hinner : link? "x](\\)(b )".toList = some (⟨"x".toList, ⟨")(b".toList, none⟩⟩, 9) := by
      have hclosing : toClosingBracket? 0 ("x".toList ++ ']' :: "(\\)(b )".toList) = some 1 := by decide +kernel
      have htarget : target? "(\\)(b )".toList = some (⟨")(b".toList, none⟩, 7) := by decide +kernel
      exact link?_of_closing hclosing htarget
    exact .label (.inr rfl) .start houter (.here (.inl rfl) .start hinner)
  have hbare : IsBare 0 (exposed "\\)(b".toList) 1 :=
    isBare_cons_iff.2 ⟨rfl, by decide, 1, rfl, isBare_cons_iff.2 ⟨rfl, by decide, 1, rfl, isBare_nil_iff.2 rfl⟩⟩
  refine ⟨hrefers, (bare_destination {} ⟨1, 1, none, none⟩).1 hrefers, rfl, hbare, ?_⟩
  have hspace : ∀ c ∈ [' '], isLinkSpace c = true := List.forall_mem_singleton.2 rfl
  exact ((bare_destination {} ⟨1, 1, none, none⟩).2 "x".toList (by decide) hbare (by decide) hspace (by decide)).1

/-- White space behind a backslash and an open parenthesis in front of white space are both taken. -/
theorem spacedDestination_read :
    read {} ⟨1, 1, none, none⟩ "[x](a\\ (b )".toList =
      [.branch ⟨1, 1, none, none⟩ (.link "a\\ (b" none) [.leaf ⟨1, 1, none, none⟩ (.text "x")]] ∧
    destination? "a\\ (b )".toList = some ("a\\ (b".toList, " )".toList) ∧
    ¬(∀ c ∈ "a\\ (b".toList, isBlank c = false) ∧
    (exposed "a\\ (b".toList).count '(' ≠ (exposed "a\\ (b".toList).count ')' := by
  refine ⟨by decide +kernel, by decide +kernel, ?_, by decide⟩
  intro h
  cases h ' ' (by decide)

end MarkdownOutline.Inline
