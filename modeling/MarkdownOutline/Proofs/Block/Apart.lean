import MarkdownOutline.Proofs.Block.Beginning

namespace MarkdownOutline.Block

def nextLine (stop : Int) : List Node → Int
  | [] => stop
  | next :: _ => next.loc.line

def Passage.bullet? (p : Passage) (n : Int) : Option Bullet := ((p.lineAt? n).bind marker?).map Marker.bullet

theorem Passage.bullet?_eq_some_iff {p : Passage} {n : Int} {bullet : Bullet} : p.bullet? n = some bullet ↔
    ∃ l m, p.lineAt? n = some l ∧ marker? l = some m ∧ m.bullet = bullet := by
  simp only [bullet?, Option.map_eq_some_iff, Option.bind_eq_some_iff]
  constructor
  · rintro ⟨m, ⟨l, hl, hm⟩, hbullet⟩
    exact ⟨l, m, hl, hm, hbullet⟩
  · rintro ⟨l, m, hl, hm, hbullet⟩
    exact ⟨m, ⟨l, hl, hm⟩, hbullet⟩

structure ReadsItem (ctx : Context) (p : Passage) (bullet : Bullet) (item : Node) (stop : Int) : Prop where
  read : ∃ loc children first rest m, item = .branch loc .listItem children ∧ p.since loc.line = first :: rest ∧
    marker? first = some m ∧ m.bullet = bullet ∧
    stop = loc.line + (itemTail m.column (!isBlankLine m.content) rest).length + 1 ∧
    ctx.inner loc.line (p.inside item).lines = .ok children

/-- A marker behind an item sets it apart if a blank line or the item's bare marker is above. -/
structure Passage.SetsApart (p : Passage) (bullet : Bullet) (item : Node) (stop : Int) : Prop where
  bullet : p.bullet? stop = some bullet
  gap : p.IsBlankAt (stop - 1) ∨ item.children = [] ∧ stop = item.loc.line + 1

section

variable {ctx : Context} {p : Passage} {bullet : Bullet} {line : Int} {lines : List Line} {items : Items}

theorem length_dropTrailingBlank_lt_iff (lines : List Line) : (dropTrailingBlank lines).length < lines.length ↔
    ∃ l, lines.getLast? = some l ∧ isBlankLine l = true := by
  rcases List.eq_nil_or_concat lines with rfl | ⟨init, last, rfl⟩
  · simp [dropTrailingBlank]
  · simp only [List.concat_eq_append, List.getLast?_concat, Option.some.injEq, exists_eq_left', dropTrailingBlank,
      List.reverse_append, List.reverse_singleton, List.singleton_append, List.length_reverse]
    by_cases hblank : isBlankLine last = true
    · rw [List.dropWhile_cons_of_pos hblank]
      refine iff_of_true ?_ hblank
      have hle := (List.dropWhile_sublist (l := init.reverse) isBlankLine).length_le
      simp only [List.length_reverse] at hle
      simp only [List.length_append, List.length_singleton]
      omega
    · rw [List.dropWhile_cons_of_neg hblank]
      refine iff_of_false ?_ hblank
      simp

theorem nextLine_of_readItems (h : readItems ctx bullet line lines = .ok items) :
    nextLine (line + items.lines) items.nodes = line := by
  rw [readItems.eq_def] at h
  split at h
  · cases h
    exact Int.add_zero line
  · split at h
    · cases h
      exact Int.add_zero line
    · obtain ⟨children, _, h⟩ := exists_of_bind_eq_ok h
      obtain ⟨later, _, h⟩ := exists_of_bind_eq_ok h
      cases h
      rfl

theorem readsItem_of_readItems (h : readItems ctx bullet line lines = .ok items) (hp : p.since line = lines)
    {front back : List Node} {item : Node} (hnodes : items.nodes = front ++ item :: back) :
    ReadsItem ctx p bullet item (nextLine (line + items.lines) back) := by
  fun_induction readItems ctx bullet line lines generalizing items front with
  | case1 =>
      cases h
      simp at hnodes
  | case2 =>
      cases h
      simp at hnodes
  | case3 line first rest m hm tail kept trailing =>
      rename_i after ih
      obtain ⟨children, hread, h⟩ := exists_of_bind_eq_ok h
      obtain ⟨later, hlater, h⟩ := exists_of_bind_eq_ok h
      cases h
      have hafter : p.since (line + tail.length + 1) = after := Passage.since_behind hp tail.length
      have hstop : line + (tail.length + 1 + later.lines : Nat) = line + tail.length + 1 + later.lines := by omega
      simp only at hnodes ⊢
      rw [hstop]
      cases front with
      | cons node front =>
          obtain ⟨-, hnodes⟩ := List.cons.inj hnodes
          exact ih hlater hafter hnodes
      | nil =>
          obtain ⟨hitem, rfl⟩ := List.cons.inj hnodes
          rw [nextLine_of_readItems hlater, ← hitem]
          have hmarker := marker?_of_sibling? hm
          refine ⟨_, children, first, rest, m, rfl, hp, hmarker, ?_, rfl, ?_⟩
          · exact (sibling?_eq_some_iff.1 hm).2.1
          · rw [Passage.inside_of_opens hp (.item hmarker)]
            exact hread

/-- A list ends at a line that does not go on with it. -/
theorem stop_of_readItems (h : readItems ctx bullet line lines = .ok items) (hp : p.since line = lines)
    (hline : p.line ≤ line) {l : Line} (hl : p.lineAt? (line + items.lines) = some l) : sibling? bullet l = none := by
  fun_induction readItems ctx bullet line lines generalizing items with
  | case1 line =>
      cases h
      rw [Passage.lineAt?_add hline, hp] at hl
      cases hl
  | case2 line first rest hm =>
      cases h
      rw [Passage.lineAt?_add hline, hp] at hl
      cases hl
      exact hm
  | case3 line first rest m hm tail kept trailing =>
      rename_i after ih
      obtain ⟨children, _, h⟩ := exists_of_bind_eq_ok h
      obtain ⟨later, hlater, h⟩ := exists_of_bind_eq_ok h
      cases h
      have hafter : p.since (line + tail.length + 1) = after := Passage.since_behind hp tail.length
      refine ih hlater hafter (by omega) ?_
      rw [← hl]
      congr 1
      simp only
      omega

theorem exists_split_cons {α : Type} {P : α → List α → Prop} {x : α} {xs : List α} :
    (∃ front y back, x :: xs = front ++ y :: back ∧ P y back) ↔
      P x xs ∨ ∃ front y back, xs = front ++ y :: back ∧ P y back := by
  constructor
  · rintro ⟨front, y, back, hxs, hy⟩
    cases front with
    | nil =>
        cases hxs
        exact .inl hy
    | cons z front =>
        cases hxs
        exact .inr ⟨front, y, back, rfl, hy⟩
  · rintro (hx | ⟨front, y, back, rfl, hy⟩)
    · exact ⟨[], x, xs, rfl, hx⟩
    · exact ⟨x :: front, y, back, rfl, hy⟩

variable (hinner : ∀ line lines nodes, ctx.inner line lines = .ok nodes → Lays line lines nodes)
include hinner

/-- An item without children keeps no line, not even its first. -/
theorem kept_eq_nil_iff {kept : List Line} {children : List Node} (h : ctx.inner line kept = .ok children)
    (hkept : (∀ l ∈ kept, isBlankLine l = true) → kept = []) : kept = [] ↔ children = [] := by
  have hlays := hinner line kept children h
  constructor
  · rintro rfl
    rw [List.eq_nil_iff_forall_not_mem]
    intro child hchild
    have hbounds := hlays.stacked.bounds child hchild
    rw [List.length_nil, Int.natCast_zero] at hbounds
    omega
  · exact fun hnone => hkept (hlays.blank hnone)

/-- Lines behind an item are dropped if the line above the stop is blank, or the item's bare marker. -/
theorem trailing_iff {m : Marker} {first : Line} {rest : List Line} {children : List Node}
    (hp : p.since line = first :: rest) (hmarker : marker? first = some m) {tail : List Line}
    (htail : tail = itemTail m.column (!isBlankLine m.content) rest)
    (h : ctx.inner line (dropTrailingBlank (m.content :: tail)) = .ok children) :
    0 < tail.length + 1 - (dropTrailingBlank (m.content :: tail)).length ↔
      p.IsBlankAt (line + tail.length) ∨ children = [] ∧ tail.length = 0 := by
  rw [Nat.sub_pos_iff_lt, ← List.length_cons, length_dropTrailingBlank_lt_iff]
  cases hlength : tail.length with
  | zero =>
      have hfirst : ¬p.IsBlankAt line :=
        fun hblank => Passage.ne_of_isBlankAt hp (isBlankLine_of_marker? hmarker) hblank rfl
      rw [← length_dropTrailingBlank_lt_iff, ← kept_eq_nil_iff hinner h dropTrailingBlank_eq_nil,
        List.length_cons, hlength, Nat.lt_one_iff, List.length_eq_zero_iff, Int.natCast_zero, Int.add_zero]
      simp [hfirst]
  | succ k =>
      have hk : k < tail.length := by omega
      have hlast : (m.content :: tail).getLast? = some tail[k] := by
        rw [List.getLast?_eq_getElem?, List.length_cons, Nat.add_sub_cancel, hlength, List.getElem?_cons_succ,
          List.getElem?_eq_getElem hk]
      have hinside := List.getElem?_eq_getElem hk
      conv at hinside => lhs; rw [htail]
      obtain ⟨_, l, _, hl, htake⟩ := (Layer.item m.column).take?_of_tail hinside
      have hblank := Layer.isBlankLine_of_take? htake
      have hline : p.lineAt? (line + (k + 1 : Nat)) = some l := by
        rw [← hl, ← Passage.lineAt?_behind hp]
        congr 1
        omega
      rw [Passage.isBlankAt_iff hline, hlast]
      simp [hblank]

omit hinner in
theorem isBlankLine_of_dropTrailingBlank {lines : List Line} (h : dropTrailingBlank lines = []) :
    ∀ l ∈ lines, isBlankLine l = true := by
  rw [dropTrailingBlank, List.reverse_eq_nil_iff, List.dropWhile_eq_nil_iff] at h
  exact fun l hl => h l (List.mem_reverse.2 hl)

theorem stop_of_bare {item : Node} {stop : Int} (h : ReadsItem ctx p bullet item stop) (hnone : item.children = [])
    (hnext : p.bullet? (item.loc.line + 1) = some bullet) : stop = item.loc.line + 1 := by
  obtain ⟨loc, children, first, rest, m, rfl, hp, hmarker, _, hstop, hread⟩ := h.read
  change children = [] at hnone
  change p.bullet? (loc.line + 1) = some bullet at hnext
  change stop = loc.line + 1
  obtain ⟨l, next, hl, hm, _⟩ := Passage.bullet?_eq_some_iff.1 hnext
  rw [Passage.inside_of_opens hp (.item hmarker)] at hread
  have hkept := (kept_eq_nil_iff hinner hread dropTrailingBlank_eq_nil).2 hnone
  have hblank := isBlankLine_of_dropTrailingBlank hkept
  suffices htail : itemTail m.column (!isBlankLine m.content) rest = [] by
    rw [hstop, htail, List.length_nil]
    omega
  cases htail : itemTail m.column (!isBlankLine m.content) rest with
  | nil => rfl
  | cons inner others =>
      have hfirst : (itemTail m.column (!isBlankLine m.content) rest)[0]? = some inner := by
        rw [htail]
        rfl
      obtain ⟨_, outer, _, houter, htake⟩ := (Layer.item m.column).take?_of_tail hfirst
      have hline := Passage.lineAt?_behind hp 0
      rw [Int.natCast_zero, Int.add_zero, hl, houter] at hline
      cases hline
      have hinside := hblank inner (List.mem_cons_of_mem _ (by rw [Layer.tail, htail]; exact List.mem_cons_self ..))
      rw [Layer.isBlankLine_of_take? htake, isBlankLine_of_marker? hm] at hinside
      cases hinside

theorem loose_readItems (h : readItems ctx bullet line lines = .ok items) (hp : p.since line = lines) :
    items.loose = true ↔ ∃ front item back, items.nodes = front ++ item :: back ∧
      (hasGap (p.inside item).lines = true ∨ p.SetsApart bullet item (nextLine (line + items.lines) back)) := by
  fun_induction readItems ctx bullet line lines generalizing items with
  | case1 =>
      cases h
      simp
  | case2 =>
      cases h
      simp
  | case3 line first rest m hm tail kept trailing =>
      rename_i after ih
      obtain ⟨children, hread, h⟩ := exists_of_bind_eq_ok h
      obtain ⟨later, hlater, h⟩ := exists_of_bind_eq_ok h
      cases h
      have hafter : p.since (line + tail.length + 1) = after := Passage.since_behind hp tail.length
      have hstop : line + (tail.length + 1 + later.lines : Nat) = line + tail.length + 1 + later.lines := by omega
      simp only
      rw [hstop, exists_split_cons, ← ih hlater hafter, nextLine_of_readItems hlater]
      have hmarker := marker?_of_sibling? hm
      rw [Passage.inside_of_opens hp (.item hmarker)]
      have htrailing : 0 < trailing ↔ p.IsBlankAt (line + tail.length) ∨ children = [] ∧ tail.length = 0 :=
        trailing_iff hinner hp hmarker rfl hread
      have hbullet : ((after.head?.bind marker?).any fun next => next.bullet = bullet) = true ↔
          p.bullet? (line + tail.length + 1) = some bullet := by
        rw [Passage.bullet?, Passage.lineAt?, hafter]
        cases after.head?.bind marker? <;> simp
      have hapart : (0 < trailing ∧ ((after.head?.bind marker?).any fun next => next.bullet = bullet) = true) ↔
          p.SetsApart bullet (.branch ((ctx.at line).through (line + tail.length - trailing)) .listItem children)
            (line + tail.length + 1) := by
        rw [hbullet]
        constructor
        · rintro ⟨hpos, hnext⟩
          refine ⟨hnext, ?_⟩
          rw [Int.add_sub_cancel]
          rcases htrailing.1 hpos with hblank | ⟨hnone, hlength⟩
          · exact .inl hblank
          · refine .inr ⟨hnone, ?_⟩
            change line + tail.length + 1 = line + 1
            omega
        · rintro ⟨hnext, hgap⟩
          refine ⟨htrailing.2 ?_, hnext⟩
          rw [Int.add_sub_cancel] at hgap
          rcases hgap with hblank | ⟨hnone, hstop⟩
          · exact .inl hblank
          · refine .inr ⟨hnone, ?_⟩
            change line + tail.length + 1 = line + 1 at hstop
            omega
      simp only [Bool.or_eq_true, Bool.and_eq_true, decide_eq_true_eq]
      rw [hapart, or_comm (a := p.SetsApart ..)]
      rfl

end

theorem readsList_of_readBlock {ctx : Context} {line : Int} {first : Line} {rest : List Line} {loc : Location}
    {ordered tight : Bool} {start : Int} {nodes : List Node} {more : Nat}
    (h : readBlock ctx line first rest = .ok ⟨.branch loc (.list ordered start tight) nodes, more⟩) :
    ∃ m items, marker? first = some m ∧ readItems ctx m.bullet line (first :: rest) = .ok items ∧
      items.nodes = nodes ∧ tight = !items.loose ∧ 0 < items.lines ∧ loc.last + 1 = line + items.lines := by
  rw [readBlock_eq] at h
  cases hopener : opener first with
  | item m =>
      rw [hopener] at h
      obtain ⟨items, hitems, h⟩ := exists_of_bind_eq_ok h
      have hlines := lines_pos_of_readItems (sibling?_of_opener hopener) hitems
      cases h
      refine ⟨m, items, (marker?_of_opener hopener).1, hitems, rfl, rfl, hlines, ?_⟩
      change line + (items.lines - 1 : Nat) + 1 = _
      omega
  | quote inner =>
      rw [hopener] at h
      obtain ⟨nodes, _, h⟩ := exists_of_bind_eq_ok h
      cases h
  | text =>
      rw [hopener] at h
      obtain ⟨tail, level, htail⟩ : ∃ tail level, paragraphTail rest = (tail, level) := ⟨_, _, rfl⟩
      simp only [Opener.read, paragraphBlock, htail] at h
      cases level <;> cases h
  | _ =>
      rw [hopener] at h
      cases h

end MarkdownOutline.Block
