import MarkdownOutline.Proofs.Inline.Literal

namespace MarkdownOutline.Inline

open Text

/-- A way to write a text: any mark may stand behind a backslash, and the other characters are bare. -/
inductive Escaped (Bare : Char → Prop) : List Char → List Char → Prop
  | nil : Escaped Bare [] []
  | bare {c source text} : Bare c → Escaped Bare source text → Escaped Bare (c :: source) (c :: text)
  | mark {c source text} : isAsciiPunctuation c = true → Escaped Bare source text →
      Escaped Bare ('\\' :: c :: source) (c :: text)

/-- Behind a backslash every mark loses its meaning; `Bare` speaks of the other characters only. -/
theorem escaped_backslash {Bare : Char → Prop} {text : List Char}
    (h : ∀ c ∈ text, isAsciiPunctuation c = false → Bare c) : Escaped Bare (backslash text) text := by
  induction text with
  | nil => exact .nil
  | cons c text ih =>
      obtain ⟨hc, htext⟩ := List.forall_mem_cons.1 h
      rw [backslash_cons]
      rcases backslashChar_cases c with ⟨hmark, hsource⟩ | ⟨hplain, hsource⟩
      · rw [hsource]
        exact .mark hmark (ih htext)
      · rw [hsource]
        exact .bare (hc hplain) (ih htext)

theorem escaped_self {Bare : Char → Prop} {text : List Char} (h : ∀ c ∈ text, Bare c) :
    Escaped Bare text text := by
  induction text with
  | nil => exact .nil
  | cons c text ih =>
      obtain ⟨hc, htext⟩ := List.forall_mem_cons.1 h
      exact .bare hc (ih htext)

theorem Escaped.unescape_eq {Bare : Char → Prop} {source text : List Char} (h : Escaped Bare source text)
    (hslash : ¬Bare '\\') : unescape source = text := by
  induction h with
  | nil => rfl
  | @bare c source text hc _ ih =>
      have hne : c ≠ '\\' := by
        rintro rfl
        exact hslash hc
      rw [unescape.eq_3 _ _ (fun _ _ hc => absurd hc hne), ih]
  | mark hc _ ih => rw [unescape.eq_2, if_pos hc, ih]

section

variable (depth : Nat) (rest : List Char)

theorem toClosingBracket?_backslash : toClosingBracket? depth ('\\' :: rest) =
    (toClosingBracket? depth (rest.drop 1)).map (· + 2) := by
  cases depth <;> rw [toClosingBracket?, if_pos rfl]

theorem toClosingBracket?_backtick : toClosingBracket? depth ('`' :: rest) =
    (toClosingBracket? depth (rest.drop (hiddenByBacktick rest))).map (· + (hiddenByBacktick rest + 1)) := by
  cases depth <;> rw [toClosingBracket?, if_neg (by decide), if_pos rfl]

theorem toClosingBracket?_opening : toClosingBracket? depth ('[' :: rest) =
    (toClosingBracket? (depth + 1) rest).map (· + 1) := by
  cases depth <;> rw [toClosingBracket?, if_neg (by decide), if_neg (by decide), if_pos rfl]

theorem toClosingBracket?_closing : toClosingBracket? (depth + 1) (']' :: rest) =
    (toClosingBracket? depth rest).map (· + 1) := by
  rw [toClosingBracket?, if_neg (by decide), if_neg (by decide), if_neg (by decide), if_pos rfl]

theorem toClosingBracket?_last : toClosingBracket? 0 (']' :: rest) = some 0 := by
  rw [toClosingBracket?, if_neg (by decide), if_neg (by decide), if_neg (by decide), if_pos rfl]

def IsBareInLabel (c : Char) : Prop := c ∉ ['\\', '`', '[', ']']

theorem toClosingBracket?_bare {c : Char} (hc : IsBareInLabel c) : toClosingBracket? depth (c :: rest) =
    (toClosingBracket? depth rest).map (· + 1) := by
  simp only [IsBareInLabel, List.mem_cons, List.not_mem_nil, or_false, not_or] at hc
  obtain ⟨hslash, htick, hopening, hclosing⟩ := hc
  cases depth <;> rw [toClosingBracket?, if_neg hslash, if_neg htick, if_neg hopening, if_neg hclosing]

end

theorem Escaped.toClosingBracket?_append {source label : List Char} (h : Escaped IsBareInLabel source label)
    (depth : Nat) (rest : List Char) :
    toClosingBracket? depth (source ++ rest) =
      (toClosingBracket? depth rest).map (· + source.length) := by
  induction h with
  | nil => cases hrest : toClosingBracket? depth rest <;> simp [hrest]
  | bare hc _ ih =>
      rw [List.cons_append, toClosingBracket?_bare _ _ hc, ih, Option.map_map]
      rfl
  | mark _ _ ih =>
      rw [List.cons_append, List.cons_append, toClosingBracket?_backslash, List.drop_one, List.tail_cons, ih,
        Option.map_map]
      rfl

def IsBareInAddress (c : Char) : Prop := isBlank c = false ∧ c ∉ ['\\', '(', ')', '<']

def EndsAddress (rest : List Char) : Prop := ∃ c after, rest = c :: after ∧ (isBlank c = true ∨ c = ')')

theorem isLinkSpace_of_not_blank {c : Char} (h : isBlank c = false) : isLinkSpace c = false := by
  simp [isLinkSpace, ne_of_isBlank h (d := ' ') rfl, ne_of_isBlank h (d := '\t') rfl,
    ne_of_isBlank h (d := '\n') rfl]

namespace Escaped

variable {source url : List Char} (h : Escaped IsBareInAddress source url)
include h

theorem bareLength_append {rest : List Char} (hrest : EndsAddress rest) :
    bareLength 0 (source ++ rest) = source.length := by
  induction h with
  | nil =>
      obtain ⟨c, after, rfl, hc⟩ := hrest
      have hslash : c ≠ '\\' := by
        rintro rfl
        rcases hc with hc | hc <;> cases hc
      rw [List.nil_append, bareLength.eq_3 _ _ fun _ _ hc _ => absurd hc hslash]
      rcases hc with hc | rfl
      · rw [if_pos hc, List.length_nil]
      · rfl
  | @bare c source url hc _ ih =>
      obtain ⟨hblank, hc⟩ := hc
      simp only [List.mem_cons, List.not_mem_nil, or_false, not_or] at hc
      rw [List.cons_append, bareLength.eq_3 _ _ (fun _ _ hslash _ => absurd hslash hc.1), hblank,
        if_neg Bool.false_ne_true, if_neg hc.2.1, if_neg hc.2.2.1, ih, List.length_cons]
  | mark _ _ ih => rw [List.cons_append, List.cons_append, bareLength.eq_2, ih]; rfl

theorem skipLinkSpace_append {rest : List Char} (hsource : source ≠ [] ∨ ∃ after, rest = ')' :: after) :
    skipLinkSpace (source ++ rest) = source ++ rest := by
  cases h with
  | nil =>
      obtain ⟨after, rfl⟩ := hsource.resolve_left fun hne => hne rfl
      rfl
  | bare hc _ => exact List.dropWhile_cons_of_neg (by simp [isLinkSpace_of_not_blank hc.1])
  | mark _ _ => rfl

/-- An address that begins with an angle bracket begins with a backslash here. -/
theorem destination?_append {rest : List Char} (hrest : EndsAddress rest) :
    destination? (source ++ rest) = some (source, rest) := by
  have hangle : ∀ cs, source ++ rest = '<' :: cs → False := by
    intro cs hcs
    cases h with
    | nil =>
        obtain ⟨c, after, rfl, hc⟩ := hrest
        cases hcs
        rcases hc with hc | hc <;> cases hc
    | bare hc _ =>
        cases hcs
        exact hc.2 (by decide)
    | mark _ _ => cases hcs
  rw [destination?.eq_2 _ hangle]
  simp only [h.bareLength_append hrest, List.take_left, List.drop_left]

end Escaped

def IsBareInTitle (c : Char) : Prop := c ∉ ['\\', '"']

theorem Escaped.titleLength?_append {source title : List Char} (h : Escaped IsBareInTitle source title)
    (rest : List Char) : titleLength? '"' (source ++ '"' :: rest) = some source.length := by
  induction h with
  | nil => rfl
  | @bare c source title hc _ ih =>
      simp only [IsBareInTitle, List.mem_cons, List.not_mem_nil, or_false, not_or] at hc
      rw [List.cons_append, titleLength?.eq_4 _ _ _ (fun hslash _ => absurd hslash hc.1)
        (fun _ _ hslash _ => absurd hslash hc.1), if_neg hc.2, ih]
      rfl
  | mark _ _ ih => rw [List.cons_append, List.cons_append, titleLength?.eq_3, ih]; rfl

def quoted (source : List Char) : List Char := ' ' :: '"' :: (source ++ ['"'])

theorem Escaped.title?_append {source title : List Char} (h : Escaped IsBareInTitle source title)
    (rest : List Char) : title? (quoted source ++ rest) = some (some title, rest) := by
  have hskip : skipLinkSpace (quoted source ++ rest) = '"' :: (source ++ '"' :: rest) := by
    rw [quoted, List.cons_append, List.cons_append, List.append_assoc]
    rfl
  have hdrop : (source ++ '"' :: rest).drop (source.length + 1) = rest := by
    rw [← List.drop_drop, List.drop_left]
    rfl
  have hlength : (source ++ '"' :: rest).length + 1 < (quoted source ++ rest).length := by
    simp [quoted]
  simp only [title?, hskip, if_pos hlength, titleCloser?, h.titleLength?_append, Option.map_some, hdrop,
    List.take_left, h.unescape_eq fun hslash => hslash (by decide)]

section

variable {source url : List Char} (h : Escaped IsBareInAddress source url)
include h

theorem target?_bare (after : List Char) :
    target? ('(' :: (source ++ ')' :: after)) = some (⟨url, none⟩, source.length + 2) := by
  have hends : EndsAddress (')' :: after) := ⟨')', after, rfl, .inr rfl⟩
  have hclosing : skipLinkSpace (')' :: after) = ')' :: after := rfl
  have htitle : title? (')' :: after) = some (none, ')' :: after) := by
    simp only [title?, hclosing]
    rw [if_neg (by simp)]
  simp only [target?, h.skipLinkSpace_append (.inr ⟨after, rfl⟩), h.destination?_append hends,
    Option.bind_eq_bind, Option.bind_some, htitle, hclosing, h.unescape_eq fun hslash => hslash.2 (by decide)]
  simp
  omega

theorem target?_titled (hsource : source ≠ []) {titleSource title : List Char}
    (htitle : Escaped IsBareInTitle titleSource title) (after : List Char) :
    target? ('(' :: (source ++ (quoted titleSource ++ ')' :: after))) =
      some (⟨url, some title⟩, source.length + (quoted titleSource).length + 2) := by
  have hends : EndsAddress (quoted titleSource ++ ')' :: after) := ⟨' ', _, rfl, .inl rfl⟩
  have hclosing : skipLinkSpace (')' :: after) = ')' :: after := rfl
  simp only [target?, h.skipLinkSpace_append (.inl hsource), h.destination?_append hends,
    Option.bind_eq_bind, Option.bind_some, htitle.title?_append, hclosing,
    h.unescape_eq fun hslash => hslash.2 (by decide)]
  simp
  omega

end

theorem link?_of_closing {source rest : List Char}
    (hclosing : toClosingBracket? 0 (source ++ ']' :: rest) = some source.length) {target : Target}
    {taken : Nat} (htarget : target? rest = some (target, taken)) :
    link? (source ++ ']' :: rest) = some (⟨source, target⟩, source.length + 1 + taken) := by
  have hdrop : (source ++ ']' :: rest).drop (source.length + 1) = rest := by
    rw [← List.drop_drop, List.drop_left]
    rfl
  rw [link?, hclosing]
  simp only [Option.bind_eq_bind, Option.bind_some, hdrop, htarget, List.take_left]
  rfl

theorem escaped_label (label : List Char) : Escaped IsBareInLabel (backslash label) label := by
  refine escaped_backslash fun c _ hplain hmark => ?_
  have hall : ['\\', '`', '[', ']'].all isAsciiPunctuation = true := rfl
  rw [List.all_eq_true.1 hall c hmark] at hplain
  cases hplain

theorem link?_append {source label : List Char} (h : Escaped IsBareInLabel source label)
    {rest : List Char} {target : Target} {taken : Nat} (htarget : target? rest = some (target, taken)) :
    link? (source ++ ']' :: rest) = some (⟨source, target⟩, source.length + 1 + taken) := by
  refine link?_of_closing ?_ htarget
  rw [h.toClosingBracket?_append, toClosingBracket?_last, Option.map_some, Nat.zero_add]

section

variable {ctx : Context} {read : List Char → List Node} (hlabel : ctx.label = some read)
  {rest : List Char} {reference : Reference} {taken : Nat} (h : link? rest = some (reference, taken))
include hlabel h

theorem step_link (before : Option Char) : step ctx before '[' rest =
    ⟨.piece (.node (.branch ctx.loc (.link (String.ofList reference.target.url)
      (reference.target.title.map String.ofList)) (read reference.label))), taken⟩ := by
  have hstep : step ctx before '[' rest = linkStep ctx rest := rfl
  have hread := readLink?_eq_some_iff.2 ⟨read, hlabel, h, rfl⟩
  simp only [hstep, linkStep, hread]

theorem step_image (before : Option Char) : step ctx before '!' ('[' :: rest) =
    ⟨.piece (.node (.leaf ctx.loc (.image (String.ofList reference.target.url)
      (plainTexts (read reference.label)) (reference.target.title.map String.ofList)))), taken + 1⟩ := by
  have hstep : step ctx before '!' ('[' :: rest) = imageStep ctx ('[' :: rest) := rfl
  have hread := readLink?_eq_some_iff.2 ⟨read, hlabel, h, rfl⟩
  simp only [hstep, imageStep, List.tail_cons, hread]
  rfl

end

theorem scan_of_node {ctx : Context} {c : Char} {rest : List Char} {node : Node}
    (h : step ctx none c rest = ⟨.piece (.node node), rest.length⟩) : scan ctx (c :: rest) = [.node node] := by
  refine (scanFrom_of_piece ctx h).trans ?_
  rw [List.drop_length, scanFrom]
  rfl

section

variable (settings : Settings) (loc : Location) {rest : List Char} {reference : Reference}
  (h : link? rest = some (reference, rest.length))
include h

theorem readWithin_eq_link (room : Nat) : readWithin settings loc (room + 1) ('[' :: rest) =
    [.branch loc (.link (String.ofList reference.target.url) (reference.target.title.map String.ofList))
      (readWithin settings loc room reference.label)] :=
  congrArg (assemble loc) (scan_of_node (step_link rfl h none))

theorem read_eq_link : read settings loc ('[' :: rest) =
    [.branch loc (.link (String.ofList reference.target.url) (reference.target.title.map String.ofList))
      (readWithin settings loc (maxLabelNesting - 1) reference.label)] :=
  readWithin_eq_link settings loc h (maxLabelNesting - 1)

theorem read_eq_image : read settings loc ('!' :: '[' :: rest) =
    [.leaf loc (.image (String.ofList reference.target.url)
      (plainTexts (readWithin settings loc (maxLabelNesting - 1) reference.label))
      (reference.target.title.map String.ofList))] :=
  congrArg (assemble loc) (scan_of_node (step_image rfl h none))

end

def textNodes (loc : Location) (text : List Char) : List Node :=
  if text = [] then [] else [.leaf loc (.text (String.ofList text))]

theorem plainTexts_textNodes (loc : Location) (text : List Char) :
    plainTexts (textNodes loc text) = String.ofList text := by
  rw [textNodes]
  split
  · rename_i hnil
    rw [hnil]
    rfl
  · exact String.append_empty

theorem assemble_scan_backslash (ctx : Context) (loc : Location) {text : List Char} (hline : '\n' ∉ text) :
    assemble loc (scan ctx (backslash text)) = textNodes loc text := by
  rw [scan, textNodes]
  split
  · rename_i hnil
    rw [hnil, backslash_nil, scanFrom]
    rfl
  · rename_i hne
    obtain ⟨last, hlast⟩ := scanFrom_line ctx hne hline none []
    rw [List.append_nil] at hlast
    rw [hlast, scanFrom, flush, List.reverse_reverse]
    rfl

theorem readWithin_backslash (settings : Settings) (loc : Location) (room : Nat) {text : List Char}
    (hline : '\n' ∉ text) : readWithin settings loc room (backslash text) = textNodes loc text := by
  cases room <;> exact assemble_scan_backslash _ loc hline

def writeReference (label url : List Char) (title : Option (List Char)) : List Char :=
  backslash label ++ ']' :: '(' ::
    (backslash url ++ (title.elim [] (fun text => quoted (backslash text)) ++ [')']))

theorem target?_writeReference {url : List Char} (hurl : url ≠ []) (hblank : ∀ c ∈ url, isBlank c = false)
    (title : Option (List Char)) :
    target? ('(' :: (backslash url ++ (title.elim [] (fun text => quoted (backslash text)) ++ [')']))) =
      some (⟨url, title⟩,
        (backslash url ++ (title.elim [] (fun text => quoted (backslash text)) ++ [')'])).length + 1) := by
  have haddress : Escaped IsBareInAddress (backslash url) url := by
    refine escaped_backslash fun c hc hplain => ⟨hblank c hc, fun hmark => ?_⟩
    have hall : ['\\', '(', ')', '<'].all isAsciiPunctuation = true := rfl
    rw [List.all_eq_true.1 hall c hmark] at hplain
    cases hplain
  have hne : backslash url ≠ [] := by
    obtain ⟨c, cs, rfl⟩ := List.exists_cons_of_ne_nil hurl
    rcases backslashChar_cases c with ⟨_, hc⟩ | ⟨_, hc⟩ <;> simp [hc]
  cases title with
  | none => simpa using target?_bare haddress []
  | some text =>
      have htitle : Escaped IsBareInTitle (backslash text) text := by
        refine escaped_backslash fun c _ hplain hmark => ?_
        have hall : ['\\', '"'].all isAsciiPunctuation = true := rfl
        rw [List.all_eq_true.1 hall c hmark] at hplain
        cases hplain
      simpa [Nat.add_assoc] using target?_titled haddress hne htitle []

theorem link?_writeReference (label : List Char) {url : List Char} (hurl : url ≠ [])
    (hblank : ∀ c ∈ url, isBlank c = false) (title : Option (List Char)) :
    link? (writeReference label url title) =
      some (⟨backslash label, ⟨url, title⟩⟩, (writeReference label url title).length) := by
  rw [writeReference, link?_append (escaped_label label) (target?_writeReference hurl hblank title)]
  simp
  omega

/-- A link is read with the label, address and title that it was written with, and so is an image. The
address has no white space in it, and the label no newline; all else may be any text. -/
theorem reference_read (settings : Settings) (loc : Location) {label url : List Char}
    (hline : '\n' ∉ label) (hurl : url ≠ []) (hblank : ∀ c ∈ url, isBlank c = false)
    (title : Option (List Char)) :
    read settings loc ('[' :: writeReference label url title) =
        [.branch loc (.link (String.ofList url) (title.map String.ofList)) (textNodes loc label)] ∧
      read settings loc ('!' :: '[' :: writeReference label url title) =
        [.leaf loc (.image (String.ofList url) (String.ofList label) (title.map String.ofList))] := by
  have hlink := link?_writeReference label hurl hblank title
  have hlabel := readWithin_backslash settings loc (maxLabelNesting - 1) hline
  refine ⟨?_, ?_⟩
  · rw [read_eq_link settings loc hlink, hlabel]
  · rw [read_eq_image settings loc hlink, hlabel, plainTexts_textNodes]

/-- Brackets, backticks and quotes in the parts of an image end none of them. -/
theorem bracketed_reference_read : '\n' ∉ "]`*[".toList ∧ "<)\\".toList ≠ [] ∧
    (∀ c ∈ "<)\\".toList, isBlank c = false) ∧
    "![\\]\\`\\*\\[](\\<\\)\\\\ \"\\\" \n\")".toList =
      '!' :: '[' :: writeReference "]`*[".toList "<)\\".toList (some "\" \n".toList) ∧
    read {} ⟨1, 1, none, none⟩ "![\\]\\`\\*\\[](\\<\\)\\\\ \"\\\" \n\")".toList =
      [.leaf ⟨1, 1, none, none⟩ (.image "<)\\" "]`*[" (some "\" \n"))] := by
  have hline : '\n' ∉ "]`*[".toList := by decide
  have hurl : "<)\\".toList ≠ [] := by decide
  have hall : ("<)\\".toList.all fun c => !isBlank c) = true := by decide
  have hblank : ∀ c ∈ "<)\\".toList, isBlank c = false := by
    intro c hc
    simpa using List.all_eq_true.1 hall c hc
  have hsource : "![\\]\\`\\*\\[](\\<\\)\\\\ \"\\\" \n\")".toList =
      '!' :: '[' :: writeReference "]`*[".toList "<)\\".toList (some "\" \n".toList) := by decide
  have hread := (reference_read {} ⟨1, 1, none, none⟩ hline hurl hblank (some "\" \n".toList)).2
  rw [← hsource] at hread
  exact ⟨hline, hurl, hblank, hsource, hread⟩

end MarkdownOutline.Inline
