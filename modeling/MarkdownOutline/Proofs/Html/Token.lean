import Mathlib.Data.List.Chain
import MarkdownOutline.Html.Markup

namespace MarkdownOutline.Html

/-- A tag, with the values of its attributes as they are written. -/
inductive Tag where
  | doctype
  | start (name : String) (attributes : List Attribute)
  | finish (name : String)
  | single (name : String) (attributes : List Attribute)
  deriving DecidableEq

inductive Token where
  | tag (tag : Tag)
  | run (text : String)
  deriving DecidableEq

def attributeChars (a : Attribute) : List Char :=
  ' ' :: (a.name.toList ++ '=' :: '"' :: (a.value.toList ++ ['"']))

def declaration : List Char := "!DOCTYPE html".toList

def Tag.inside : Tag → List Char
  | doctype => declaration
  | start name attributes => name.toList ++ (attributes.flatMap attributeChars ++ [])
  | finish name => '/' :: name.toList
  | single name attributes => name.toList ++ (attributes.flatMap attributeChars ++ [' ', '/'])

def Token.chars : Token → List Char
  | tag t => '<' :: (t.inside ++ ['>'])
  | run text => text.toList

def Token.isRun : Token → Bool
  | tag _ => false
  | run _ => true

def pairedNames : List String :=
  ["html", "head", "title", "body", "p", "blockquote", "ol", "ul", "li", "em", "strong", "del", "a",
    "pre", "code"]

def openNames : List String := ["meta", "link"]

def singleNames : List String := ["hr", "br", "img"]

def attributeNames : List String :=
  ["id", "class", "start", "href", "title", "src", "alt", "charset", "rel", "type"]

def IsPaired (name : String) : Prop :=
  name ∈ pairedNames ∨ ∃ level : Int, name = "h" ++ toString level

def isClean (c : Char) : Bool := !(c = '<' || c = '>' || c = '"')

def IsClean (text : String) : Prop := ∀ c ∈ text.toList, isClean c = true

def Attribute.Known (a : Attribute) : Prop := a.name ∈ attributeNames ∧ IsClean a.value

def Tag.Known : Tag → Prop
  | doctype => True
  | start name attributes => (IsPaired name ∨ name ∈ openNames) ∧ ∀ a ∈ attributes, a.Known
  | finish name => IsPaired name
  | single name attributes => name ∈ singleNames ∧ ∀ a ∈ attributes, a.Known

def Token.Known : Token → Prop
  | tag t => t.Known
  | run text => text ≠ "" ∧ IsClean text

def Apart (tokens : List Token) : Prop := tokens.IsChain fun t u => (t.isRun && u.isRun) = false

structure Splits (tokens : List Token) (text : String) : Prop where
  chars : text.toList = tokens.flatMap Token.chars
  known : ∀ token ∈ tokens, token.Known
  apart : Apart tokens

def isNameChar (c : Char) : Bool := c.isAlphanum || c = '-'

def IsName (name : String) : Prop := name ≠ "" ∧ ∀ c ∈ name.toList, isNameChar c = true

theorem isNameChar_of_mem_repr {n : Nat} {c : Char} (h : c ∈ n.repr.toList) : isNameChar c = true := by
  rw [Nat.toList_repr] at h
  simp [isNameChar, Char.isAlphanum, Nat.isDigit_of_mem_toDigits (by decide) (by decide) h]

theorem isNameChar_of_mem_toString {level : Int} {c : Char} (h : c ∈ (toString level).toList) :
    isNameChar c = true := by
  rw [Int.toString_eq_repr, Int.repr_eq_if] at h
  split at h
  · exact isNameChar_of_mem_repr h
  · simp only [String.toList_append, List.mem_append] at h
    rcases h with h | h
    · obtain rfl : c = '-' := by simpa using h
      rfl
    · exact isNameChar_of_mem_repr h

theorem isName_of_mem {names : List String} (hnames : names.all fun name =>
      name != "" && name.toList.all isNameChar) {name : String} (h : name ∈ names) : IsName name := by
  have hname := List.all_eq_true.1 hnames name h
  simpa [IsName] using hname

theorem IsPaired.isName {name : String} (h : IsPaired name) : IsName name := by
  rcases h with h | ⟨level, rfl⟩
  · exact isName_of_mem (by decide) h
  · refine ⟨by simp, fun c hc => ?_⟩
    rcases List.mem_append.1 (String.toList_append ▸ hc) with hc | hc
    · obtain rfl : c = 'h' := by simpa using hc
      rfl
    · exact isNameChar_of_mem_toString hc

theorem isName_of_start {name : String} (h : IsPaired name ∨ name ∈ openNames) : IsName name := by
  rcases h with h | h
  · exact h.isName
  · exact isName_of_mem (by decide) h

theorem isName_of_single {name : String} (h : name ∈ singleNames) : IsName name :=
  isName_of_mem (by decide) h

theorem Attribute.Known.isName {a : Attribute} (h : a.Known) : IsName a.name :=
  isName_of_mem (by decide) h.1

theorem IsName.ne_of_mem {name : String} (h : IsName name) {c d : Char} (hc : c ∈ name.toList)
    (hd : isNameChar d = false) : c ≠ d := by
  rintro rfl
  rw [h.2 c hc] at hd
  cases hd

/-- Two texts that begin with a stretch of the same kind of characters have that stretch in
common, if something else follows in both. -/
theorem stretch_unique {p : Char → Bool} {xs ys t u : List Char} (hx : ∀ c ∈ xs, p c = true)
    (hy : ∀ c ∈ ys, p c = true) (ht : t.takeWhile p = []) (hu : u.takeWhile p = [])
    (h : xs ++ t = ys ++ u) : xs = ys ∧ t = u := by
  have hxs : (xs ++ t).takeWhile p = xs := by rw [List.takeWhile_append_of_pos hx, ht, List.append_nil]
  have hys : (ys ++ u).takeWhile p = ys := by rw [List.takeWhile_append_of_pos hy, hu, List.append_nil]
  obtain rfl : xs = ys := by rw [← hxs, h, hys]
  exact ⟨rfl, List.append_cancel_left h⟩

def IsEnd (e : List Char) : Prop := e = [] ∨ e = [' ', '/']

theorem takeWhile_isNameChar_attributes (as : List Attribute) {e : List Char} (he : IsEnd e) :
    (as.flatMap attributeChars ++ e).takeWhile isNameChar = [] := by
  cases as with
  | nil => rcases he with rfl | rfl <;> decide
  | cons a as => exact List.takeWhile_cons_of_neg (by decide)

theorem attribute_not_end {a : Attribute} (ha : a.Known) (rest : List Char) {e : List Char}
    (he : IsEnd e) : attributeChars a ++ rest ≠ e := by
  rcases he with rfl | rfl
  · simp [attributeChars]
  · intro h
    obtain ⟨hne, hchars⟩ := ha.isName
    obtain ⟨c, cs, hc⟩ := List.exists_cons_of_ne_nil (mt String.toList_eq_nil_iff.1 hne)
    simp only [attributeChars, hc, List.cons_append, List.cons.injEq, true_and] at h
    exact absurd (hchars c (by simp [hc])) (by rw [h.1]; decide)

theorem attributes_unique {as bs : List Attribute} {e f : List Char} (ha : ∀ a ∈ as, a.Known)
    (hb : ∀ b ∈ bs, b.Known) (he : IsEnd e) (hf : IsEnd f)
    (h : as.flatMap attributeChars ++ e = bs.flatMap attributeChars ++ f) : as = bs ∧ e = f := by
  induction as generalizing bs with
  | nil =>
      cases bs with
      | nil => exact ⟨rfl, h⟩
      | cons b bs =>
          rw [List.flatMap_cons, List.append_assoc] at h
          exact absurd h.symm (attribute_not_end (hb b (List.mem_cons_self ..)) _ he)
  | cons a as ih =>
      have hka := ha a (List.mem_cons_self ..)
      cases bs with
      | nil =>
          rw [List.flatMap_cons, List.append_assoc] at h
          exact absurd h (attribute_not_end hka _ hf)
      | cons b bs =>
          have hkb := hb b (List.mem_cons_self ..)
          simp only [List.flatMap_cons, attributeChars, List.cons_append, List.append_assoc,
            List.nil_append, List.cons.injEq, true_and] at h
          obtain ⟨hname, h⟩ := stretch_unique hka.isName.2 hkb.isName.2
            (List.takeWhile_cons_of_neg (by decide)) (List.takeWhile_cons_of_neg (by decide)) h
          simp only [List.cons.injEq, true_and] at h
          obtain ⟨hvalue, h⟩ := stretch_unique hka.2 hkb.2
            (List.takeWhile_cons_of_neg (by decide)) (List.takeWhile_cons_of_neg (by decide)) h
          obtain ⟨rfl, rfl⟩ := ih (fun a h => ha a (List.mem_cons_of_mem _ h))
            (fun b h => hb b (List.mem_cons_of_mem _ h)) (List.cons.inj h).2
          obtain rfl : a = b := by
            cases a
            cases b
            rw [Attribute.mk.injEq]
            exact ⟨String.toList_inj.1 hname, String.toList_inj.1 hvalue⟩
          exact ⟨rfl, rfl⟩

theorem element_unique {m n : String} {as bs : List Attribute} {e f : List Char} (hm : IsName m)
    (hn : IsName n) (ha : ∀ a ∈ as, a.Known) (hb : ∀ b ∈ bs, b.Known) (he : IsEnd e) (hf : IsEnd f)
    (h : m.toList ++ (as.flatMap attributeChars ++ e) = n.toList ++ (bs.flatMap attributeChars ++ f)) :
    m = n ∧ as = bs ∧ e = f := by
  obtain ⟨hname, h⟩ := stretch_unique hm.2 hn.2 (takeWhile_isNameChar_attributes as he)
    (takeWhile_isNameChar_attributes bs hf) h
  exact ⟨String.toList_inj.1 hname, attributes_unique ha hb he hf h⟩

theorem IsName.not_marked {name : String} (h : IsName name) (rest : List Char) {c : Char}
    (hc : isNameChar c = false) (cs : List Char) : name.toList ++ rest ≠ c :: cs := by
  obtain ⟨d, ds, hd⟩ := List.exists_cons_of_ne_nil (mt String.toList_eq_nil_iff.1 h.1)
  rw [hd, List.cons_append]
  intro heq
  exact h.ne_of_mem (c := d) (by simp [hd]) hc (List.cons.inj heq).1

theorem inside_injective {t u : Tag} (ht : t.Known) (hu : u.Known) (h : t.inside = u.inside) :
    t = u := by
  cases t with
  | doctype =>
      cases u with
      | doctype => rfl
      | start n bs => exact absurd h.symm ((isName_of_start hu.1).not_marked _ (by decide) _)
      | finish n => exact absurd (List.cons.inj h).1 (by decide)
      | single n bs => exact absurd h.symm ((isName_of_single hu.1).not_marked _ (by decide) _)
  | finish m =>
      cases u with
      | doctype => exact absurd (List.cons.inj h).1 (by decide)
      | start n bs => exact absurd h.symm ((isName_of_start hu.1).not_marked _ (by decide) _)
      | finish n => rw [String.toList_inj.1 (List.cons.inj h).2]
      | single n bs => exact absurd h.symm ((isName_of_single hu.1).not_marked _ (by decide) _)
  | start m as =>
      have hm := isName_of_start ht.1
      cases u with
      | doctype => exact absurd h (hm.not_marked _ (by decide) _)
      | start n bs =>
          obtain ⟨rfl, rfl, _⟩ := element_unique hm (isName_of_start hu.1) ht.2 hu.2 (.inl rfl) (.inl rfl) h
          rfl
      | finish n => exact absurd h (hm.not_marked _ (by decide) _)
      | single n bs =>
          obtain ⟨_, _, h⟩ := element_unique hm (isName_of_single hu.1) ht.2 hu.2 (.inl rfl) (.inr rfl) h
          cases h
  | single m as =>
      have hm := isName_of_single ht.1
      cases u with
      | doctype => exact absurd h (hm.not_marked _ (by decide) _)
      | start n bs =>
          obtain ⟨_, _, h⟩ := element_unique hm (isName_of_start hu.1) ht.2 hu.2 (.inr rfl) (.inl rfl) h
          cases h
      | finish n => exact absurd h (hm.not_marked _ (by decide) _)
      | single n bs =>
          obtain ⟨rfl, rfl, _⟩ := element_unique hm (isName_of_single hu.1) ht.2 hu.2 (.inr rfl) (.inr rfl) h
          rfl

theorem not_angle_of_mem_attributes {as : List Attribute} (h : ∀ a ∈ as, a.Known) {c : Char}
    (hc : c ∈ as.flatMap attributeChars) : c ≠ '<' ∧ c ≠ '>' := by
  obtain ⟨a, ha, hc⟩ := List.mem_flatMap.1 hc
  simp only [attributeChars, List.mem_cons, List.mem_append, List.not_mem_nil, or_false] at hc
  rcases hc with rfl | hc | rfl | rfl | hc | rfl
  · decide
  · exact ⟨(h a ha).isName.ne_of_mem hc (by decide), (h a ha).isName.ne_of_mem hc (by decide)⟩
  · decide
  · decide
  · have hclean := (h a ha).2 _ hc
    constructor <;> rintro rfl <;> exact absurd hclean (by decide)
  · decide

/-- The brackets of a tag stand only at its ends. -/
theorem not_angle_of_mem_inside {t : Tag} (h : t.Known) {c : Char} (hc : c ∈ t.inside) :
    c ≠ '<' ∧ c ≠ '>' := by
  have helement {name : String} (hname : IsName name) {as : List Attribute} (ha : ∀ a ∈ as, a.Known)
      {e : List Char} (he : IsEnd e) (hc : c ∈ name.toList ++ (as.flatMap attributeChars ++ e)) :
      c ≠ '<' ∧ c ≠ '>' := by
    simp only [List.mem_append] at hc
    rcases hc with hc | hc | hc
    · exact ⟨hname.ne_of_mem hc (by decide), hname.ne_of_mem hc (by decide)⟩
    · exact not_angle_of_mem_attributes ha hc
    · constructor <;> rintro rfl <;> rcases he with rfl | rfl <;> simp at hc
  cases t with
  | doctype => constructor <;> rintro rfl <;> exact absurd hc (by decide)
  | start name as => exact helement (isName_of_start h.1) h.2 (.inl rfl) hc
  | finish name =>
      rcases List.mem_cons.1 hc with rfl | hc
      · decide
      · exact ⟨h.isName.ne_of_mem hc (by decide), h.isName.ne_of_mem hc (by decide)⟩
  | single name as => exact helement (isName_of_single h.1) h.2 (.inr rfl) hc

theorem exists_clean_of_run {text : String} (h : (Token.run text).Known) (rest : List Char) :
    ∃ c cs, text.toList ++ rest = c :: cs ∧ isClean c = true := by
  obtain ⟨c, cs, hc⟩ := List.exists_cons_of_ne_nil (mt String.toList_eq_nil_iff.1 h.1)
  exact ⟨c, cs ++ rest, by rw [hc, List.cons_append], h.2 c (by simp [hc])⟩

theorem Apart.of_cons {t : Token} {tokens : List Token} (h : Apart (t :: tokens)) : Apart tokens :=
  List.IsChain.of_cons h

theorem takeWhile_isClean_of_apart {text : String} {tokens : List Token}
    (h : Apart (.run text :: tokens)) :
    (tokens.flatMap Token.chars).takeWhile isClean = [] := by
  cases tokens with
  | nil => rfl
  | cons token tokens =>
      cases token with
      | tag t => exact List.takeWhile_cons_of_neg (by decide)
      | run more => exact absurd (List.isChain_cons_cons.1 h).1 (by simp [Token.isRun])

theorem chars_ne_nil {t : Token} (h : t.Known) (rest : List Char) : t.chars ++ rest ≠ [] := by
  cases t with
  | tag t => exact List.cons_ne_nil _ _
  | run text =>
      obtain ⟨c, cs, hc, _⟩ := exists_clean_of_run h rest
      rw [Token.chars, hc]
      exact List.cons_ne_nil _ _

theorem tag_chars_ne_run {text : String} (h : (Token.run text).Known) (t : Tag)
    (rest more : List Char) : (Token.tag t).chars ++ rest ≠ (Token.run text).chars ++ more := by
  obtain ⟨c, cs, hc, hclean⟩ := exists_clean_of_run h more
  intro heq
  obtain rfl : '<' = c := (List.cons.inj (heq.trans hc)).1
  cases hclean

/-- The first tokens of one text are the same. -/
theorem head_unique {t u : Token} {ts us : List Token} (ht : t.Known) (hu : u.Known)
    (hts : Apart (t :: ts)) (hus : Apart (u :: us))
    (h : t.chars ++ ts.flatMap Token.chars = u.chars ++ us.flatMap Token.chars) :
    t = u ∧ ts.flatMap Token.chars = us.flatMap Token.chars := by
  cases t with
  | tag t =>
      cases u with
      | tag u =>
          simp only [Token.chars, List.cons_append, List.append_assoc, List.nil_append,
            List.cons.injEq, true_and] at h
          obtain ⟨hinside, h⟩ := stretch_unique (p := fun c => c ≠ '>')
            (fun c hc => by simpa using (not_angle_of_mem_inside ht hc).2)
            (fun c hc => by simpa using (not_angle_of_mem_inside hu hc).2)
            (List.takeWhile_cons_of_neg (by simp)) (List.takeWhile_cons_of_neg (by simp)) h
          rw [inside_injective ht hu hinside]
          exact ⟨rfl, (List.cons.inj h).2⟩
      | run text => exact absurd h (tag_chars_ne_run hu t _ _)
  | run text =>
      cases u with
      | tag u => exact absurd h.symm (tag_chars_ne_run ht u _ _)
      | run more =>
          obtain ⟨htext, h⟩ := stretch_unique ht.2 hu.2 (takeWhile_isClean_of_apart hts)
            (takeWhile_isClean_of_apart hus) h
          rw [String.toList_inj.1 htext]
          exact ⟨rfl, h⟩

theorem tokens_unique {ts us : List Token} (ht : ∀ t ∈ ts, t.Known) (hu : ∀ u ∈ us, u.Known)
    (hts : Apart ts) (hus : Apart us) (h : ts.flatMap Token.chars = us.flatMap Token.chars) :
    ts = us := by
  induction ts generalizing us with
  | nil =>
      cases us with
      | nil => rfl
      | cons u us => exact absurd h.symm (chars_ne_nil (hu u (List.mem_cons_self ..)) _)
  | cons t ts ih =>
      obtain ⟨hkt, hrest⟩ := List.forall_mem_cons.1 ht
      cases us with
      | nil => exact absurd h (chars_ne_nil hkt _)
      | cons u us =>
          obtain ⟨hku, hmore⟩ := List.forall_mem_cons.1 hu
          obtain ⟨rfl, hchars⟩ := head_unique hkt hku hts hus h
          rw [ih hrest hmore hts.of_cons hus.of_cons hchars]

theorem Splits.unique {ts us : List Token} {text : String} (ht : Splits ts text)
    (hu : Splits us text) : ts = us :=
  tokens_unique ht.known hu.known ht.apart hu.apart (ht.chars.symm.trans hu.chars)

end MarkdownOutline.Html
