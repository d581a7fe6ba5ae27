import MarkdownOutline.Proofs.Html.Token

namespace MarkdownOutline.Html

open Text

theorem isClean_of_mem_escapeChar (c : Char) : ∀ d ∈ escapeChar c, isClean d = true := by
  intro d hd
  unfold escapeChar at hd
  split at hd
  · exact List.all_eq_true.1 (by decide) d hd
  · exact List.all_eq_true.1 (by decide) d hd
  · exact List.all_eq_true.1 (by decide) d hd
  · exact List.all_eq_true.1 (by decide) d hd
  · obtain rfl : d = c := by simpa using hd
    simp_all [isClean]

theorem isClean_escapeHtml (text : String) : IsClean (escapeHtml text) := by
  intro c hc
  rw [escapeHtml, String.toList_ofList, escapeChars] at hc
  obtain ⟨d, _, hc⟩ := List.mem_flatMap.1 hc
  exact isClean_of_mem_escapeChar d c hc

theorem escapeHtml_of_unchanged {text : String} (h : ∀ c ∈ text.toList, escapeChar c = [c]) :
    escapeHtml text = text := by
  have hchars : ∀ cs : List Char, (∀ c ∈ cs, escapeChar c = [c]) → escapeChars cs = cs := by
    intro cs hcs
    induction cs with
    | nil => rfl
    | cons c cs ih =>
        obtain ⟨hc, hcs⟩ := List.forall_mem_cons.1 hcs
        have hrest := ih hcs
        rw [escapeChars] at hrest ⊢
        rw [List.flatMap_cons, hc, hrest, List.singleton_append]
  rw [escapeHtml, hchars _ h, String.ofList_toList]

def Attribute.escaped (a : Attribute) : Attribute := { a with value := escapeHtml a.value }

namespace Markup

/-- The first line of a page is all the markup that is taken over as it is. -/
def Known : Markup → Prop
  | start name attributes =>
    (IsPaired name ∨ name ∈ openNames) ∧ ∀ a ∈ attributes, a.name ∈ attributeNames
  | finish name => IsPaired name
  | single name attributes => name ∈ singleNames ∧ ∀ a ∈ attributes, a.name ∈ attributeNames
  | text _ => True
  | raw html => html = "<!DOCTYPE html>\n"

def tokens : Markup → List Token
  | start name attributes => [.tag (.start name (attributes.map Attribute.escaped))]
  | finish name => [.tag (.finish name)]
  | single name attributes => [.tag (.single name (attributes.map Attribute.escaped))]
  | text content => [.run (escapeHtml content)]
  | raw _ => [.tag .doctype, .run "\n"]

theorem toList_writeAttributes (as : List Attribute) :
    (writeAttributes as).toList = (as.map Attribute.escaped).flatMap attributeChars := by
  simp [writeAttributes, writeAttribute, attributeChars, Attribute.escaped, List.flatMap_map,
    String.toList_join]

theorem toList_write {m : Markup} (h : m.Known) : m.write.toList = m.tokens.flatMap Token.chars := by
  cases m with
  | start name as => simp [write, tokens, Token.chars, Tag.inside, toList_writeAttributes]
  | finish name => simp [write, tokens, Token.chars, Tag.inside]
  | single name as => simp [write, tokens, Token.chars, Tag.inside, toList_writeAttributes]
  | text content => simp [write, tokens, Token.chars]
  | raw html =>
      obtain rfl : html = _ := h
      rfl

end Markup

def Token.Loose : Token → Prop
  | tag t => t.Known
  | run text => IsClean text

theorem known_of_escaped {as : List Attribute} (h : ∀ a ∈ as, a.name ∈ attributeNames) :
    ∀ a ∈ as.map Attribute.escaped, a.Known := by
  intro a ha
  obtain ⟨b, hb, rfl⟩ := List.mem_map.1 ha
  exact ⟨h b hb, isClean_escapeHtml _⟩

theorem Markup.loose_tokens {m : Markup} (h : m.Known) : ∀ t ∈ m.tokens, t.Loose := by
  cases m with
  | start name as => simpa [tokens] using ⟨h.1, known_of_escaped h.2⟩
  | finish name => simpa [tokens, Token.Loose] using show (Tag.finish name).Known from h
  | single name as => simpa [tokens] using ⟨h.1, known_of_escaped h.2⟩
  | text content => simpa [tokens, Token.Loose] using isClean_escapeHtml content
  | raw html => simpa [tokens, Token.Loose, Tag.Known, IsClean] using (by decide)

def glue (text : String) : List Token → List Token
  | .run more :: rest => .run (text ++ more) :: rest
  | rest => if text = "" then rest else .run text :: rest

def condense : List Token → List Token
  | [] => []
  | .tag t :: rest => .tag t :: condense rest
  | .run text :: rest => glue text (condense rest)

def Token.tag? : Token → Option Tag
  | tag t => some t
  | run _ => none

def tagsOf (tokens : List Token) : List Tag := tokens.filterMap Token.tag?

@[simp] theorem tagsOf_append (ts us : List Token) : tagsOf (ts ++ us) = tagsOf ts ++ tagsOf us :=
  List.filterMap_append

theorem glue_cases (text : String) (tokens : List Token) :
    (∃ more rest, tokens = .run more :: rest ∧ glue text tokens = .run (text ++ more) :: rest) ∨
    (text = "" ∧ glue text tokens = tokens) ∨
    ((∀ more rest, tokens ≠ .run more :: rest) ∧ text ≠ "" ∧
      glue text tokens = .run text :: tokens) := by
  unfold glue
  split
  · exact .inl ⟨_, _, rfl, rfl⟩
  · split
    · exact .inr (.inl ⟨‹_›, rfl⟩)
    · exact .inr (.inr ⟨‹_›, ‹_›, rfl⟩)

theorem chars_glue (text : String) (tokens : List Token) :
    (glue text tokens).flatMap Token.chars = text.toList ++ tokens.flatMap Token.chars := by
  rcases glue_cases text tokens with ⟨more, rest, rfl, h⟩ | ⟨rfl, h⟩ | ⟨_, _, h⟩
  · simp [h, Token.chars]
  · simp [h]
  · simp [h, Token.chars]

theorem chars_condense (tokens : List Token) :
    (condense tokens).flatMap Token.chars = tokens.flatMap Token.chars := by
  induction tokens with
  | nil => rfl
  | cons token rest ih =>
      cases token with
      | tag t => rw [condense, List.flatMap_cons, List.flatMap_cons, ih]
      | run text => rw [condense, chars_glue, ih, List.flatMap_cons, Token.chars]

theorem tagsOf_glue (text : String) (tokens : List Token) : tagsOf (glue text tokens) = tagsOf tokens := by
  rcases glue_cases text tokens with ⟨more, rest, rfl, h⟩ | ⟨_, h⟩ | ⟨_, _, h⟩ <;> rw [h] <;> rfl

theorem tagsOf_condense (tokens : List Token) : tagsOf (condense tokens) = tagsOf tokens := by
  induction tokens with
  | nil => rfl
  | cons token rest ih =>
      cases token with
      | tag t => exact congrArg (t :: ·) ih
      | run text => rw [condense, tagsOf_glue, ih]; rfl

theorem known_glue {text : String} {tokens : List Token} (htext : IsClean text)
    (h : ∀ t ∈ tokens, t.Known) : ∀ t ∈ glue text tokens, t.Known := by
  rcases glue_cases text tokens with ⟨more, rest, rfl, hg⟩ | ⟨_, hg⟩ | ⟨_, hne, hg⟩ <;> rw [hg]
  · obtain ⟨⟨hne, hmore⟩, hrest⟩ := List.forall_mem_cons.1 h
    refine List.forall_mem_cons.2 ⟨⟨fun h => hne (String.append_eq_empty_iff.1 h).2, fun c hc => ?_⟩, hrest⟩
    rcases List.mem_append.1 (String.toList_append ▸ hc) with hc | hc
    · exact htext c hc
    · exact hmore c hc
  · exact h
  · exact List.forall_mem_cons.2 ⟨⟨hne, htext⟩, h⟩

theorem known_condense {tokens : List Token} (h : ∀ t ∈ tokens, t.Loose) :
    ∀ t ∈ condense tokens, t.Known := by
  induction tokens with
  | nil => exact fun t ht => by cases ht
  | cons token rest ih =>
      obtain ⟨htoken, hrest⟩ := List.forall_mem_cons.1 h
      cases token with
      | tag t => exact List.forall_mem_cons.2 ⟨htoken, ih hrest⟩
      | run text => exact known_glue htoken (ih hrest)

theorem Apart.tag_cons (t : Tag) {tokens : List Token} (h : Apart tokens) :
    Apart (.tag t :: tokens) := by
  cases tokens with
  | nil => exact List.isChain_singleton _
  | cons u rest => exact List.isChain_cons_cons.2 ⟨rfl, h⟩

theorem Apart.glue (text : String) {tokens : List Token} (h : Apart tokens) :
    Apart (glue text tokens) := by
  rcases glue_cases text tokens with ⟨more, rest, rfl, hg⟩ | ⟨_, hg⟩ | ⟨hrun, _, hg⟩ <;> rw [hg]
  · cases rest with
    | nil => exact List.isChain_singleton _
    | cons u rest => exact List.isChain_cons_cons.2 (List.isChain_cons_cons.1 h)
  · exact h
  · cases tokens with
    | nil => exact List.isChain_singleton _
    | cons u rest =>
        cases u with
        | tag t => exact List.isChain_cons_cons.2 ⟨rfl, h⟩
        | run more => exact absurd rfl (hrun more rest)

theorem apart_condense (tokens : List Token) : Apart (condense tokens) := by
  induction tokens with
  | nil => exact List.isChain_nil
  | cons token rest ih =>
      cases token with
      | tag t => exact ih.tag_cons t
      | run text => exact ih.glue text

def tags (markup : List Markup) : List Tag := tagsOf (markup.flatMap Markup.tokens)

@[simp] theorem tags_append (ms ns : List Markup) : tags (ms ++ ns) = tags ms ++ tags ns := by
  simp [tags]

theorem toList_write {markup : List Markup} (h : ∀ m ∈ markup, m.Known) :
    (write markup).toList = (markup.flatMap Markup.tokens).flatMap Token.chars := by
  induction markup with
  | nil => rfl
  | cons m rest ih =>
      obtain ⟨hm, hrest⟩ := List.forall_mem_cons.1 h
      rw [List.flatMap_cons, List.flatMap_append, ← ih hrest, ← Markup.toList_write hm]
      simp [write]

theorem splits_write {markup : List Markup} (h : ∀ m ∈ markup, m.Known) :
    ∃ tokens, Splits tokens (write markup) ∧ tagsOf tokens = tags markup := by
  refine ⟨condense (markup.flatMap Markup.tokens), ⟨?_, known_condense ?_, apart_condense _⟩,
    tagsOf_condense _⟩
  · rw [toList_write h, chars_condense]
  · intro t ht
    obtain ⟨m, hm, ht⟩ := List.mem_flatMap.1 ht
    exact Markup.loose_tokens (h m hm) t ht

end MarkdownOutline.Html
