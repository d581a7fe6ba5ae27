import MarkdownOutline.Proofs.Block.Literal
import MarkdownOutline.Proofs.Outline.Agreement

namespace MarkdownOutline

open Text

variable {lines : List (List Char)}

def backslashed (lines : List (List Char)) : String := String.ofList (joinLines (lines.map backslash))

def wholeText (file : Option String) (size : Nat) : Location := ⟨1, 1, some size, file⟩

def paragraphOf (file : Option String) (lines : List (List Char)) : Node :=
  .branch (wholeText file lines.length) .document
    [.branch (wholeText file lines.length) .paragraph (lineNodes (wholeText file lines.length) lines)]

theorem splitLines_backslashed (hne : lines ≠ []) (h : ∀ line ∈ lines, IsSolid line) :
    (splitLines (joinLines (lines.map backslash))).map (fun line => expandTabs line) =
      lines.map backslash := by
  have hnewline : ∀ line ∈ lines.map backslash, '\n' ∉ line := by
    intro line hline
    obtain ⟨plain, hplain, rfl⟩ := List.mem_map.1 hline
    exact fun hmem => ((h plain hplain).no_control _ ((mem_backslash rfl).1 hmem)).2.1 rfl
  rw [splitLines_joinLines (by simpa using hne) hnewline, List.map_map]
  refine List.map_congr_left fun line hline => expandTabs_eq_self ?_ tabWidth
  exact fun hmem => ((h line hline).no_control _ ((mem_backslash rfl).1 hmem)).1 rfl

theorem readBlocks_backslashed (settings : Settings) (file : Option String) (hne : lines ≠ [])
    (h : ∀ line ∈ lines, IsSolid line) :
    Block.read settings file (joinLines (lines.map backslash)) =
      .ok [.branch (wholeText file lines.length) .paragraph
        (lineNodes (wholeText file lines.length) lines)] := by
  rw [Block.read, Block.readAt, splitLines_backslashed hne h]
  obtain ⟨first, rest, rfl⟩ := List.exists_cons_of_ne_nil hne
  have hliteral : ∀ line ∈ backslash first :: rest.map backslash, Block.IsLiteral line := by
    intro line hline
    obtain ⟨plain, hplain, rfl⟩ := List.mem_map.1 (List.map_cons ▸ hline)
    exact Block.isLiteral_backslash (h plain hplain)
  obtain ⟨loc, hloc, hread⟩ := Block.readWithin_of_isLiteral settings file Block.maxNesting 1 hliteral
  have hwhole : loc = wholeText file (first :: rest).length := by
    rw [hloc, wholeText, List.length_map, List.length_cons, Int.natCast_succ, Int.add_comm]
  rw [hwhole, ← List.map_cons, Inline.read_backslash settings _ h] at hread
  exact hread

theorem parse_backslashed (settings : Settings) (file : Option String) (hne : lines ≠ [])
    (h : ∀ line ∈ lines, IsSolid line) :
    parse settings file (backslashed lines) = .ok (paragraphOf file lines) := by
  have hreturn : '\r' ∉ joinLines lines :=
    not_mem_joinLines (by decide) fun line hline hmem => ((h line hline).no_control _ hmem).2.2 rfl
  have hprepared : Source.prepareChars (backslashed lines).toList = joinLines (lines.map backslash) := by
    rw [backslashed, String.toList_ofList, joinLines_map_backslash, prepareChars_backslash hreturn]
  have hcount : (joinLines (lines.map backslash)).count '\n' + 1 = lines.length := by
    rw [← length_splitLines, ← List.length_map (f := fun line => expandTabs line),
      splitLines_backslashed hne h, List.length_map]
  rw [parse, hprepared, readBlocks_backslashed settings file hne h]
  simp only [bind, Except.bind, hcount]
  rfl

section

variable (o : Html.Options)

def lineMarkup (lines : List (List Char)) : List Html.Markup :=
  (lines.map fun line => .text (String.ofList line)).intersperse .newline

theorem trees_lineNodes (a : Html.Around) (loc : Location) (lines : List (List Char)) :
    Html.trees o a (lineNodes loc lines) = pure (lineMarkup lines) := by
  induction lines with
  | nil => rfl
  | cons line rest ih =>
      cases rest with
      | nil => rfl
      | cons next rest =>
          have hcons : lineNodes loc (line :: next :: rest) = .leaf loc (.text (String.ofList line)) ::
              .leaf loc .softBreak :: lineNodes loc (next :: rest) := rfl
          simp only [hcons, Html.trees, Html.tree, ih, Html.leaf, pure_bind]
          rfl

theorem write_lineMarkup (lines : List (List Char)) :
    Html.write (lineMarkup lines) = escapeHtml (String.ofList (joinLines lines)) := by
  induction lines with
  | nil => rfl
  | cons line rest ih =>
      cases rest with
      | nil => simp [lineMarkup, Html.write, joinLines_singleton, Html.Markup.write]
      | cons next rest =>
          have hcons : lineMarkup (line :: next :: rest) =
              [.text (String.ofList line), .newline] ++ lineMarkup (next :: rest) := rfl
          have hline : Html.write [.text (String.ofList line), .newline] =
              String.ofList (escapeChars (line ++ ['\n'])) := by
            simp [Html.write, Html.Markup.write, Html.Markup.newline, escapeHtml, escapeChars_append]
          rw [hcons, Html.write_append, hline, ih, escapeHtml, String.toList_ofList, ← String.ofList_append,
            ← escapeChars_append, joinLines_cons (List.cons_ne_nil _ _), escapeHtml, String.toList_ofList,
            List.append_assoc, List.singleton_append]

theorem tree_paragraphOf (file : Option String) (lines : List (List Char)) :
    Html.tree o {} true (paragraphOf file lines) =
      pure (.start "p" [] :: lineMarkup lines ++ [.finish "p", .newline]) := by
  have hplain : ((({} : Html.Around).inside .document)).isTightItem = false := rfl
  simp only [paragraphOf, Html.tree, Html.opening, Html.closing, Html.trees, trees_lineNodes, pure_bind,
    hplain, Bool.false_eq_true, if_false, List.append_nil, List.nil_append, List.singleton_append]

theorem run_render_paragraphOf (ho : o.completePage = false) (place : Place) (file : Option String)
    (lines : List (List Char)) (s : Html.State) :
    (((Html.renderer o).render place (paragraphOf file lines)).run.run s).1 =
      .ok ("<p>" ++ escapeHtml (String.ofList (joinLines lines)) ++ "</p>\n") := by
  obtain ⟨result, t, k, hpage, hrender, _⟩ := Html.run_render o place (paragraphOf file lines) s
  have hpieces : Html.write (.start "p" [] :: lineMarkup lines ++ [.finish "p", .newline]) =
      "<p>" ++ escapeHtml (String.ofList (joinLines lines)) ++ "</p>\n" := by
    rw [Html.write_append, ← List.singleton_append, Html.write_append, write_lineMarkup]
    rfl
  rw [Html.page, run_bind, Html.header, tree_paragraphOf] at hpage
  simp only [ho, Bool.false_eq_true, if_false, run_bind, run_modify, run_pure, hpieces] at hpage
  rw [hrender, ← (Prod.mk.inj hpage).1]
  simp [Html.write]

end

/-- Without a marker there is no outline, and the page is what the document renders to. -/
theorem run_toHtml_of_not_marker {σ : Type} (r : Renderer σ) (place : Place) {settings : Settings}
    {file : Option String} {text body : String} (hmarker : Source.hasMarker text = false) {root : Node}
    (hparse : parse settings file text = .ok root) {s : σ}
    (hrender : ((r.render place root).run.run s).1 = .ok body) :
    ((toHtml r place settings file (.text text)).run s).1 = .ok ⟨"", body⟩ := by
  have hsource : (Source.text text).parse settings file = .ok root := by
    rw [Outline.parse_of_read? settings file rfl, hparse]
    rfl
  have hbody : (toHtml r place settings file (.text text)).run s =
      (((bodyOf r place root).run s).1.map fun body => ⟨"", body⟩, ((bodyOf r place root).run s).2) := by
    simp only [toHtml, hsource, outlineOf, Source.text?, Source.read?, hmarker, Bool.false_eq_true]
    rfl
  rw [hbody, Outline.run_bodyOf]
  rcases hrun : (r.render place root).run.run s with ⟨result, t⟩
  rw [hrun] at hrender
  cases hrender
  rfl

/-- Backslashes in front of all marks take all syntax out of a text: whatever the settings, it is read
as one paragraph of its lines, and the page is their escaped text. -/
theorem backslashed_neutral (settings : Settings) (file : Option String) (hne : lines ≠ [])
    (h : ∀ line ∈ lines, IsSolid line) :
    parse settings file (backslashed lines) = .ok (paragraphOf file lines) ∧
      ∀ (o : Html.Options) (place : Place) (s : Html.State), o.completePage = false →
        ((toHtml (Html.renderer o) place settings file (.text (backslashed lines))).run s).1 =
          .ok ⟨"", "<p>" ++ escapeHtml (String.ofList (joinLines lines)) ++ "</p>\n"⟩ := by
  have hparse := parse_backslashed settings file hne h
  have hmarker : Source.hasMarker (backslashed lines) = false := by
    rw [Source.hasMarker, backslashed, String.toList_ofList, joinLines_map_backslash,
      (guarded_backslash _).afterMarker?_eq_none]
    rfl
  exact ⟨hparse, fun o place s ho => run_toHtml_of_not_marker _ place hmarker hparse
    (run_render_paragraphOf o ho place file lines s)⟩

def markedLines : List (List Char) :=
  ["# *a* [TOC]".toList, "1. <b> & \\ `c`".toList, "---".toList, "> [d](e) &amp; ~~f~~".toList]

/-- Lines that would be a heading, a list, a break and a quote. -/
theorem markedLines_neutral : markedLines ≠ [] ∧ (∀ line ∈ markedLines, IsSolid line) ∧
    ({} : Html.Options).completePage = false ∧
    backslashed markedLines = "\\# \\*a\\* \\[TOC\\]\n1\\. \\<b\\> \\& \\\\ \\`c\\`\n\\-\\-\\-\n" ++
      "\\> \\[d\\]\\(e\\) \\&amp\\; \\~\\~f\\~\\~" ∧
    parse {} none (backslashed markedLines) = .ok (paragraphOf none markedLines) ∧
    ((toHtml (Html.renderer {}) [] {} none (.text (backslashed markedLines))).run {}).1 =
      .ok ⟨"", "<p># *a* [TOC]\n1. &lt;b&gt; &amp; \\ `c`\n---\n&gt; [d](e) &amp;amp; ~~f~~</p>\n"⟩ := by
  have hsolid : ∀ line ∈ markedLines, IsSolid line := by decide
  obtain ⟨hparse, hpage⟩ := backslashed_neutral {} none (by decide) hsolid
  exact ⟨by decide, hsolid, rfl, by decide +kernel, hparse, hpage {} [] {} rfl⟩

end MarkdownOutline
