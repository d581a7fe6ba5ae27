import MarkdownOutline.Scoped.Convert

namespace MarkdownOutline

namespace Text

theorem foldNewlines_cons {c : Char} (h : c ≠ '\r') (cs : List Char) :
    foldNewlines (c :: cs) = c :: foldNewlines cs := by
  rw [foldNewlines.eq_3 c cs fun _ hc => absurd hc h, if_neg h]

theorem foldNewlines_append {front : List Char} (h : '\r' ∉ front) (cs : List Char) :
    foldNewlines (front ++ cs) = front ++ foldNewlines cs := by
  induction front with
  | nil => rfl
  | cons c front ih =>
      rw [List.mem_cons, not_or] at h
      rw [List.cons_append, foldNewlines_cons (Ne.symm h.1), ih h.2, List.cons_append]

/-- Folding neither makes nor hides anything that has no part in a line ending. -/
theorem isPrefixOf_foldNewlines {pattern : List Char} (hreturn : '\r' ∉ pattern) (hnewline : '\n' ∉ pattern)
    (cs : List Char) : pattern.isPrefixOf (foldNewlines cs) = pattern.isPrefixOf cs := by
  induction pattern generalizing cs with
  | nil => rfl
  | cons d pattern ih =>
      rw [List.mem_cons, not_or] at hreturn hnewline
      have hd : (d == '\r') = false := beq_false_of_ne (Ne.symm hreturn.1)
      have hd' : (d == '\n') = false := beq_false_of_ne (Ne.symm hnewline.1)
      fun_cases foldNewlines cs with
      | case1 => rfl
      | case2 cs => rw [List.isPrefixOf, List.isPrefixOf, hd, hd', Bool.false_and, Bool.false_and]
      | case3 c cs =>
          by_cases hc : c = '\r'
          · rw [if_pos hc, hc, List.isPrefixOf, List.isPrefixOf, hd, hd', Bool.false_and, Bool.false_and]
          · rw [if_neg hc, List.isPrefixOf, List.isPrefixOf, ih hreturn.2 hnewline.2]

def endLines (ending cs : List Char) : List Char := cs.flatMap fun c => if c = '\n' then ending else [c]

def IsReturn (ending : List Char) : Prop := ending = ['\r', '\n'] ∨ ending = ['\r']

theorem endLines_cons (ending : List Char) (c : Char) (cs : List Char) :
    endLines ending (c :: cs) = (if c = '\n' then ending else [c]) ++ endLines ending cs := rfl

theorem head?_endLines {ending : List Char} (h : IsReturn ending) (cs : List Char) :
    (endLines ending cs).head? ≠ some '\n' := by
  cases cs with
  | nil => exact fun h => nomatch h
  | cons c cs =>
      rw [endLines_cons]
      split
      · rcases h with rfl | rfl <;> simp
      · simpa

theorem foldNewlines_return {cs : List Char} (h : cs.head? ≠ some '\n') :
    foldNewlines ('\r' :: cs) = '\n' :: foldNewlines cs := by
  rw [foldNewlines.eq_3 '\r' cs fun ds _ hcs => h (hcs ▸ rfl), if_pos rfl]

theorem foldNewlines_endLines {ending cs : List Char} (hending : IsReturn ending) (h : '\r' ∉ cs) :
    foldNewlines (endLines ending cs) = cs := by
  induction cs with
  | nil => rfl
  | cons c cs ih =>
      rw [List.mem_cons, not_or] at h
      rw [endLines_cons]
      split
      · next hc =>
          subst hc
          have hhead := head?_endLines hending cs
          rcases hending with rfl | rfl
          · exact congrArg ('\n' :: ·) (ih h.2)
          · exact (foldNewlines_return hhead).trans (congrArg ('\n' :: ·) (ih h.2))
      · rw [List.singleton_append, foldNewlines_cons (Ne.symm h.1), ih h.2]

end Text

namespace Source

open Text

theorem afterMarker?_cons {c : Char} (h : c ≠ '[') (cs : List Char) :
    afterMarker? (c :: cs) = afterMarker? cs := by
  rw [afterMarker?, if_neg]
  simp [marker, List.isPrefixOf, Ne.symm h]

def IsParted (cs before rest : List Char) : Prop :=
  cs = before ++ marker ++ rest ∧ ¬marker <:+: before ++ marker.dropLast

theorem afterMarker?_eq_none {cs : List Char} : afterMarker? cs = none ↔ ¬marker <:+: cs := by
  induction cs with
  | nil => exact ⟨fun _ => by decide, fun _ => rfl⟩
  | cons c cs ih =>
      rw [List.infix_cons_iff, not_or, ← List.isPrefixOf_iff_prefix, afterMarker?, ← ih]
      split
      · next h => simp [h]
      · next h => simp [h]

theorem dropLast_prefix_marker (rest : List Char) : marker.dropLast <+: marker ++ rest :=
  (List.dropLast_prefix marker).trans (List.prefix_append marker rest)

theorem exists_isParted {cs rest : List Char} (h : afterMarker? cs = some rest) :
    ∃ before, IsParted cs before rest := by
  induction cs with
  | nil => cases h
  | cons c cs ih =>
      rw [afterMarker?] at h
      split at h
      · next hprefix =>
          obtain ⟨more, hmore⟩ := List.isPrefixOf_iff_prefix.1 hprefix
          rw [← hmore, List.drop_left] at h
          cases h
          exact ⟨[], hmore.symm, by decide⟩
      · next hprefix =>
          obtain ⟨before, rfl, hfirst⟩ := ih h
          refine ⟨c :: before, rfl, ?_⟩
          rw [List.cons_append, List.infix_cons_iff, not_or]
          refine ⟨fun hshort => hprefix (List.isPrefixOf_iff_prefix.2 ?_), hfirst⟩
          rw [List.append_assoc]
          exact hshort.trans ((List.prefix_append_right_inj (c :: before)).2 (dropLast_prefix_marker rest))

def countMarkers : List Char → Nat
  | [] => 0
  | c :: cs => (if marker.isPrefixOf (c :: cs) then 1 else 0) + countMarkers cs

theorem countMarkers_cons {c : Char} (h : c ≠ '[') (cs : List Char) :
    countMarkers (c :: cs) = countMarkers cs := by
  rw [countMarkers, if_neg, Nat.zero_add]
  simp [marker, List.isPrefixOf, Ne.symm h]

theorem countMarkers_marker (rest : List Char) : countMarkers (marker ++ rest) = countMarkers rest + 1 := by
  have hbehind : countMarkers ("TOC]".toList ++ rest) = countMarkers rest := by
    simp only [String.reduceToList, List.cons_append, List.nil_append]
    rw [countMarkers_cons (by decide), countMarkers_cons (by decide), countMarkers_cons (by decide),
      countMarkers_cons (by decide)]
  calc countMarkers (marker ++ rest) = 1 + countMarkers ("TOC]".toList ++ rest) := rfl
    _ = countMarkers rest + 1 := by rw [hbehind, Nat.add_comm]

theorem countMarkers_of_none {cs : List Char} (h : afterMarker? cs = none) : countMarkers cs = 0 := by
  induction cs with
  | nil => rfl
  | cons c cs ih =>
      rw [afterMarker?] at h
      split at h
      · cases h
      · next hprefix => rw [countMarkers, if_neg hprefix, ih h]

theorem countMarkers_of_some {cs rest : List Char} (h : afterMarker? cs = some rest) :
    countMarkers cs = countMarkers rest + 1 := by
  induction cs with
  | nil => cases h
  | cons c cs ih =>
      rw [afterMarker?] at h
      split at h
      · next hprefix =>
          obtain ⟨more, hmore⟩ := List.isPrefixOf_iff_prefix.1 hprefix
          rw [← hmore, List.drop_left] at h
          cases h
          rw [← hmore, countMarkers_marker]
      · next hprefix => rw [countMarkers, if_neg hprefix, ih h, Nat.zero_add]

theorem countMarkers_eq_zero {cs : List Char} : countMarkers cs = 0 ↔ afterMarker? cs = none := by
  refine ⟨fun h => ?_, countMarkers_of_none⟩
  cases hmarker : afterMarker? cs with
  | none => rfl
  | some rest => rw [countMarkers_of_some hmarker] at h; cases h

theorem isPrefixOf_marker_foldNewlines (cs : List Char) :
    marker.isPrefixOf (foldNewlines cs) = marker.isPrefixOf cs :=
  isPrefixOf_foldNewlines (by decide) (by decide) cs

theorem afterMarker?_foldNewlines (cs : List Char) :
    afterMarker? (foldNewlines cs) = (afterMarker? cs).map foldNewlines := by
  fun_induction foldNewlines cs with
  | case1 => rfl
  | case2 cs ih => rw [afterMarker?_cons (by decide), ih, afterMarker?_cons (by decide), afterMarker?_cons (by decide)]
  | case3 c cs hcs ih =>
      have hfold : foldNewlines (c :: cs) = (if c = '\r' then '\n' else c) :: foldNewlines cs :=
        foldNewlines.eq_3 c cs hcs
      rw [afterMarker?, afterMarker?, ← hfold, isPrefixOf_marker_foldNewlines]
      split
      · next h =>
          obtain ⟨rest, hrest⟩ := List.isPrefixOf_iff_prefix.1 h
          rw [← hrest, foldNewlines_append (by decide), List.drop_left, List.drop_left, Option.map_some]
      · exact ih

theorem countMarkers_foldNewlines (cs : List Char) : countMarkers (foldNewlines cs) = countMarkers cs := by
  fun_induction foldNewlines cs with
  | case1 => rfl
  | case2 cs ih => rw [countMarkers_cons (by decide), ih, countMarkers_cons (by decide), countMarkers_cons (by decide)]
  | case3 c cs hcs ih =>
      have hfold : foldNewlines (c :: cs) = (if c = '\r' then '\n' else c) :: foldNewlines cs :=
        foldNewlines.eq_3 c cs hcs
      rw [countMarkers, countMarkers, ← hfold, isPrefixOf_marker_foldNewlines, ih]

def dropEnding : List Char → List Char
  | '\r' :: '\n' :: cs => cs
  | '\r' :: cs => cs
  | '\n' :: cs => cs
  | cs => cs

theorem dropNewline_foldNewlines (cs : List Char) :
    dropNewline (foldNewlines cs) = foldNewlines (dropEnding cs) := by
  fun_cases dropEnding cs with
  | case1 cs => rfl
  | case2 cs h => rw [foldNewlines.eq_3 '\r' cs fun ds _ hcs => h ds hcs, if_pos rfl]; rfl
  | case3 cs => rfl
  | case4 cs _ h h' =>
      cases cs with
      | nil => rfl
      | cons c cs =>
          have hreturn : c ≠ '\r' := fun hc => h cs (hc ▸ rfl)
          have hnewline : c ≠ '\n' := fun hc => h' cs (hc ▸ rfl)
          rw [foldNewlines_cons hreturn, dropNewline.eq_2 _ fun ds hcs => hnewline (List.cons.inj hcs).1]

theorem prepareChars_of_none {cs : List Char} (h : afterMarker? cs = none) :
    prepareChars cs = foldNewlines cs := by
  rw [prepareChars, cutMarker, afterMarker?_foldNewlines, h, Option.map_none]

theorem prepareChars_of_some {cs rest : List Char} (h : afterMarker? cs = some rest) :
    prepareChars cs = foldNewlines (dropEnding rest) := by
  rw [prepareChars, cutMarker, afterMarker?_foldNewlines, h, Option.map_some]
  exact dropNewline_foldNewlines rest

theorem not_mem_prepareChars (cs : List Char) : '\r' ∉ prepareChars cs := by
  cases h : afterMarker? cs with
  | none => rw [prepareChars_of_none h]; exact not_mem_foldNewlines cs
  | some rest => rw [prepareChars_of_some h]; exact not_mem_foldNewlines (dropEnding rest)

theorem countMarkers_dropEnding (cs : List Char) : countMarkers (dropEnding cs) = countMarkers cs := by
  fun_cases dropEnding cs with
  | case1 cs => rw [countMarkers_cons (by decide), countMarkers_cons (by decide)]
  | case2 cs => rw [countMarkers_cons (by decide)]
  | case3 cs => rw [countMarkers_cons (by decide)]
  | case4 => rfl

/-- Only the first marker goes. -/
theorem countMarkers_prepareChars (cs : List Char) :
    countMarkers (prepareChars cs) = countMarkers cs - 1 := by
  cases h : afterMarker? cs with
  | none => rw [prepareChars_of_none h, countMarkers_foldNewlines, countMarkers_of_none h]
  | some rest =>
      rw [prepareChars_of_some h, countMarkers_foldNewlines, countMarkers_dropEnding, countMarkers_of_some h,
        Nat.add_sub_cancel]

theorem prepareChars_eq_self_iff {cs : List Char} (h : '\r' ∉ cs) :
    prepareChars cs = cs ↔ countMarkers cs = 0 := by
  rw [countMarkers_eq_zero]
  refine ⟨fun hsame => ?_, fun hnone => by rw [prepareChars_of_none hnone, foldNewlines_eq_self h]⟩
  cases hmarker : afterMarker? cs with
  | none => rfl
  | some rest =>
      -- One marker less is not the same text.
      have hcount := countMarkers_prepareChars cs
      rw [hsame, countMarkers_of_some hmarker] at hcount
      omega

end Source

open Text

theorem toHtml_congr {σ : Type} (r : Renderer σ) (place : Place) (config : Option Settings) (file : Option String)
    {a b : String} (h : foldNewlines a.toList = foldNewlines b.toList) :
    Scoped.toHtml r place config file (.text a) = Scoped.toHtml r place config file (.text b) := by
  have hparse : (Source.text a).parseScoped config file = (Source.text b).parseScoped config file := by
    have hread : Scoped.parse config file a = Scoped.parse config file b := by
      rw [Scoped.parse, Scoped.parse, Source.prepareChars, Source.prepareChars, h]
    exact congrArg (ExceptT.adapt Failure.parse) hread
  have hmarker : Source.hasMarker a = Source.hasMarker b := by
    have hfold (s : String) : Source.hasMarker s = (Source.afterMarker? (foldNewlines s.toList)).isSome := by
      rw [Source.afterMarker?_foldNewlines, Option.isSome_map, Source.hasMarker]
    rw [hfold, hfold, h]
  have houtline root : outlineOf r place (.text a) root = outlineOf r place (.text b) root := by
    simp only [outlineOf, Source.text?, Source.read?, hmarker]
  simp only [Scoped.toHtml, hparse, houtline]

namespace Source

def endedBy (ending : List Char) (text : String) : String := String.ofList (endLines ending text.toList)

/-- How the lines of a source end does not matter. The marker is there or not, and the text to be read
begins behind the first one and the ending of its line. To prepare a text once more takes off a second
marker and nothing else. Sources with the same lines give the same page and leave the renderer and the
settings in the same state, whatever these are. -/
theorem endings_immaterial (text : String) :
    hasMarker text = hasMarker (normalize text) ∧
    '\r' ∉ (prepare text).toList ∧
    (hasMarker text = true → ∃ before rest, IsParted text.toList before rest ∧
      prepare text = normalize (String.ofList (dropEnding rest))) ∧
    (prepare (prepare text) = prepare text ↔ countMarkers text.toList < 2) ∧
    ∀ {σ : Type} (r : Renderer σ) (place : Place) (config : Option Settings) (file : Option String),
      Scoped.toHtml r place config file (.text (normalize text)) =
        Scoped.toHtml r place config file (.text text) ∧
      ('\r' ∉ text.toList → ∀ ending, IsReturn ending →
        Scoped.toHtml r place config file (.text (endedBy ending text)) =
          Scoped.toHtml r place config file (.text text)) := by
  refine ⟨?_, ?_, fun hmarker => ?_, ?_, fun r place config file => ⟨?_, fun hreturn ending hending => ?_⟩⟩
  · rw [hasMarker, hasMarker, normalize, String.toList_ofList, afterMarker?_foldNewlines, Option.isSome_map]
  · rw [prepare, String.toList_ofList]
    exact not_mem_prepareChars text.toList
  · obtain ⟨rest, hrest⟩ := Option.isSome_iff_exists.1 hmarker
    obtain ⟨before, hparted⟩ := exists_isParted hrest
    refine ⟨before, rest, hparted, ?_⟩
    rw [prepare, prepareChars_of_some hrest, normalize, String.toList_ofList]
  · rw [prepare, prepare, String.toList_ofList, String.ofList_inj,
      prepareChars_eq_self_iff (not_mem_prepareChars text.toList), countMarkers_prepareChars]
    omega
  · apply toHtml_congr
    rw [normalize, String.toList_ofList, foldNewlines_eq_self (not_mem_foldNewlines text.toList)]
  · apply toHtml_congr
    rw [endedBy, String.toList_ofList, foldNewlines_endLines hending hreturn, foldNewlines_eq_self hreturn]

/-- Of two carriage returns behind a marker only one belongs to it. -/
theorem mixedEndings_immaterial :
    hasMarker "a\r[TOC]\r\r\nb[TOC]" = true ∧
      (∃ before rest, IsParted "a\r[TOC]\r\r\nb[TOC]".toList before rest ∧
        prepare "a\r[TOC]\r\r\nb[TOC]" = normalize (String.ofList (dropEnding rest))) ∧
      prepare (prepare "a\r[TOC]\r\r\nb[TOC]") ≠ prepare "a\r[TOC]\r\r\nb[TOC]" ∧
      '\r' ∉ "[TOC]\n# a\n\nb".toList ∧
      endedBy ['\r', '\n'] "[TOC]\n# a\n\nb" = "[TOC]\r\n# a\r\n\r\nb" ∧
      Scoped.toHtml (Html.renderer {}) [] none none (.text "[TOC]\r\n# a\r\n\r\nb") =
        Scoped.toHtml (Html.renderer {}) [] none none (.text "[TOC]\n# a\n\nb") := by
  obtain ⟨_, _, hrest, hagain, _⟩ := endings_immaterial "a\r[TOC]\r\r\nb[TOC]"
  obtain ⟨_, _, _, _, hpage⟩ := endings_immaterial "[TOC]\n# a\n\nb"
  have hmarker : hasMarker "a\r[TOC]\r\r\nb[TOC]" = true := by decide
  have hreturn : '\r' ∉ "[TOC]\n# a\n\nb".toList := by decide
  have hended : endedBy ['\r', '\n'] "[TOC]\n# a\n\nb" = "[TOC]\r\n# a\r\n\r\nb" := by decide
  have hsame := (hpage (Html.renderer {}) [] none none).2 hreturn ['\r', '\n'] (.inl rfl)
  rw [hended] at hsame
  exact ⟨hmarker, hrest hmarker, fun h => absurd (hagain.1 h) (by decide), hreturn, hended, hsame⟩

end Source

end MarkdownOutline
