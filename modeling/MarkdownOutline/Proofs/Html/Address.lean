import MarkdownOutline.Html.Renderer
import MarkdownOutline.Proofs.Block.Grammar
import MarkdownOutline.Proofs.Render.Run
import MarkdownOutline.Proofs.Text.Loose

namespace MarkdownOutline.Html

open Text CharRef Markup

def encoded (url : String) : String := String.ofList (percentEncode url.toList)

theorem encodeUrl_eq_encoded_iff {url : String} (h : ¬HasWhole url.toList) :
    encodeUrl url = .ok (encoded url) ↔ ¬HasLoose url.toList := by
  unfold encodeUrl
  rcases decode_of_not_hasWhole h with ⟨hloose, hdecode⟩ | ⟨hloose, hlighter⟩
  · simp [hloose, hdecode, encoded]
  · refine iff_of_false ?_ (not_not_intro hloose)
    cases hdecode : decode url.toList with
    | error e => simp
    | ok text =>
        intro heq
        exact (hlighter text hdecode).percentEncode_ne (String.ofList_injective (Except.ok.inj heq))

/-- Wherever a link or an image with the address stands, its tag holds the text `written`. -/
structure IsWritten (url written : String) : Prop where
  link : ∀ o containers node title children s,
    (enter o containers node (.link url title) children).run.run s =
      (.ok [start "a" (⟨"href", written⟩ :: optional "title" title)], s)
  image : ∀ o alt title s,
    (leaf o (.image url alt title)).run.run s =
      (.ok [single "img" ([⟨"src", written⟩, ⟨"alt", alt⟩] ++ optional "title" title)], s)

theorem isWritten_of_encodeUrl {url written : String} (h : encodeUrl url = .ok written) :
    IsWritten url written where
  link o containers node title children s := by
    simp only [enter, h]
    rfl
  image o alt title s := by
    simp only [leaf, h]
    rfl

/-- An address without whole references is only percent-encoded, in every tag that holds it, if
neither a number nor a bare name stands behind one of its ampersands, and only then. -/
theorem address_kept_iff {url : String} (h : ¬HasWhole url.toList) :
    (encodeUrl url = .ok (encoded url) ↔ ¬HasLoose url.toList) ∧
      (¬HasLoose url.toList → IsWritten url (encoded url)) := by
  have hiff := encodeUrl_eq_encoded_iff h
  exact ⟨hiff, fun hloose => isWritten_of_encodeUrl (hiff.2 hloose)⟩

theorem queryAddress_kept :
    ¬HasWhole "/p?q=é&r=2".toList ∧ ¬HasLoose "/p?q=é&r=2".toList ∧
      IsWritten "/p?q=é&r=2" "/p?q=%C3%A9&r=2" := by
  have hwhole : ¬HasWhole "/p?q=é&r=2".toList := by decide +kernel
  have hencoded : encodeUrl "/p?q=é&r=2" = .ok (encoded "/p?q=é&r=2") :=
    ok_of_toOption (by decide +kernel)
  obtain ⟨hiff, hwritten⟩ := address_kept_iff hwhole
  have hloose := hiff.1 hencoded
  exact ⟨hwhole, hloose, hwritten hloose⟩

/-- A parameter by the name of a character reference is lost. -/
theorem queryAddress_not_kept :
    ¬HasWhole "/?a=1&copy=2".toList ∧ encoded "/?a=1&copy=2" = "/?a=1&copy=2" ∧
      encodeUrl "/?a=1&copy=2" = .ok "/?a=1%C2%A9=2" :=
  ⟨by decide +kernel, by decide +kernel, ok_of_toOption (by decide +kernel)⟩

end MarkdownOutline.Html
