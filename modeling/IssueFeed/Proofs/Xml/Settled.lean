import IssueFeed.Proofs.Xml.Escaped
import IssueFeed.Xml.Branch
import IssueFeed.Xml.Event

/-! Texts as they are written and as they come back.
A text with blanks at its ends is written verbatim and keeps them. Only one that holds the end of a
verbatim section must be escaped all the same, and loses its outer blanks of XML. -/
namespace IssueFeed.Xml

open Text (isXmlBlank isBlank trimBoth hasInfix)

variable {text : List Char}

/-- Whether a text is written in a verbatim section. -/
def WrittenVerbatim (text : List Char) : Prop :=
  trimBoth isBlank text ≠ text ∧ hasInfix [']', ']', '>'] text = false

instance (text : List Char) : Decidable (WrittenVerbatim text) :=
  inferInstanceAs (Decidable (_ ∧ _))

theorem writtenText_verbatim (h : WrittenVerbatim text) :
    writtenText text = "<![CDATA[".toList ++ text ++ "]]>".toList := by
  rw [writtenText, if_pos ⟨h.1, by simp [h.2]⟩]

theorem writtenText_escaped (h : ¬ WrittenVerbatim text) : writtenText text = escape text := by
  rw [writtenText, if_neg]
  rintro ⟨padded, absent⟩
  exact h ⟨padded, by simpa using absent⟩

/-- How a reader meets a text that has been written. -/
def writtenStretch (text : List Char) : Stretch :=
  if WrittenVerbatim text then .verbatim text else .escaped (escape (trimBoth isXmlBlank text))

/-- What a reader takes a written text for. -/
def settle (text : List Char) : List Char :=
  if hasInfix [']', ']', '>'] text then trimBoth isXmlBlank text else text

theorem trimBoth_eq_of_bare (bare : trimBoth isBlank text = text) :
    trimBoth isXmlBlank text = text := by
  have trimmed := Text.trimBoth_eq_self_iff.mp bare
  exact (trimmed.mono fun _ => Text.isBlank_of_isXmlBlank).trimBoth_eq

theorem writtenStretch_value (text : List Char) :
    (writtenStretch text).value? = some (settle text) := by
  by_cases verbatim : WrittenVerbatim text
  · rw [writtenStretch, if_pos verbatim, settle, if_neg (by simp [verbatim.2])]
    rfl
  · rw [writtenStretch, if_neg verbatim, Stretch.value?, unescape_escape]
    by_cases marked : hasInfix [']', ']', '>'] text = true
    · rw [settle, if_pos marked]
    · have bare : trimBoth isBlank text = text := by
        by_contra padded
        exact verbatim ⟨padded, by simpa using marked⟩
      rw [settle, if_neg marked, trimBoth_eq_of_bare bare]

theorem settle_settle (text : List Char) : settle (settle text) = settle text := by
  by_cases marked : hasInfix [']', ']', '>'] text = true
  · have trimmed : settle text = trimBoth isXmlBlank text := if_pos marked
    rw [trimmed, settle, Text.trimBoth_trimBoth, ite_self]
  · have same : settle text = text := if_neg marked
    rw [same, same]

/-- A text of blanks only is written verbatim, so no written text vanishes. -/
theorem escaped_text_remains (nonempty : text ≠ []) (h : ¬ WrittenVerbatim text) :
    text.dropWhile isXmlBlank ≠ [] := by
  intro gone
  have blank := List.dropWhile_eq_nil_iff.mp gone
  apply h
  constructor
  · intro bare
    have none : text.dropWhile isBlank = [] :=
      List.dropWhile_eq_nil_iff.mpr fun c hc => Text.isBlank_of_isXmlBlank (blank c hc)
    rw [trimBoth, none] at bare
    exact nonempty bare.symm
  · by_contra marked
    have found := Text.hasInfix_iff.mp (by simpa using marked)
    exact absurd (blank ']' (found.subset (by simp))) (by decide)

/-- The events of a leaf's text; an empty text is no event. -/
def textEvents (text : List Char) : List Event :=
  if text = [] then [] else [.text [writtenStretch text]]

end IssueFeed.Xml
