import IssueFeed.Proofs.Feed.Reload
import IssueFeed.Proofs.Rss.Ending

/-! Feeds that break off.
A stored feed is read as long as the tag that ends its root element is whole. Wherever it breaks off
before, be it within a character, it is not read at all. -/
namespace IssueFeed

namespace Rss

open Xml (Leads PlainName openingTag closingTag events markup)

/-- A written document up to the tag that ends its root element. -/
def writtenFront (channel : Channel) : List Char :=
  xmlDeclaration ++ (openingTag "rss".toList rootAttributes ++ writtenInside channel)

theorem documentAround_writtenInside (channel : Channel) (ending : List Char) :
    documentAround (writtenInside channel) ending =
      writtenFront channel ++ closingTag "rss".toList ++ ending := by
  simp only [documentAround, writtenFront, List.append_assoc]

theorem leads_xmlDeclaration : Leads 0 0 xmlDeclaration := by
  have read : markup "?xml version=\"1.0\" encoding=\"UTF-8\"?>".toList = .ok (.ignored, []) := rfl
  have line : Leads 0 0 ['\n'] :=
    Xml.leads_text (List.forall_mem_singleton.mpr (by decide)) 0
  have pieces : xmlDeclaration =
      '<' :: "?xml version=\"1.0\" encoding=\"UTF-8\"?>".toList ++ ['\n'] := rfl
  rw [pieces]
  exact (Xml.leads_markup read fun _ => rfl).trans line

theorem leads_writtenFront (channel : Channel) : Leads 0 1 (writtenFront channel) := by
  apply leads_xmlDeclaration.trans
  apply (root_opens.leads 0).trans
  exact (laid_writtenInside channel).leads 0

/-- Nothing is read of a document before it is written to the end of its root element. -/
theorem read_unfinished (channel : Channel) {front : List Char}
    (begins : front <+: writtenFront channel ++ closingTag "rss".toList)
    (short : front ≠ writtenFront channel ++ closingTag "rss".toList) :
    ∃ what, read (events front) = .error what := by
  have plain : PlainName "rss".toList := by decide
  have unclosed := (leads_writtenFront channel).unfinished (plain.markup_closing []) begins short
  cases found : read (events front) with
  | error what => exact ⟨what, rfl⟩
  | ok read =>
    rw [read_closes found] at unclosed
    contradiction

end Rss

/-- A stored channel up to the end of its root element; a line break follows. -/
def Channel.rootText (channel : Channel) : String :=
  String.ofList (Rss.writtenFront channel) ++ "</rss>"

variable {channel : Channel} {count : Nat}

theorem rootText_toList (channel : Channel) :
    channel.rootText.toList =
      Rss.writtenFront channel ++ Xml.closingTag "rss".toList := by
  rw [Channel.rootText, String.toList_append, String.toList_ofList]
  rfl

theorem rootText_begins (channel : Channel) : ∃ rest, channel.rootText.toList = '<' :: rest :=
  ⟨_, (rootText_toList channel).trans rfl⟩

theorem serialize_eq (channel : Channel) :
    channel.serialize = channel.rootText.toUTF8 ++ "\n".toUTF8 := by
  have lined : channel.render = channel.rootText ++ "\n" := by
    apply String.toList_inj.mp
    rw [String.toList_append, rootText_toList, Rss.render_eq, Rss.documentAround_writtenInside]
    rfl
  rw [Channel.serialize, lined]
  exact String.toByteArray_append

theorem decode_eq_ok {bytes : ByteArray} {text : String} (decoded : Text.decode bytes = .ok text) :
    bytes = text.toUTF8 := by
  unfold Text.decode String.fromUTF8? at decoded
  split at decoded <;> try contradiction
  rename_i found
  split_ifs at found
  cases found
  cases decoded
  rfl

/-- A text that fills the beginning of another one's bytes is a beginning of it. -/
theorem prefix_of_extract {text whole : String}
    (filled : text.toUTF8 = whole.toUTF8.extract 0 count) (short : count < whole.toUTF8.size) :
    text.toList <+: whole.toList ∧ text.toList ≠ whole.toList := by
  constructor
  · apply List.isPrefix_of_utf8Encode_append_eq_utf8Encode
      (whole.toUTF8.extract count whole.toUTF8.size)
    rw [← String.toByteArray_ofList, ← String.toByteArray_ofList, String.ofList_toList,
      String.ofList_toList]
    change text.toUTF8 ++ _ = whole.toUTF8
    rw [filled, ← ByteArray.extract_eq_extract_append_extract count (Nat.zero_le _) short.le,
      ByteArray.extract_zero_size]
  · intro same
    rw [String.toList_inj.mp same] at filled
    have sizes := congrArg ByteArray.size filled
    rw [ByteArray.size_extract] at sizes
    omega

theorem serialize_extract (short : count < channel.rootText.toUTF8.size) :
    channel.serialize.extract 0 count = channel.rootText.toUTF8.extract 0 count := by
  rw [serialize_eq, ByteArray.extract_append, Nat.sub_eq_zero_of_le short.le, Nat.zero_sub,
    ByteArray.extract_same, ByteArray.append_empty]

theorem parse_unfinished (short : count < channel.rootText.toUTF8.size) :
    ∃ what, Channel.parse (channel.serialize.extract 0 count) = .error what := by
  rw [serialize_extract short]
  unfold Channel.parse
  cases decoded : Text.decode (channel.rootText.toUTF8.extract 0 count) with
  | error what => exact ⟨_, rfl⟩
  | ok text =>
    obtain ⟨begins, other⟩ := prefix_of_extract (decode_eq_ok decoded).symm short
    rw [rootText_toList] at begins other
    obtain ⟨what, refused⟩ := Rss.read_unfinished channel begins other
    -- No mark stands before the bracket with which every stored feed begins.
    have marks : text.toList.dropWhile (· == '\uFEFF') = text.toList := by
      cases front : text.toList with
      | nil => rfl
      | cons c rest =>
        rw [front] at begins
        obtain ⟨rfl, -⟩ := List.cons_prefix_cons.mp begins
        rfl
    exact ⟨.document what, by simp only [Channel.ofText, marks, refused]⟩

theorem parse_finished (long : channel.rootText.toUTF8.size ≤ count) :
    Channel.parse (channel.serialize.extract 0 count) = .ok channel.settled := by
  rcases long.eq_or_lt with ends | beyond
  · obtain ⟨rest, begins⟩ := rootText_begins channel
    rw [serialize_eq, ByteArray.extract_append_eq_left ends.symm]
    apply parse_begun begins
    rw [rootText_toList, ← List.append_nil (_ ++ _), ← Rss.documentAround_writtenInside]
    exact Rss.read_written channel nofun
  · have size : channel.serialize.size = channel.rootText.toUTF8.size + 1 := by
      rw [serialize_eq, ByteArray.size_append]
      rfl
    have whole : count = max count channel.serialize.size := by omega
    rw [whole, ByteArray.extract_zero_max_size, parse_serialize]

theorem beginning_not_blank (begun : 0 < count) :
    isBlankDocument (channel.serialize.extract 0 count) = false := by
  obtain ⟨rest, begins⟩ := render_begins channel
  have bracket : ['<'].utf8Encode.extract 0 count = ['<'].utf8Encode := by
    have size : ['<'].utf8Encode.size = 1 := by decide
    have whole : count = max count ['<'].utf8Encode.size := by omega
    rw [whole, ByteArray.extract_zero_max_size]
  rw [Channel.serialize, begun_bytes begins, ByteArray.extract_append, bracket]
  exact begun_bytes_not_blank _

/-- A stored channel can be read exactly from those of its beginnings that hold all of its root
element, and then nothing of it is missing. Of a feed that breaks off before, not even a part is
taken for a channel: a fresh one begins, with a warning unless nothing at all is stored. -/
theorem broken_feed_refused (channel : Channel) :
    ∃ front : ByteArray, channel.serialize = front ++ "</rss>\n".toUTF8 ∧ ∀ count,
      let stored := channel.serialize.extract 0 count
      (count < (front ++ "</rss>".toUTF8).size →
        ∃ what, Channel.parse stored = .error what ∧
          ∀ config now, Channel.load config now (some stored) =
            (Channel.fresh config.feed config.source.pageUrl now.year,
              if count = 0 then []
              else [⟨.warn,
                s!"Previous feed could not be parsed ({what.message}); starting a new one"⟩])) ∧
      ((front ++ "</rss>".toUTF8).size ≤ count → Channel.parse stored = .ok channel.settled) := by
  have root : (String.ofList (Rss.writtenFront channel)).toUTF8 ++ "</rss>".toUTF8 =
      channel.rootText.toUTF8 := String.toByteArray_append.symm
  refine ⟨(String.ofList (Rss.writtenFront channel)).toUTF8, ?_, ?_⟩
  · have tag : "</rss>\n".toUTF8 = "</rss>".toUTF8 ++ "\n".toUTF8 := by decide
    rw [serialize_eq, ← root, tag, ByteArray.append_assoc]
  · intro count
    rw [root]
    refine ⟨?_, parse_finished⟩
    intro short
    obtain ⟨what, refused⟩ := parse_unfinished short
    refine ⟨what, refused, ?_⟩
    intro config now
    by_cases empty : count = 0
    · subst empty
      have blank : isBlankDocument ByteArray.empty = true := by simp [isBlankDocument]
      simp only [ByteArray.extract_same, Channel.load, blank, if_true]
    · rw [if_neg empty]
      simp only [Channel.load, beginning_not_blank (Nat.pos_of_ne_zero empty), refused,
        Bool.false_eq_true, if_false]

end IssueFeed
