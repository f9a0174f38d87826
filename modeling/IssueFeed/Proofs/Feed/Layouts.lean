import IssueFeed.Proofs.Feed.Reload

/-! Feeds in layouts that this program does not write itself.
Older programs wrote the elements in another order and left some out. Such a feed is read for what
it shows, and it is not given up for a fresh one. -/
namespace IssueFeed

open Text (isXmlBlank)
open Xml (Laid lineBreak writtenAll)
open Rss (Arranged Child Outside documentAround rootElements)

/-- Whatever order the elements of a channel stand in, what was left out and what else stands
between them, the document is read, and the channel is what it shows; a stored feed of such a form
is therefore never given up for a fresh one. -/
theorem arranged_document_read {channel : Channel} {selection : Selection} {children : List Child}
    {before after : Rss.Texts} {inside ending : List Char}
    (clean : ∀ text ∈ channel.texts, ¬ LosesBlanks text)
    (arranged : Arranged channel selection children) (first : Outside before)
    (last : Outside after)
    (laid : Laid (rootElements before children after) inside)
    (blank : ∀ c ∈ ending, isXmlBlank c = true) :
    let document := (String.ofList (documentAround inside ending)).toUTF8
    let shown := channel.only selection
    Channel.parse document = .ok shown ∧
      ∀ config now, Channel.load config now (some document) =
        (shown, [⟨.debug, s!"Loaded feed with {shown.items.length} items"⟩]) := by
  have kept : channel.settled = channel := by
    rw [Channel.settled, Channel.mapTexts_eq_self_iff]
    exact fun text member => (settled_eq_self_iff text).mpr (clean text member)
  obtain ⟨rest, begins⟩ :
      ∃ rest, (String.ofList (documentAround inside ending)).toList = '<' :: rest :=
    ⟨_, String.toList_ofList.trans rfl⟩
  have read : Rss.read (Xml.events (String.ofList (documentAround inside ending)).toList) =
      .ok (channel.only selection) := by
    rw [String.toList_ofList, Rss.events_document laid blank, Rss.read, if_pos (by decide),
      Rss.readRoot_arranged arranged first last, Channel.settled_only kept arranged.chosen]
  have parsed := parse_begun begins read
  refine ⟨parsed, fun config now => ?_⟩
  simp only [Channel.load, begun_not_blank begins, Bool.false_eq_true, if_false, parsed]

/-! A feed that holds what an older program wrote of another one, in an order of its own. -/

def olderFeed : Channel where
  title := "Leben"
  link := "https://goslar.de"
  lastBuildDate := some "Mon, 02 Mar 2026"
  image := some ⟨"u.jpg", "Neuste Ausgabe", "https://goslar.de"⟩
  items := [⟨"1.pdf", "", "March", ""⟩, ⟨"2.pdf", "", "April", ""⟩, ⟨"3.pdf", "", "May", ""⟩]

def olderSelection : Selection where
  own := (["title", "lastBuildDate", "image"].contains ·)
  image := (· != "title")
  items :=
    [(⟨"1.pdf", "", "March", ""⟩, (· != "title")), (⟨"3.pdf", "", "May", ""⟩, (· == "link"))]

def olderElements : List Child :=
  [.item [("pubDate", ""), ("guid", "1"), ("description", "March"), ("link", "1.pdf")],
    .leaf "lastBuildDate" "Mon, 02 Mar 2026", .leaf "ttl" "60",
    .image [("link", "https://goslar.de"), ("url", "u.jpg")], .item [("link", "3.pdf")],
    .leaf "title" "Leben"]

theorem olderElements_arranged : Arranged olderFeed olderSelection olderElements where
  own := ⟨[("ttl", "60")], by decide, by decide⟩
  image := .cons ⟨[], by decide, by decide⟩ .nil
  items := .cons ⟨[("guid", "1")], by decide, by decide⟩ (.cons ⟨[], by decide, by decide⟩ .nil)
  chosen := by decide

theorem olderElements_alone : Outside [("note", "")] ∧ Outside [] := by
  simp only [Outside]
  decide

theorem older_document_read :
    Channel.parse (String.ofList (documentAround
        (writtenAll 1 (rootElements [("note", "")] olderElements []) ++ lineBreak 0)
        ['\n'])).toUTF8 =
      .ok { title := "Leben", lastBuildDate := some "Mon, 02 Mar 2026",
            image := some ⟨"u.jpg", "", "https://goslar.de"⟩,
            items := [⟨"1.pdf", "", "March", ""⟩, ⟨"3.pdf", "", "", ""⟩] } :=
  have ⟨first, last⟩ := olderElements_alone
  (arranged_document_read (by decide) olderElements_arranged first last
    (Xml.laid_writtenAll _ 1 (Rss.rootElements_plain olderElements_arranged first last)
      (Xml.lineBreak_blank 0)) (Xml.lineBreak_blank 0)).1

end IssueFeed
