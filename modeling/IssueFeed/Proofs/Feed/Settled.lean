import IssueFeed.Feed.Channel
import IssueFeed.Proofs.Xml.Settled

/-! The texts of a feed and what storing makes of them.
Storing changes a text only at its ends, only by blanks of XML, and only once; so neither the key of
a link nor the number of anything depends on it. -/
namespace IssueFeed

open Text (Trimmed isXmlBlank trimBoth)

/-- A text as it comes back from the feed's file. -/
def settled (text : String) : String :=
  String.ofList (Xml.settle text.toList)

theorem settled_settled (text : String) : settled (settled text) = settled text := by
  rw [settled, settled, String.toList_ofList, Xml.settle_settle]

/-- Trimming by any class of blanks leaves the key of a link as it is. -/
theorem linkKey_trimBoth {p : Char → Bool} (blank : ∀ c, p c = true → Text.isBlank c = true)
    (link : String) : linkKey (String.ofList (trimBoth p link.toList)) = linkKey link := by
  have dropped : ∀ c, p c = true → (!Text.isBlank c) = false := by
    intro c inside
    rw [blank c inside]
    rfl
  rw [linkKey, linkKey, String.toList_ofList, Text.filter_trimBoth dropped]

theorem linkKey_settled (link : String) : linkKey (settled link) = linkKey link := by
  rw [settled, Xml.settle]
  split_ifs
  · exact linkKey_trimBoth (fun _ => Text.isBlank_of_isXmlBlank) link
  · rw [String.ofList_toList]

/-- The text ends a verbatim section somewhere, and has a blank of XML at one of its ends. -/
def LosesBlanks (text : String) : Prop :=
  "]]>".toList <:+: text.toList ∧ ¬ Trimmed isXmlBlank text.toList

instance (text : String) : Decidable (LosesBlanks text) :=
  inferInstanceAs (Decidable (_ ∧ _))

def withoutOuterBlanks (text : String) : String :=
  String.ofList (trimBoth isXmlBlank text.toList)

theorem linkKey_withoutOuterBlanks (link : String) :
    linkKey (withoutOuterBlanks link) = linkKey link :=
  linkKey_trimBoth (fun _ => Text.isBlank_of_isXmlBlank) link

theorem settled_eq (text : String) :
    settled text = if LosesBlanks text then withoutOuterBlanks text else text := by
  by_cases marked : Text.hasInfix [']', ']', '>'] text.toList = true
  · have found : "]]>".toList <:+: text.toList := Text.hasInfix_iff.mp marked
    rw [settled, Xml.settle, if_pos marked]
    by_cases trimmed : Trimmed isXmlBlank text.toList
    · rw [if_neg fun loses => loses.2 trimmed, trimmed.trimBoth_eq, String.ofList_toList]
    · rw [if_pos ⟨found, trimmed⟩, withoutOuterBlanks]
  · rw [settled, Xml.settle, if_neg marked, String.ofList_toList,
      if_neg fun loses => marked (Text.hasInfix_iff.mpr loses.1)]

theorem settled_eq_self_iff (text : String) : settled text = text ↔ ¬ LosesBlanks text := by
  rw [settled_eq]
  by_cases loses : LosesBlanks text
  · rw [if_pos loses]
    refine ⟨fun same => ?_, fun kept => absurd loses kept⟩
    have bare := congrArg String.toList same
    rw [withoutOuterBlanks, String.toList_ofList] at bare
    exact absurd (Text.trimBoth_eq_self_iff.mp bare) loses.2
  · rw [if_neg loses]
    exact ⟨fun _ => loses, fun _ => rfl⟩

example : settled " ]]>\n" = "]]>" ∧ settled " ]] " = " ]] " := by decide

/-! ## All texts of a channel -/

def Image.mapTexts (f : String → String) (image : Image) : Image :=
  ⟨f image.url, f image.title, f image.link⟩

def Image.texts (image : Image) : List String :=
  [image.url, image.title, image.link]

def Item.mapTexts (f : String → String) (item : Item) : Item :=
  ⟨f item.link, f item.title, f item.description, f item.pubDate⟩

def Item.texts (item : Item) : List String :=
  [item.link, item.title, item.description, item.pubDate]

namespace Channel

/-- A channel with a function applied to every text in it. -/
def mapTexts (f : String → String) (channel : Channel) : Channel where
  title := f channel.title
  link := f channel.link
  description := f channel.description
  copyright := f channel.copyright
  language := f channel.language
  lastBuildDate := channel.lastBuildDate.map f
  image := channel.image.map (Image.mapTexts f)
  items := channel.items.map (Item.mapTexts f)

def texts (channel : Channel) : List String :=
  [channel.title, channel.link, channel.description, channel.copyright, channel.language] ++
    (channel.lastBuildDate.toList ++
      (channel.image.toList.flatMap Image.texts ++ channel.items.flatMap Item.texts))

variable {f : String → String}

theorem mapTexts_eq_self_iff (channel : Channel) :
    channel.mapTexts f = channel ↔ ∀ text ∈ channel.texts, f text = text := by
  have images : ∀ image : Image,
      image.mapTexts f = image ↔ ∀ text ∈ image.texts, f text = text := by
    rintro ⟨url, title, link⟩
    simp [Image.mapTexts, Image.texts]
  have records : ∀ item : Item, item.mapTexts f = item ↔ ∀ text ∈ item.texts, f text = text := by
    rintro ⟨link, title, description, pubDate⟩
    simp [Item.mapTexts, Item.texts]
  obtain ⟨title, link, description, copyright, language, date, image, items⟩ := channel
  have kept : items.map (Item.mapTexts f) = items ↔
      ∀ text ∈ items.flatMap Item.texts, f text = text := by
    induction items with
    | nil => simp
    | cons item items ih => simp [ih, records, or_imp, forall_and]
  cases date <;> cases image <;> simp [mapTexts, texts, kept, images, or_imp, forall_and]

theorem mapTexts_mapTexts (channel : Channel) (same : ∀ text, f (f text) = f text) :
    (channel.mapTexts f).mapTexts f = channel.mapTexts f := by
  have images : Image.mapTexts f ∘ Image.mapTexts f = Image.mapTexts f := by
    funext image
    simp [Image.mapTexts, same]
  have records : Item.mapTexts f ∘ Item.mapTexts f = Item.mapTexts f := by
    funext item
    simp [Item.mapTexts, same]
  have texts : f ∘ f = f := funext same
  simp [mapTexts, same, texts, images, records]

/-- A channel as it comes back from its file. -/
def settled (channel : Channel) : Channel := channel.mapTexts IssueFeed.settled

theorem settled_settled (channel : Channel) : channel.settled.settled = channel.settled :=
  channel.mapTexts_mapTexts IssueFeed.settled_settled

theorem linkKeys_settled (channel : Channel) : channel.settled.linkKeys = channel.linkKeys := by
  rw [linkKeys, settled, mapTexts, List.map_map]
  exact List.map_congr_left fun item _ => linkKey_settled item.link

end Channel
end IssueFeed
