import IssueFeed.Proofs.Rss.Arranged

/-! A stored feed, read again.
Whatever stands in a channel, its document can be read, and what is read is the channel with every
text settled. -/
namespace IssueFeed.Rss

open Text (isXmlBlank)
open Xml (Branch PlainName Tag Laid Quiet EndsText openingTag closingTag eventsAll events parts
  tokens)

/-- The elements of a channel as they are written. -/
def childrenOf (channel : Channel) : List Child :=
  (textsOfChannel channel).map (fun field => .leaf field.1 field.2) ++
    ((channel.lastBuildDate.map (Child.leaf "lastBuildDate")).toList ++
      ((channel.image.map fun image => Child.image (fieldsOfImage image)).toList ++
        channel.items.map fun item => Child.item (fieldsOfItem item)))

/-- Nothing is left out. -/
def wholeSelection (channel : Channel) : Selection where
  own := fun _ => true
  image := fun _ => true
  items := channel.items.map fun item => (item, fun _ => true)

theorem only_whole (channel : Channel) : channel.only (wholeSelection channel) = channel := by
  have image : Image.only (fun _ => true) = id := rfl
  have items : (fun entry : Item × (String → Bool) => entry.1.only entry.2) ∘
      (fun item => (item, fun _ => true)) = id := rfl
  obtain ⟨_, _, _, _, _, date, picture, _⟩ := channel
  cases date <;> cases picture <;>
    simp [Channel.only, wholeSelection, shownText, image, items, Option.filter]

theorem rootElements_written (channel : Channel) :
    rootElements [] (childrenOf channel) [] = [channel.toXml] := by
  have items : (channel.items.map fun item => Child.item (fieldsOfItem item)).map Child.toXml =
      channel.items.map Item.toXml := by
    rw [List.map_map]
    rfl
  obtain ⟨_, _, _, _, _, date, picture, _⟩ := channel
  simp only [rootElements, childrenOf, Channel.toXml, List.map_append, items]
  cases date <;> cases picture <;> rfl

theorem shows_whole {names : List String} (fields : Texts) :
    Shows names fields (fun _ => true) fields :=
  ⟨[], nofun, by simp⟩

theorem written_leaves (channel : Channel) :
    (childrenOf channel).filterMap Child.leaf? = fieldsOfChannel channel := by
  have items : Child.leaf? ∘ (fun item => Child.item (fieldsOfItem item)) = fun _ => none := rfl
  obtain ⟨_, _, _, _, _, date, picture, _⟩ := channel
  cases date <;> cases picture <;>
    simp [childrenOf, fieldsOfChannel, textsOfChannel, List.filterMap_cons, Child.leaf?, items]

theorem written_images (channel : Channel) :
    (childrenOf channel).filterMap Child.image? =
      (channel.image.filter fun _ => true).toList.map fieldsOfImage := by
  have items : Child.image? ∘ (fun item => Child.item (fieldsOfItem item)) = fun _ => none := rfl
  obtain ⟨_, _, _, _, _, date, picture, _⟩ := channel
  cases date <;> cases picture <;>
    simp [childrenOf, textsOfChannel, List.filterMap_cons, Child.image?, Option.filter, items]

theorem written_items (channel : Channel) :
    (childrenOf channel).filterMap Child.item? = channel.items.map fieldsOfItem := by
  have items : Child.item? ∘ (fun item => Child.item (fieldsOfItem item)) =
      fun item => some (fieldsOfItem item) := rfl
  obtain ⟨_, _, _, _, _, date, picture, _⟩ := channel
  cases date <;> cases picture <;>
    simp [childrenOf, textsOfChannel, List.filterMap_cons, Child.item?, items]

theorem written_arranged (channel : Channel) :
    Arranged channel (wholeSelection channel) (childrenOf channel) where
  own := by
    rw [written_leaves]
    exact shows_whole _
  image := by
    rw [written_images, List.forall₂_map_right_iff]
    exact List.forall₂_same.mpr fun image _ => shows_whole _
  items := by
    rw [written_items, wholeSelection, List.forall₂_map_left_iff, List.forall₂_map_right_iff]
    exact List.forall₂_same.mpr fun item _ => shows_whole _
  chosen := by
    simp [wholeSelection, Function.comp_def]

/-! The root element and what stands around it. -/

/-- What stands before the root element, with the line break after it. -/
def xmlDeclaration : List Char := "<?xml version=\"1.0\" encoding=\"UTF-8\"?>\n".toList

def rootAttributes : List Char := " version=\"2.0\"".toList

def rootTag : Tag := ⟨"rss".toList, ⟨[⟨"version".toList, "2.0".toList⟩], false⟩⟩

theorem tokens_xmlDeclaration (rest : List Char) :
    tokens (xmlDeclaration ++ rest) = .ignored :: tokens (['\n'] ++ rest) :=
  Xml.tokens_markup rfl

theorem rootTag_eq : Tag.ofText ("rss".toList ++ rootAttributes) = rootTag := by
  decide +kernel

theorem root_opens : Xml.OpensElement ("rss".toList ++ rootAttributes) :=
  ⟨by rintro _ ⟨⟩; decide, by decide, by rintro _ ⟨⟩; decide⟩

/-- The text of a document with these characters in its root element. -/
def documentAround (inside ending : List Char) : List Char :=
  xmlDeclaration ++
    (openingTag "rss".toList rootAttributes ++ (inside ++ (closingTag "rss".toList ++ ending)))

theorem events_document {elements : List Branch} {inside ending : List Char}
    (laid : Laid elements inside) (blank : ∀ c ∈ ending, isXmlBlank c = true) :
    events (documentAround inside ending) =
      .start rootTag [] :: (eventsAll elements ++ [.finish []]) := by
  have plain : PlainName "rss".toList := by decide
  have tail : parts [] true (tokens ending) = [] := by
    have gone := @Xml.parts_gap ending [] [] blank nofun
    rw [List.append_nil] at gone
    rw [gone]
    simp [tokens, parts]
  have closing : parts [⟨"rss".toList, []⟩] true (tokens (closingTag "rss".toList ++ ending)) =
      [⟨.finish, []⟩] := by
    rw [plain.tokens_closing, Xml.parts_closing, tail]
  have ready : Quiet
      (parts [⟨"rss".toList, []⟩] true (tokens (closingTag "rss".toList ++ ending))) := by
    rw [closing]
    exact fun part first => by cases first; rfl
  have within := laid.events_eq rfl (Xml.endsText_closing _ ending) ready
  have begins : EndsText (openingTag "rss".toList rootAttributes ++
      (inside ++ (closingTag "rss".toList ++ ending))) := by
    intro c hc
    cases hc
    rfl
  have broken : ∀ c ∈ ['\n'], isXmlBlank c = true := Xml.lineBreak_blank 0
  rw [events, documentAround, tokens_xmlDeclaration, parts, Xml.parts_gap broken begins,
    root_opens.tokens_eq, Xml.parts_opening rootTag_eq rfl rfl]
  change Xml.eventsOfParts (_ :: parts [⟨"rss".toList, []⟩] true _) = _
  rw [Xml.eventsOfParts_start rootTag within.1]
  exact congrArg _ (within.2.trans (by rw [closing]; rfl))

/-- What stands in the root element of a stored channel. -/
def writtenInside (channel : Channel) : List Char :=
  Xml.writtenAll 1 [channel.toXml] ++ Xml.lineBreak 0

theorem render_eq (channel : Channel) :
    channel.render.toList = documentAround (writtenInside channel) ['\n'] := by
  refine String.toList_ofList.trans ?_
  unfold Branch.document
  rw [Branch.written, documentAround, writtenInside]
  simp only [List.append_assoc]
  rfl

theorem laid_writtenInside (channel : Channel) :
    Laid [channel.toXml] (writtenInside channel) := by
  have plain := rootElements_plain (written_arranged channel) outside_nil outside_nil
  rw [rootElements_written] at plain
  exact Xml.laid_writtenAll [channel.toXml] 1 plain (Xml.lineBreak_blank 0)

/-- A written document is read whatever blanks it ends with. -/
theorem read_written (channel : Channel) {ending : List Char}
    (blank : ∀ c ∈ ending, isXmlBlank c = true) :
    read (events (documentAround (writtenInside channel) ending)) =
      .ok (channel.mapTexts settled) := by
  have channelRead :=
    readRoot_arranged (written_arranged channel) outside_nil outside_nil [] []
  rw [rootElements_written] at channelRead
  rw [events_document (laid_writtenInside channel) blank, read, if_pos (by decide), channelRead,
    only_whole, Channel.settled]

end IssueFeed.Rss

namespace IssueFeed

theorem decode_toUTF8 (text : String) : Text.decode text.toUTF8 = .ok text := by
  have valid : text.toByteArray.IsValidUTF8 := text.isValidUTF8
  simp [Text.decode, String.fromUTF8?, String.toUTF8, valid]
  rfl

theorem decodeLenient_toUTF8 (text : String) : Text.decodeLenient text.toUTF8 = text := by
  have valid : text.toByteArray.IsValidUTF8 := text.isValidUTF8
  simp [Text.decodeLenient, String.fromUTF8?, String.toUTF8, valid]
  rfl

theorem render_begins (channel : Channel) :
    ∃ rest, channel.render.toList = '<' :: rest := by
  exact ⟨_, String.toList_ofList.trans rfl⟩

theorem parse_begun {text : String} {rest : List Char} {channel : Channel}
    (begins : text.toList = '<' :: rest) (read : Rss.read (Xml.events text.toList) = .ok channel) :
    Channel.parse text.toUTF8 = .ok channel := by
  have marks : text.toList.dropWhile (· == '\uFEFF') = text.toList := by
    rw [begins]
    rfl
  simp only [Channel.parse, decode_toUTF8, Channel.ofText, marks, read]

theorem parse_serialize (channel : Channel) :
    Channel.parse channel.serialize = .ok channel.settled := by
  obtain ⟨rest, begins⟩ := render_begins channel
  apply parse_begun begins
  rw [Rss.render_eq]
  exact Rss.read_written channel (Xml.lineBreak_blank 0)

/-- Every channel can be stored and read again. What comes back differs at most in the outer blanks
of texts that end a verbatim section, and storing that once more changes nothing. -/
theorem parse_serialize_exact (channel : Channel) :
    ∃ again, Channel.parse channel.serialize = .ok again ∧
      again = channel.mapTexts (fun text =>
        if LosesBlanks text then withoutOuterBlanks text else text) ∧
      again.items.length = channel.items.length ∧
      again.image.isSome = channel.image.isSome ∧
      again.lastBuildDate.isSome = channel.lastBuildDate.isSome ∧
      (again = channel ↔ ∀ text ∈ channel.texts, ¬ LosesBlanks text) ∧
      Channel.parse again.serialize = .ok again := by
  refine ⟨channel.settled, parse_serialize channel, ?_, ?_, ?_, ?_, ?_, ?_⟩
  · rw [← funext settled_eq, Channel.settled]
  · rw [Channel.settled, Channel.mapTexts, List.length_map]
  · rw [Channel.settled, Channel.mapTexts, Option.isSome_map]
  · rw [Channel.settled, Channel.mapTexts, Option.isSome_map]
  · rw [Channel.settled, Channel.mapTexts_eq_self_iff]
    exact forall₂_congr fun text _ => settled_eq_self_iff text
  · rw [parse_serialize, Channel.settled_settled]

end IssueFeed
