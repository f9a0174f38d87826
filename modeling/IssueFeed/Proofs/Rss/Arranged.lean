import IssueFeed.Proofs.Entries
import IssueFeed.Proofs.Rss.Children
import Mathlib.Data.List.Forall2
import Mathlib.Data.List.Nodup

/-! Documents that hold a channel in another order than they are written in.
The elements of a channel, of its thumbnail and of its items may be permuted and left out, and
others may stand between them; only the items keep their order among themselves. What is read is
the channel without what was left out. -/
namespace IssueFeed

def shownText (shown : String → Bool) (name text : String) : String :=
  if shown name then text else ""

def Image.only (shown : String → Bool) (image : Image) : Image where
  url := shownText shown "url" image.url
  title := shownText shown "title" image.title
  link := shownText shown "link" image.link

def Item.only (shown : String → Bool) (item : Item) : Item where
  link := shownText shown "link" item.link
  title := shownText shown "title" item.title
  description := shownText shown "description" item.description
  pubDate := shownText shown "pubDate" item.pubDate

/-- Which elements of a channel are shown: its own and those of its thumbnail by their names, and
the items, each with the names of its elements. -/
structure Selection where
  own : String → Bool
  image : String → Bool
  items : List (Item × (String → Bool))

/-- The channel without what is left out. -/
def Channel.only (channel : Channel) (selection : Selection) : Channel where
  title := shownText selection.own "title" channel.title
  link := shownText selection.own "link" channel.link
  description := shownText selection.own "description" channel.description
  copyright := shownText selection.own "copyright" channel.copyright
  language := shownText selection.own "language" channel.language
  lastBuildDate := channel.lastBuildDate.filter fun _ => selection.own "lastBuildDate"
  image := (channel.image.filter fun _ => selection.own "image").map (Image.only selection.image)
  items := selection.items.map fun entry => entry.1.only entry.2

theorem settled_shownText (shown : String → Bool) (name text : String) :
    settled (shownText shown name text) = shownText shown name (settled text) := by
  rw [shownText, shownText, apply_ite settled]
  rfl

theorem Image.settled_only (shown : String → Bool) {image : Image}
    (kept : image.mapTexts settled = image) :
    (image.only shown).mapTexts settled = image.only shown := by
  conv_rhs => rw [← kept]
  simp only [Image.only, Image.mapTexts, settled_shownText]

theorem Item.settled_only (shown : String → Bool) {item : Item}
    (kept : item.mapTexts settled = item) :
    (item.only shown).mapTexts settled = item.only shown := by
  conv_rhs => rw [← kept]
  simp only [Item.only, Item.mapTexts, settled_shownText]

theorem filter_kept {A : Type} {f : A → A} {a? : Option A} (kept : a?.map f = a?) (p : A → Bool) :
    ∀ a, a?.filter p = some a → f a = a := by
  intro a member
  obtain ⟨rfl, _⟩ := Option.filter_eq_some_iff.mp member
  exact Option.some.inj kept

/-- What is left of a channel that comes back as it is does so too. -/
theorem Channel.settled_only {channel : Channel} {selection : Selection}
    (kept : channel.settled = channel)
    (chosen : (selection.items.map (·.1)).Sublist channel.items) :
    (channel.only selection).settled = channel.only selection := by
  have text : ∀ name {value : String}, IssueFeed.settled value = value →
      IssueFeed.settled (shownText selection.own name value) =
        shownText selection.own name value := by
    intro name value same
    rw [settled_shownText, same]
  have dates := filter_kept (congrArg Channel.lastBuildDate kept)
  have images := filter_kept (congrArg Channel.image kept)
  have items : ∀ item ∈ channel.items, item.mapTexts IssueFeed.settled = item :=
    List.map_inj_left.mp ((congrArg Channel.items kept).trans (List.map_id _).symm)
  rw [Channel.settled, mapTexts, Channel.only, Channel.mk.injEq]
  refine ⟨text _ (congrArg Channel.title kept), text _ (congrArg Channel.link kept),
    text _ (congrArg Channel.description kept), text _ (congrArg Channel.copyright kept),
    text _ (congrArg Channel.language kept), ?_, ?_, ?_⟩
  · exact (Option.map_congr (dates _)).trans Option.map_id'
  · rw [Option.map_map]
    exact Option.map_congr fun image found => image.settled_only _ (images _ image found)
  · rw [List.map_map]
    refine List.map_congr_left fun entry member => entry.1.settled_only entry.2 (items _ ?_)
    exact chosen.subset (List.mem_map_of_mem member)

end IssueFeed

namespace IssueFeed.Rss

open Xml (AllPlain Branch Event PlainName Scope eventsAll plainTag)

variable {name text : String} {names known : List String} {fields entries : Texts}
  {shown : String → Bool}

/-! ## Records -/

/-- The leaves are those of the fields that are shown, in any order, and others between them that
none of the names belongs to. -/
def Shows (names : List String) (fields : Texts) (shown : String → Bool) (entries : Texts) : Prop :=
  ∃ strangers : Texts, (∀ entry ∈ strangers, PlainName entry.1.toList ∧ entry.1 ∉ names) ∧
    entries.Perm (fields.filter (fun field => shown field.1) ++ strangers)

theorem Shows.mem_iff (shows : Shows names fields shown entries) (field : name ∈ names) :
    (name, text) ∈ entries ↔ (name, text) ∈ fields ∧ shown name = true := by
  obtain ⟨strangers, strange, arranged⟩ := shows
  have absent : (name, text) ∉ strangers := fun member => (strange _ member).2 field
  rw [arranged.mem_iff, List.mem_append, List.mem_filter]
  simp [absent]

theorem Shows.plain (shows : Shows names fields shown entries)
    (plain : ∀ field ∈ fields, PlainName field.1.toList) :
    ∀ entry ∈ entries, PlainName entry.1.toList := by
  obtain ⟨strangers, strange, arranged⟩ := shows
  intro entry member
  rcases List.mem_append.mp (arranged.mem_iff.mp member) with field | stranger
  · exact plain entry (List.mem_filter.mp field).1
  · exact (strange entry stranger).1

theorem Shows.once (shows : Shows names fields shown entries) (once : (fields.map (·.1)).Nodup)
    (known : List String) (among : known ⊆ names) :
    ((entries.map (·.1)).filter (· ∈ known)).Nodup := by
  obtain ⟨strangers, strange, arranged⟩ := shows
  have none : (strangers.map (·.1)).filter (· ∈ known) = [] := by
    simp only [List.filter_eq_nil_iff, List.mem_map, decide_eq_true_eq]
    rintro _ ⟨entry, member, rfl⟩ field
    exact (strange entry member).2 (among field)
  have named := ((arranged.map (·.1)).filter (· ∈ known)).nodup_iff
  rw [named, List.map_append, List.filter_append, none, List.append_nil]
  exact (once.sublist (List.filter_sublist.map _)).filter _

/-- Where the names are those of the fields, the leaves can be read. -/
theorem Shows.readable (shows : Shows names fields shown entries)
    (named : fields.map (·.1) = names) (plain : ∀ name ∈ names, PlainName name.toList)
    (once : names.Nodup) : Readable names entries := by
  subst named
  exact ⟨shows.plain fun field member => plain field.1 (List.mem_map_of_mem member),
    shows.once once _ (List.Subset.refl _)⟩

theorem mem_entriesRead :
    (name, text) ∈ entriesRead known entries ↔
      ∃ raw, (name, raw) ∈ entries ∧ name ∈ known ∧ settled raw = text := by
  simp only [entriesRead, settledTexts, List.mem_reverse, List.mem_map, List.mem_filter,
    Prod.mk.injEq, Prod.exists, decide_eq_true_eq]
  constructor
  · rintro ⟨_, raw, ⟨member, field⟩, rfl, rfl⟩
    exact ⟨raw, member, field, rfl⟩
  · rintro ⟨raw, member, field, rfl⟩
    exact ⟨name, raw, ⟨member, field⟩, rfl, rfl⟩

theorem names_entriesRead (known : List String) (entries : Texts) :
    (entriesRead known entries).map (·.1) =
      ((entries.map (·.1)).filter (· ∈ known)).reverse := by
  simp [entriesRead, settledTexts, List.filter_map, Function.comp_def]

/-- Each field that is shown is read, wherever it stands. -/
theorem Shows.lookup (shows : Shows names fields shown entries)
    (once : (fields.map (·.1)).Nodup) (among : known ⊆ names) (field : name ∈ known) :
    (entriesRead known entries).lookup name =
      if shown name then (fields.lookup name).map settled else none := by
  have readOnce : ((entriesRead known entries).map (·.1)).Nodup := by
    rw [names_entriesRead, List.nodup_reverse]
    exact shows.once once known among
  -- Among distinct names a lookup is membership, which does not depend on the order.
  refine Option.ext fun text => ?_
  rw [lookup_eq_some_iff_mem readOnce, mem_entriesRead]
  simp only [shows.mem_iff (among field)]
  by_cases visible : shown name = true
  · simp [visible, field, lookup_eq_some_iff_mem once]
  · simp [visible]

theorem Shows.get (shows : Shows names fields shown entries)
    (once : (fields.map (·.1)).Nodup) (among : known ⊆ names) (field : name ∈ known)
    (value : fields.lookup name = some text) :
    (entriesRead known entries).get name = settled (shownText shown name text) := by
  rw [Texts.get, shows.lookup once among field, value, settled_shownText, shownText]
  split_ifs <;> rfl

theorem imageOfTexts_shown {image : Image}
    (shows : Shows imageFields (fieldsOfImage image) shown entries) :
    imageOfTexts (entriesRead imageFields entries) = (image.only shown).mapTexts settled := by
  have once : ((fieldsOfImage image).map (·.1)).Nodup := (by decide : imageFields.Nodup)
  have all : imageFields ⊆ imageFields := List.Subset.refl _
  rw [imageOfTexts, shows.get once all (by decide) rfl, shows.get once all (by decide) rfl,
    shows.get once all (by decide) rfl]
  rfl

theorem itemOfTexts_shown {item : Item}
    (shows : Shows itemFields (fieldsOfItem item) shown entries) :
    itemOfTexts (entriesRead itemFields entries) = (item.only shown).mapTexts settled := by
  have once : ((fieldsOfItem item).map (·.1)).Nodup := (by decide : itemFields.Nodup)
  have all : itemFields ⊆ itemFields := List.Subset.refl _
  rw [itemOfTexts, shows.get once all (by decide) rfl, shows.get once all (by decide) rfl,
    shows.get once all (by decide) rfl, shows.get once all (by decide) rfl]
  rfl

/-! ## Channels -/

/-- The names that have a meaning within a channel. -/
def channelNames : List String := channelTexts ++ ["lastBuildDate", "image", "item"]

def fieldsOfChannel (channel : Channel) : Texts :=
  textsOfChannel channel ++ (channel.lastBuildDate.map fun date => ("lastBuildDate", date)).toList

/-- The elements are those of the channel that are shown, with others between them. The three kinds
of elements may be mixed at will, and only the items have an order. -/
structure Arranged (channel : Channel) (selection : Selection) (children : List Child) : Prop where
  own : Shows channelNames (fieldsOfChannel channel) selection.own (children.filterMap Child.leaf?)
  image : List.Forall₂ (fun image => Shows imageFields (fieldsOfImage image) selection.image)
    (channel.image.filter fun _ => selection.own "image").toList (children.filterMap Child.image?)
  items : List.Forall₂ (fun entry => Shows itemFields (fieldsOfItem entry.1) entry.2)
    selection.items (children.filterMap Child.item?)
  chosen : (selection.items.map (·.1)).Sublist channel.items

variable {channel : Channel} {selection : Selection} {children : List Child}

theorem fieldsOfChannel_once (channel : Channel) :
    ((fieldsOfChannel channel).map (·.1)).Nodup := by
  cases dated : channel.lastBuildDate with
  | none =>
    rw [fieldsOfChannel, dated]
    exact (by decide : channelTexts.Nodup)
  | some date =>
    rw [fieldsOfChannel, dated]
    exact (by decide : (channelTexts ++ ["lastBuildDate"]).Nodup)

theorem Arranged.items_read (arranged : Arranged channel selection children) :
    itemsRead children = (selection.items.map fun entry => entry.1.only entry.2).map
      (Item.mapTexts settled) := by
  have shows := arranged.items
  rw [itemsRead]
  generalize selection.items = chosen, children.filterMap Child.item? = found at shows ⊢
  induction shows with
  | nil => rfl
  | cons shows _ ih => rw [List.map_cons, ih, itemOfTexts_shown shows]; rfl

theorem Arranged.image_read (arranged : Arranged channel selection children) :
    (children.foldl Draft.take {}).image.join = (channel.only selection).image.map
      (Image.mapTexts settled) := by
  rw [foldl_take_image, Channel.only]
  have shows := arranged.image
  generalize channel.image.filter (fun _ => selection.own "image") = shown at shows ⊢
  cases shown with
  | none =>
    rw [List.forall₂_nil_left_iff.mp shows]
    rfl
  | some image =>
    obtain ⟨entries, others, first, none, read⟩ := List.forall₂_cons_left_iff.mp shows
    rw [read, List.forall₂_nil_left_iff.mp none]
    exact congrArg some (imageOfTexts_shown first)

theorem Arranged.date_read (arranged : Arranged channel selection children) :
    (children.foldl Draft.take {}).lastBuildDate.join =
      (channel.only selection).lastBuildDate.map settled := by
  rw [foldl_take_date, arranged.own.lookup (fieldsOfChannel_once channel) (by decide)
    List.mem_cons_self, Channel.only]
  cases dated : channel.lastBuildDate <;>
    by_cases visible : selection.own "lastBuildDate" = true <;>
      simp [fieldsOfChannel, textsOfChannel, dated, visible, List.lookup_cons, Option.filter]

theorem Arranged.text_read (arranged : Arranged channel selection children)
    (known : name ∈ channelTexts) (value : (fieldsOfChannel channel).lookup name = some text) :
    (children.foldl Draft.take {}).texts.get name =
      settled (shownText selection.own name text) := by
  have among : channelTexts ⊆ channelNames := List.subset_append_left _ _
  rw [foldl_take_texts, List.append_nil]
  exact arranged.own.get (fieldsOfChannel_once channel) among known value

theorem Arranged.channelRead_eq (arranged : Arranged channel selection children) :
    channelRead {} children = (channel.only selection).settled := by
  simp only [channelRead, Draft.channel, arranged.image_read, arranged.date_read,
    arranged.items_read, Option.getD_some]
  rw [arranged.text_read (by decide) rfl, arranged.text_read (by decide) rfl,
    arranged.text_read (by decide) rfl, arranged.text_read (by decide) rfl,
    arranged.text_read (by decide) rfl]
  rfl

/-! ## What makes the elements readable -/

/-- The names under which a channel holds its own leaves. -/
def leafNames : List String := channelTexts ++ ["lastBuildDate"]

theorem fieldsOfChannel_named (channel : Channel) :
    ∀ field ∈ fieldsOfChannel channel, field.1 ∈ leafNames := by
  intro field member
  rcases List.mem_append.mp member with text | date
  · exact List.mem_append_left _ (List.mem_map_of_mem (f := (·.1)) text)
  · obtain ⟨value, _, rfl⟩ := Option.map_eq_some_iff.mp (Option.mem_toList.mp date)
    exact List.mem_append_right _ List.mem_cons_self

theorem Arranged.leaf_readable (arranged : Arranged channel selection children)
    (member : (name, text) ∈ children.filterMap Child.leaf?) :
    PlainName name.toList ∧ name ≠ "image" ∧ name ≠ "item" := by
  have plain : ∀ name ∈ leafNames, PlainName name.toList := by decide
  have apart : ∀ name ∈ channelNames, name ∈ leafNames → name ≠ "image" ∧ name ≠ "item" := by
    decide
  have named : ∀ field ∈ fieldsOfChannel channel, PlainName field.1.toList := fun field own =>
    plain _ (fieldsOfChannel_named channel field own)
  refine ⟨arranged.own.plain named _ member, ?_⟩
  by_cases known : name ∈ channelNames
  · have field := (arranged.own.mem_iff known).mp member
    exact apart name known (fieldsOfChannel_named _ _ field.1)
  · constructor
    · rintro rfl
      exact known (by decide)
    · rintro rfl
      exact known (by decide)

theorem forall₂_right {A B : Type} {R : A → B → Prop} {P : B → Prop} {as : List A} {bs : List B}
    (paired : List.Forall₂ R as bs) (meets : ∀ a b, R a b → P b) : ∀ b ∈ bs, P b := by
  induction paired with
  | nil => exact nofun
  | cons first _ ih => exact List.forall_mem_cons.mpr ⟨meets _ _ first, ih⟩

theorem Arranged.readable (arranged : Arranged channel selection children) :
    ∀ child ∈ children, child.Readable := by
  intro child member
  cases child with
  | leaf name text =>
    exact arranged.leaf_readable (List.mem_filterMap.mpr ⟨_, member, rfl⟩)
  | image entries =>
    have found : entries ∈ children.filterMap Child.image? :=
      List.mem_filterMap.mpr ⟨_, member, rfl⟩
    exact forall₂_right arranged.image
      (fun _ _ shows => shows.readable rfl (by decide) (by decide)) entries found
  | item entries =>
    have found : entries ∈ children.filterMap Child.item? :=
      List.mem_filterMap.mpr ⟨_, member, rfl⟩
    exact forall₂_right arranged.items
      (fun _ _ shows => shows.readable rfl (by decide) (by decide)) entries found

theorem keys_perm (children : List Child) :
    (children.filterMap Child.key?).Perm
      (((children.filterMap Child.leaf?).map (·.1)).filter (· ∈ leafNames) ++
        (children.filterMap Child.image?).map fun _ => "image") := by
  induction children with
  | nil => exact .nil
  | cons child children ih =>
    cases child with
    | leaf name text =>
      rw [List.filterMap_cons_some (f := Child.leaf?) rfl, List.map_cons]
      by_cases known : name ∈ channelTexts ∨ name = "lastBuildDate"
      · have named : (Child.leaf name text).key? = some name := if_pos known
        rw [List.filterMap_cons_some named,
          List.filter_cons_of_pos (by simpa [leafNames] using known)]
        exact ih.cons name
      · have named : (Child.leaf name text).key? = none := if_neg known
        rw [List.filterMap_cons_none named,
          List.filter_cons_of_neg (by simpa [leafNames] using known)]
        exact ih
    | image entries => exact (ih.cons "image").trans List.perm_middle.symm
    | item entries => exact ih

theorem Arranged.once (arranged : Arranged channel selection children) :
    (children.filterMap Child.key?).Nodup := by
  -- The leaves have distinct names, of thumbnails there is one at most, and it has another name.
  have other : "image" ∉ leafNames := by decide
  have single : ((children.filterMap Child.image?).map fun _ => "image").Nodup := by
    have one := arranged.image.length_eq
    rw [List.map_const', ← one]
    cases channel.image.filter _ with
    | none => exact List.nodup_nil
    | some image => exact List.nodup_singleton "image"
  rw [(keys_perm children).nodup_iff, List.nodup_append]
  refine ⟨arranged.own.once (fieldsOfChannel_once channel) leafNames (by decide), single, ?_⟩
  rintro name known _ image rfl
  obtain ⟨_, _, rfl⟩ := List.mem_map.mp image
  exact other (by simpa using (List.mem_filter.mp known).2)

/-! ## Within the root element -/

variable {found : Option Channel} {before after : Texts}

theorem readRoot_stranger (plain : PlainName name.toList) (other : name ≠ "channel")
    (text : String) (rest : List Event) :
    readRoot found ((leafOf name text).events ++ rest) = readRoot found rest := by
  rw [leaf_events, readRoot]
  simp only [localName_plain plain, other, if_false]
  split <;> rename_i read <;> rw [skipElement_leaf] at read <;> cases read
  rfl

/-- Leaves besides the channel have no meaning. -/
def Outside (entries : Texts) : Prop :=
  ∀ entry ∈ entries, PlainName entry.1.toList ∧ entry.1 ≠ "channel"

theorem outside_nil : Outside [] := nofun

theorem readRoot_outside (outside : Outside entries) (rest : List Event) :
    readRoot found (eventsAll (leaves entries) ++ rest) = readRoot found rest := by
  induction entries with
  | nil => rfl
  | cons entry entries ih =>
    obtain ⟨⟨plain, other⟩, others⟩ := List.forall_mem_cons.mp outside
    rw [leaves, List.map_cons, eventsAll, List.append_assoc, readRoot_stranger plain other]
    exact ih others

/-- The elements of a document: the channel, with leaves before and after it. -/
def rootElements (before : Texts) (children : List Child) (after : Texts) : List Branch :=
  leaves before ++ .branch "channel".toList [] (children.map Child.toXml) :: leaves after

theorem readRoot_arranged (arranged : Arranged channel selection children)
    (first : Outside before) (last : Outside after) (scope : Scope) (rest : List Event) :
    readRoot none (eventsAll (rootElements before children after) ++ .finish scope :: rest) =
      .ok (channel.only selection).settled := by
  have plain : PlainName "channel".toList := by decide
  have sound : channelTag.attributes.isSound = true := rfl
  have within : ∀ rest, readChannel (plainTag "channel".toList)
      (eventsAll (children.map Child.toXml) ++ .finish [] :: rest) =
        .ok (channelRead {} children, rest) := fun rest =>
    (if_pos sound).trans (readChannelFrom_arranged arranged.readable arranged.once rfl
      (fun key _ => ⟨List.not_mem_nil, fun _ => rfl, fun _ => rfl⟩) rest)
  simp only [rootElements, eventsAll_append, eventsAll, Branch.events, List.append_assoc,
    List.cons_append, List.nil_append]
  rw [readRoot_outside first, readRoot]
  simp only [localName_plain plain, if_true, Option.isSome_none, Bool.false_eq_true, if_false]
  split <;> rename_i read <;> rw [within] at read <;> cases read
  rw [readRoot_outside last, readRoot, arranged.channelRead_eq]

theorem plain_leaves (plain : ∀ entry ∈ entries, PlainName entry.1.toList) :
    AllPlain (leaves entries) :=
  Xml.allPlain_iff.mpr (List.forall_mem_map.mpr plain)

theorem Child.toXml_plain {child : Child} (readable : child.Readable) : child.toXml.Plain := by
  cases child with
  | leaf name text => exact readable.1
  | image entries => exact ⟨by decide, rfl, plain_leaves readable.plain⟩
  | item entries => exact ⟨by decide, rfl, plain_leaves readable.plain⟩

theorem rootElements_plain (arranged : Arranged channel selection children)
    (first : Outside before) (last : Outside after) :
    AllPlain (rootElements before children after) := by
  have within : AllPlain (children.map Child.toXml) :=
    Xml.allPlain_iff.mpr (List.forall_mem_map.mpr fun child member =>
      Child.toXml_plain (arranged.readable child member))
  have outside : ∀ {entries : Texts}, Outside entries →
      ∀ element ∈ leaves entries, element.Plain := fun alone =>
    Xml.allPlain_iff.mp (plain_leaves fun entry member => (alone entry member).1)
  refine Xml.allPlain_iff.mpr (List.forall_mem_append.mpr ⟨outside first, ?_⟩)
  exact List.forall_mem_cons.mpr ⟨⟨by decide, rfl, within⟩, outside last⟩

end IssueFeed.Rss
