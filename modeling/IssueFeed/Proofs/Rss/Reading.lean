import IssueFeed.Proofs.Feed.Settled
import IssueFeed.Proofs.Xml.Layout
import IssueFeed.Rss.Read
import IssueFeed.Rss.Render

/-! Reading back what was written, from the leaves up.
Each lemma reads one written element from the front of the events, whatever follows it. -/
namespace IssueFeed.Rss

open Xml (Event Tag Scope Branch PlainName plainTag textEvents eventsAll)

variable {name text : String} {scope : Scope} {rest : List Event} {draft : Draft}

theorem textValue_written (text : List Char) :
    Xml.textValue? [Xml.writtenStretch text] = some (Xml.settle text) := by
  simp [Xml.textValue?, Xml.writtenStretch_value]

theorem readText_written (text : String) (scope : Scope) (rest : List Event) :
    readText (textEvents text.toList ++ .finish scope :: rest) = .ok (settled text, rest) := by
  by_cases empty : text.toList = []
  · rw [textEvents, if_pos empty, settled, empty]
    rfl
  · rw [textEvents, if_neg empty]
    simp only [List.cons_append, List.nil_append, readText, textValue_written]
    rfl

def leaves (fields : Texts) : List Branch :=
  fields.map fun field => leafOf field.1 field.2

/-- The fields of a record as they come back. -/
def settledTexts (fields : Texts) : Texts :=
  fields.map fun field => (field.1, settled field.2)

theorem lookup_isSome_eq_false {texts : Texts} (new : name ∉ texts.map (·.1)) :
    (texts.lookup name).isSome = false := by
  rw [Option.isSome_eq_false_iff, Option.isNone_iff_eq_none, List.lookup_eq_none_iff]
  intro field member
  refine bne_iff_ne.mpr ?_
  rintro rfl
  exact new (List.mem_map_of_mem member)

/-- A name passes from those still to be read to those already read. -/
theorem nodup_pass {others read : List String} (apart : (name :: others ++ read).Nodup) :
    name ∉ read ∧ (others ++ name :: read).Nodup := by
  constructor
  · rw [List.cons_append, List.nodup_cons, List.mem_append, not_or] at apart
    exact apart.1.2
  · exact List.perm_middle.nodup_iff.mpr apart

theorem leaf_events (name text : String) (rest : List Event) :
    (leafOf name text).events ++ rest =
      .start (plainTag name.toList) [] :: (textEvents text.toList ++ .finish [] :: rest) := by
  simp [leafOf, Branch.events]

theorem localName_plain (plain : PlainName name.toList) :
    String.ofList (Xml.localName (plainTag name.toList).name) = name := by
  rw [plainTag, plain.localName_eq, String.ofList_toList]

theorem readFields_leaf {names : List String} {texts : Texts} (plain : PlainName name.toList)
    (known : name ∈ names) (new : name ∉ texts.map (·.1)) (text : String) (rest : List Event) :
    readFields names texts ((leafOf name text).events ++ rest) =
      readFields names ((name, settled text) :: texts) rest := by
  rw [leaf_events, readFields]
  simp only [localName_plain plain, known, if_true, lookup_isSome_eq_false new, Bool.false_eq_true,
    if_false]
  split <;> rename_i read <;> rw [readText_written] at read <;> cases read
  rfl

def fieldsOfImage (image : Image) : Texts :=
  [("url", image.url), ("title", image.title), ("link", image.link)]

def fieldsOfItem (item : Item) : Texts :=
  [("link", item.link), ("title", item.title), ("description", item.description),
    ("pubDate", item.pubDate)]

/-- The tag under which a channel is read here. -/
def channelTag : Tag := plainTag "channel".toList

theorem readChannelFrom_text (known : name ∈ channelTexts)
    (plain : PlainName name.toList) (new : (draft.texts.lookup name).isSome = false)
    (text : String) (rest : List Event) :
    readChannelFrom channelTag draft ((leafOf name text).events ++ rest) =
      readChannelFrom channelTag { draft with texts := (name, settled text) :: draft.texts }
        rest := by
  rw [leaf_events, readChannelFrom]
  simp only [localName_plain plain, known, new, if_true, Bool.false_eq_true, if_false]
  split <;> rename_i read <;> rw [readText_written] at read <;> cases read
  rfl

theorem not_nil (scope : Scope) (name : List Char) :
    (Xml.declaresNil scope channelTag.attributes ||
      Xml.declaresNil scope (plainTag name).attributes) = false := rfl

theorem readChannelFrom_date (new : draft.lastBuildDate = none) (date : String)
    (rest : List Event) :
    readChannelFrom channelTag draft ((leafOf "lastBuildDate" date).events ++ rest) =
      readChannelFrom channelTag { draft with lastBuildDate := some (some (settled date)) }
        rest := by
  have plain : PlainName "lastBuildDate".toList := by decide
  have other : "lastBuildDate" ∉ channelTexts := by decide
  rw [leaf_events, readChannelFrom]
  simp only [localName_plain plain, other, new, not_nil, if_true, Option.isSome_none,
    Bool.false_eq_true, if_false]
  split <;> rename_i read <;> rw [readText_written] at read <;> cases read
  rfl

theorem eventsAll_append (front back : List Branch) :
    eventsAll (front ++ back) = eventsAll front ++ eventsAll back := by
  induction front with
  | nil => rfl
  | cons b front ih => rw [List.cons_append, eventsAll, eventsAll, ih, List.append_assoc]

/-- The five texts with which a written channel begins. -/
def textsOfChannel (channel : Channel) : Texts :=
  [("title", channel.title), ("link", channel.link), ("description", channel.description),
    ("copyright", channel.copyright), ("language", channel.language)]

end IssueFeed.Rss
