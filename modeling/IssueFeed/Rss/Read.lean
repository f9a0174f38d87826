import IssueFeed.Feed.Channel
import IssueFeed.Text.Quoted
import IssueFeed.Text.Utf8
import IssueFeed.Xml.Event

/-!
Reading a channel from a document of RSS 2.0. Elements may stand in any order, those that the feed
does not know are passed over, and those that are missing leave their text empty. Each but the item
may stand once. The document is read no further than the end of its root element.
-/
namespace IssueFeed.Rss

open Xml (Event Tag Attributes Scope)

inductive Fault where
  | xml (what : Xml.Fault)
  | attributes
  | reference
  | unclosed
  | noRoot
  | nestedElement (name : String)
  /-- A text that a document type divides in two. -/
  | dividedText
  | missingField (name : String)
  | duplicateField (name : String)
  /-- A text in the place of a record. -/
  | textForRecord (text record : String)
  deriving DecidableEq, Repr

def Fault.message : Fault → String
  | .xml (.markup .unclosedMarkup) => "markup that is not closed"
  | .xml (.markup .unknownMarkup) => "unknown markup"
  | .xml (.markup .namelessDocumentType) => "document type without a name"
  | .xml (.strayClosing name) => s!"closing tag {String.ofList name} closes nothing"
  | .xml .reservedNamespace => "a reserved namespace is bound"
  | .attributes => "faulty attributes"
  | .reference => "unknown reference"
  | .unclosed => "an element is not closed"
  | .noRoot => "no element"
  | .nestedElement name => s!"unexpected element {name} in a text"
  | .dividedText => "a document type within a text"
  | .missingField name => s!"missing field `{name}`"
  | .duplicateField name => s!"duplicate field `{name}`"
  | .textForRecord text record => s!"invalid type: string {Text.quoted text}, expected {record}"

/-- The events after the end of the element that is open. -/
def skipElement (depth : Nat) : List Event → Except Fault (List Event)
  | [] => .error .unclosed
  | .start _ _ :: rest => skipElement (depth + 1) rest
  | .finish _ :: rest =>
    match depth with
    | 0 => .ok rest
    | depth + 1 => skipElement depth rest
  | .text _ :: rest => skipElement depth rest
  | .fault what :: _ => .error (.xml what)

theorem skipElement_length {depth : Nat} {input rest : List Event}
    (h : skipElement depth input = .ok rest) : rest.length < input.length := by
  induction input generalizing depth with
  | nil => simp [skipElement] at h
  | cons event input ih =>
    cases event with
    | start tag scope =>
      have := ih (by simpa [skipElement] using h)
      simp only [List.length_cons]; omega
    | finish scope =>
      cases depth with
      | zero =>
        simp only [skipElement, Except.ok.injEq] at h
        simp [h]
      | succ depth =>
        have := ih (by simpa [skipElement] using h)
        simp only [List.length_cons]; omega
    | text stretches =>
      have := ih (by simpa [skipElement] using h)
      simp only [List.length_cons]; omega
    | fault what => simp [skipElement] at h

/-- The text of the element that is open, which may hold nothing else, and the events after it. -/
def readText : List Event → Except Fault (String × List Event)
  | [] => .error .unclosed
  | .finish _ :: rest => .ok ("", rest)
  | .start tag _ :: _ => .error (.nestedElement (String.ofList tag.name))
  | .fault what :: _ => .error (.xml what)
  | .text stretches :: rest =>
    match Xml.textValue? stretches with
    | none => .error .reference
    | some value =>
      match rest with
      | [] => .error .unclosed
      | .finish _ :: rest => .ok (String.ofList value, rest)
      | .start tag _ :: _ => .error (.nestedElement (String.ofList tag.name))
      | .fault what :: _ => .error (.xml what)
      | .text more :: _ =>
        .error (if (Xml.textValue? more).isSome then .dividedText else .reference)

theorem readText_length {input rest : List Event} {value : String}
    (h : readText input = .ok (value, rest)) : rest.length < input.length := by
  unfold readText at h
  split at h <;> try contradiction
  · simp only [Except.ok.injEq, Prod.mk.injEq] at h
    simp [← h.2]
  · split at h <;> try contradiction
    split at h <;> try contradiction
    simp only [Except.ok.injEq, Prod.mk.injEq] at h
    simp only [← h.2, List.length_cons]; omega

abbrev Texts := List (String × String)

def Texts.get (texts : Texts) (name : String) : String :=
  (texts.lookup name).getD ""

/-- The fields of a record that holds only texts, up to its end, and the events after it. -/
def readFields (names : List String) (texts : Texts) :
    List Event → Except Fault (Texts × List Event)
  | [] => .error .unclosed
  | .finish _ :: rest => .ok (texts, rest)
  | .fault what :: _ => .error (.xml what)
  | .text stretches :: rest =>
    if (Xml.textValue? stretches).isSome then readFields names texts rest else .error .reference
  | .start tag _ :: rest =>
    let name := String.ofList (Xml.localName tag.name)
    if name ∈ names then
      if (texts.lookup name).isSome then .error (.duplicateField name)
      else
        match _read : readText rest with
        | .ok (value, rest) => readFields names ((name, value) :: texts) rest
        | .error what => .error what
    else
      match _read : skipElement 0 rest with
      | .ok rest => readFields names texts rest
      | .error what => .error what
termination_by input => input.length
decreasing_by
  · simp
  · have := readText_length _read
    simp only [List.length_cons]; omega
  · have := skipElement_length _read
    simp only [List.length_cons]; omega

theorem readFields_length {names : List String} {texts found : Texts} {input rest : List Event}
    (h : readFields names texts input = .ok (found, rest)) : rest.length < input.length := by
  fun_induction readFields names texts input <;> try contradiction
  case case2 =>
    simp only [Except.ok.injEq, Prod.mk.injEq] at h
    simp [← h.2]
  case case4 ih =>
    have := ih h
    simp only [List.length_cons]; omega
  case case7 read ih =>
    have := ih h
    have := readText_length read
    simp only [List.length_cons]; omega
  case case9 read ih =>
    have := ih h
    have := skipElement_length read
    simp only [List.length_cons]; omega

def readRecord (names : List String) (tag : Tag) (input : List Event) :
    Except Fault (Texts × List Event) :=
  if tag.attributes.isSound then readFields names [] input else .error .attributes

theorem readRecord_length {names : List String} {tag : Tag} {found : Texts}
    {input rest : List Event} (h : readRecord names tag input = .ok (found, rest)) :
    rest.length < input.length := by
  unfold readRecord at h
  split at h
  · exact readFields_length h
  · contradiction

def imageFields : List String := ["url", "title", "link"]

def imageOfTexts (texts : Texts) : Image :=
  ⟨texts.get "url", texts.get "title", texts.get "link"⟩

def itemFields : List String := ["link", "title", "description", "pubDate"]

def itemOfTexts (texts : Texts) : Item :=
  ⟨texts.get "link", texts.get "title", texts.get "description", texts.get "pubDate"⟩

/-- The events of the element that is open, up to and with its end, and the events after it. All
texts among them must have a value. -/
def takeElement (depth : Nat) : List Event → Except Fault (List Event × List Event)
  | [] => .error .unclosed
  | .start tag scope :: rest =>
    match takeElement (depth + 1) rest with
    | .ok (inside, after) => .ok (.start tag scope :: inside, after)
    | .error what => .error what
  | .finish scope :: rest =>
    match depth with
    | 0 => .ok ([.finish scope], rest)
    | depth + 1 =>
      match takeElement depth rest with
      | .ok (inside, after) => .ok (.finish scope :: inside, after)
      | .error what => .error what
  | .text stretches :: rest =>
    if (Xml.textValue? stretches).isSome then
      match takeElement depth rest with
      | .ok (inside, after) => .ok (.text stretches :: inside, after)
      | .error what => .error what
    else .error .reference
  | .fault what :: _ => .error (.xml what)

theorem takeElement_length {depth : Nat} {input inside after : List Event}
    (h : takeElement depth input = .ok (inside, after)) :
    inside.length + after.length = input.length ∧ 0 < inside.length := by
  induction input generalizing depth inside after with
  | nil => simp [takeElement] at h
  | cons event input ih =>
    cases event with
    | start tag scope =>
      simp only [takeElement] at h
      split at h <;> try contradiction
      rename_i found
      simp only [Except.ok.injEq, Prod.mk.injEq] at h
      have := ih found
      simp only [← h.1, ← h.2, List.length_cons]; omega
    | finish scope =>
      cases depth with
      | zero =>
        simp only [takeElement, Except.ok.injEq, Prod.mk.injEq] at h
        simp only [← h.1, ← h.2, List.length_cons, List.length_nil]; omega
      | succ depth =>
        simp only [takeElement] at h
        split at h <;> try contradiction
        rename_i found
        simp only [Except.ok.injEq, Prod.mk.injEq] at h
        have := ih found
        simp only [← h.1, ← h.2, List.length_cons]; omega
    | text stretches =>
      simp only [takeElement] at h
      split at h <;> try contradiction
      split at h <;> try contradiction
      rename_i found
      simp only [Except.ok.injEq, Prod.mk.injEq] at h
      have := ih found
      simp only [← h.1, ← h.2, List.length_cons]; omega
    | fault what => simp [takeElement] at h

/-- What stands between the first item and the end of its channel: the items, the other elements,
the namespaces in force at the end, and the events after it. -/
structure ItemRun where
  items : List Item
  aside : List Event
  scope : Scope
  rest : List Event

/-- Reads to the end of the channel, taking the elements of this name for items and putting the
others aside. -/
def readItems (name : List Char) : List Event → Except Fault ItemRun
  | [] => .error .unclosed
  | .finish scope :: rest => .ok ⟨[], [], scope, rest⟩
  | .fault what :: _ => .error (.xml what)
  | .text stretches :: _ =>
    match Xml.textValue? stretches with
    | some value => .error (.textForRecord (String.ofList value) "struct FeedItem")
    | none => .error .reference
  | .start tag scope :: rest =>
    if tag.name = name then
      match _read : readRecord itemFields tag rest with
      | .ok (texts, rest) =>
        match readItems name rest with
        | .ok run => .ok { run with items := itemOfTexts texts :: run.items }
        | .error what => .error what
      | .error what => .error what
    else
      match _read : takeElement 0 rest with
      | .ok (inside, rest) =>
        match readItems name rest with
        | .ok run => .ok { run with aside := .start tag scope :: inside ++ run.aside }
        | .error what => .error what
      | .error what => .error what
termination_by input => input.length
decreasing_by
  · have := readRecord_length _read
    simp only [List.length_cons]; omega
  · have := takeElement_length _read
    simp only [List.length_cons]; omega

theorem readItems_length {name : List Char} {input : List Event} {run : ItemRun}
    (h : readItems name input = .ok run) : run.aside.length + run.rest.length < input.length := by
  fun_induction readItems name input generalizing run <;> try contradiction
  case case2 =>
    simp only [Except.ok.injEq] at h
    simp [← h]
  case case6 read _ found ih =>
    simp only [Except.ok.injEq] at h
    have := ih found
    have := readRecord_length read
    simp only [← h, List.length_cons]; omega
  case case9 read _ found ih =>
    simp only [Except.ok.injEq] at h
    have := ih found
    have := takeElement_length read
    simp only [← h, List.length_cons, List.length_append, List.cons_append]; omega

def withScope (scope : Scope) : Event → Event
  | .start tag _ => .start tag scope
  | event => event

/-- The events that are still to be read of the channel, those put aside coming first. The
namespaces that they see are those at the channel's end. -/
def ItemRun.remaining (run : ItemRun) : List Event :=
  run.aside.map (withScope run.scope) ++ .finish run.scope :: run.rest

structure Draft where
  texts : Texts := []
  lastBuildDate : Option (Option String) := none
  image : Option (Option Image) := none
  items : Option (List Item) := none

def Draft.channel (draft : Draft) : Channel where
  title := draft.texts.get "title"
  link := draft.texts.get "link"
  description := draft.texts.get "description"
  copyright := draft.texts.get "copyright"
  language := draft.texts.get "language"
  lastBuildDate := draft.lastBuildDate.join
  image := draft.image.join
  items := draft.items.getD []

def channelTexts : List String := ["title", "link", "description", "copyright", "language"]

/-- The elements of a channel, up to its end, and the events after it. A thumbnail and a date count
as absent when they, or the channel, are declared to have no value. -/
def readChannelFrom (channelTag : Tag) (draft : Draft) :
    List Event → Except Fault (Channel × List Event)
  | [] => .error .unclosed
  | .finish _ :: rest => .ok (draft.channel, rest)
  | .fault what :: _ => .error (.xml what)
  | .text stretches :: rest =>
    if (Xml.textValue? stretches).isSome then readChannelFrom channelTag draft rest
    else .error .reference
  | .start tag scope :: rest =>
    let name := String.ofList (Xml.localName tag.name)
    let isNil := Xml.declaresNil scope channelTag.attributes ||
      Xml.declaresNil scope tag.attributes
    if name ∈ channelTexts then
      if (draft.texts.lookup name).isSome then .error (.duplicateField name)
      else
        match _read : readText rest with
        | .ok (value, rest) =>
          readChannelFrom channelTag { draft with texts := (name, value) :: draft.texts } rest
        | .error what => .error what
    else if name = "lastBuildDate" then
      if draft.lastBuildDate.isSome then .error (.duplicateField name)
      else if isNil then
        match _read : skipElement 0 rest with
        | .ok rest => readChannelFrom channelTag { draft with lastBuildDate := some none } rest
        | .error what => .error what
      else
        match _read : readText rest with
        | .ok (value, rest) =>
          readChannelFrom channelTag { draft with lastBuildDate := some (some value) } rest
        | .error what => .error what
    else if name = "image" then
      if draft.image.isSome then .error (.duplicateField name)
      else if isNil then
        match _read : skipElement 0 rest with
        | .ok rest => readChannelFrom channelTag { draft with image := some none } rest
        | .error what => .error what
      else
        match _read : readRecord imageFields tag rest with
        | .ok (texts, rest) =>
          readChannelFrom channelTag { draft with image := some (some (imageOfTexts texts)) } rest
        | .error what => .error what
    else if name = "item" then
      if draft.items.isSome then .error (.duplicateField name)
      else
        match _read : readItems tag.name (.start tag scope :: rest) with
        | .ok run => readChannelFrom channelTag { draft with items := some run.items } run.remaining
        | .error what => .error what
    else
      match _read : skipElement 0 rest with
      | .ok rest => readChannelFrom channelTag draft rest
      | .error what => .error what
termination_by input => (if draft.items.isNone then 1 else 0, input.length)
decreasing_by
  · decreasing_tactic
  · have := readText_length _read
    decreasing_tactic
  · have := skipElement_length _read
    decreasing_tactic
  · have := readText_length _read
    decreasing_tactic
  · have := skipElement_length _read
    decreasing_tactic
  · have := readRecord_length _read
    decreasing_tactic
  · apply Prod.Lex.left
    rename_i first
    simp [Option.not_isSome_iff_eq_none.1 first]
  · have := skipElement_length _read
    decreasing_tactic

theorem readChannelFrom_length {channelTag : Tag} {draft : Draft} {input rest : List Event}
    {channel : Channel} (h : readChannelFrom channelTag draft input = .ok (channel, rest)) :
    rest.length < input.length := by
  fun_induction readChannelFrom channelTag draft input <;> try contradiction
  case case2 =>
    simp only [Except.ok.injEq, Prod.mk.injEq] at h
    simp [← h.2]
  case case4 ih =>
    have := ih h
    simp only [List.length_cons]; omega
  case case7 read ih =>
    have := ih h
    have := readText_length read
    simp only [List.length_cons]; omega
  case case10 read ih =>
    have := ih h
    have := skipElement_length read
    simp only [List.length_cons]; omega
  case case12 read ih =>
    have := ih h
    have := readText_length read
    simp only [List.length_cons]; omega
  case case15 read ih =>
    have := ih h
    have := skipElement_length read
    simp only [List.length_cons]; omega
  case case17 read ih =>
    have := ih h
    have := readRecord_length read
    simp only [List.length_cons]; omega
  case case20 read ih =>
    have := ih h
    have := readItems_length read
    simp only [ItemRun.remaining, List.length_append, List.length_map, List.length_cons] at *
    omega
  case case22 read ih =>
    have := ih h
    have := skipElement_length read
    simp only [List.length_cons]; omega

def readChannel (tag : Tag) (input : List Event) : Except Fault (Channel × List Event) :=
  if tag.attributes.isSound then readChannelFrom tag {} input else .error .attributes

theorem readChannel_length {tag : Tag} {input rest : List Event} {channel : Channel}
    (h : readChannel tag input = .ok (channel, rest)) : rest.length < input.length := by
  unfold readChannel at h
  split at h
  · exact readChannelFrom_length h
  · contradiction

def readRoot (found : Option Channel) : List Event → Except Fault Channel
  | [] => .error .unclosed
  | .finish _ :: _ =>
    match found with
    | some channel => .ok channel
    | none => .error (.missingField "channel")
  | .fault what :: _ => .error (.xml what)
  | .text stretches :: rest =>
    if (Xml.textValue? stretches).isSome then readRoot found rest else .error .reference
  | .start tag _ :: rest =>
    if String.ofList (Xml.localName tag.name) = "channel" then
      if found.isSome then .error (.duplicateField "channel")
      else
        match _read : readChannel tag rest with
        | .ok (channel, rest) => readRoot (some channel) rest
        | .error what => .error what
    else
      match _read : skipElement 0 rest with
      | .ok rest => readRoot found rest
      | .error what => .error what
termination_by input => input.length
decreasing_by
  · simp
  · have := readChannel_length _read
    simp only [List.length_cons]; omega
  · have := skipElement_length _read
    simp only [List.length_cons]; omega

def read : List Event → Except Fault Channel
  | [] => .error .noRoot
  | .finish _ :: _ => .error .noRoot
  | .fault what :: _ => .error (.xml what)
  | .text stretches :: _ =>
    match Xml.textValue? stretches with
    | some value => .error (.textForRecord (String.ofList value) "struct RssDocument")
    | none => .error .reference
  | .start tag _ :: rest =>
    if tag.attributes.isSound then readRoot none rest else .error .attributes

end IssueFeed.Rss

namespace IssueFeed

inductive FeedFault where
  | encoding (what : Text.Utf8Fault)
  | document (what : Rss.Fault)
  deriving DecidableEq

/-- The channel that a text holds; byte order marks at its beginning do not count. -/
def Channel.ofText (text : String) : Except Rss.Fault Channel :=
  Rss.read (Xml.events (text.toList.dropWhile (· == '\uFEFF')))

def Channel.parse (bytes : ByteArray) : Except FeedFault Channel :=
  match Text.decode bytes with
  | .error what => .error (.encoding what)
  | .ok text =>
    match Channel.ofText text with
    | .error what => .error (.document what)
    | .ok channel => .ok channel

end IssueFeed
