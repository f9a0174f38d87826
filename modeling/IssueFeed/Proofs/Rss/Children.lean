import IssueFeed.Proofs.Rss.Reading

/-! Reading a channel whose elements stand in any order.
A reader of a record or of a channel takes in one element at a time, wherever it stands, and passes
over those it does not know. Only the items are read ahead: with the first of them all others are
collected, and what stands between them is read afterwards. -/
namespace IssueFeed.Rss

open Xml (Event Tag Scope Branch PlainName plainTag textEvents eventsAll)

variable {names : List String} {name text : String} {entries texts : Texts} {draft : Draft}
  {rest : List Event}

theorem skipElement_leaf (text : List Char) (rest : List Event) :
    skipElement 0 (textEvents text ++ .finish [] :: rest) = .ok rest := by
  rw [textEvents]
  split_ifs <;> simp [skipElement]

/-! ## Records -/

/-- What is read of leaves among which these names are known, the last one first. -/
def entriesRead (names : List String) (entries : Texts) : Texts :=
  (settledTexts (entries.filter fun entry => entry.1 ∈ names)).reverse

theorem entriesRead_known (known : name ∈ names) :
    entriesRead names ((name, text) :: entries) =
      entriesRead names entries ++ [(name, settled text)] := by
  simp [entriesRead, settledTexts, known]

theorem entriesRead_unknown (unknown : name ∉ names) :
    entriesRead names ((name, text) :: entries) = entriesRead names entries := by
  simp [entriesRead, unknown]

/-- Leaves of which no known name stands twice. -/
structure Readable (names : List String) (entries : Texts) : Prop where
  plain : ∀ entry ∈ entries, PlainName entry.1.toList
  once : ((entries.map (·.1)).filter (· ∈ names)).Nodup

theorem readFields_stranger (plain : PlainName name.toList) (unknown : name ∉ names)
    (text : String) (rest : List Event) :
    readFields names texts ((leafOf name text).events ++ rest) = readFields names texts rest := by
  rw [leaf_events, readFields]
  simp only [localName_plain plain, unknown, if_false]
  split <;> rename_i read <;> rw [skipElement_leaf] at read <;> cases read
  rfl

theorem readFields_entries (plain : ∀ entry ∈ entries, PlainName entry.1.toList)
    (apart : ((entries.map (·.1)).filter (· ∈ names) ++ texts.map (·.1)).Nodup) (scope : Scope)
    (rest : List Event) :
    readFields names texts (eventsAll (leaves entries) ++ .finish scope :: rest) =
      .ok (entriesRead names entries ++ texts, rest) := by
  -- The induction is on the leaves that are still to be read; those already read are told apart
  -- from them by their names.
  induction entries generalizing texts with
  | nil => simp [leaves, eventsAll, readFields, entriesRead, settledTexts]
  | cons entry entries ih =>
    obtain ⟨name, text⟩ := entry
    obtain ⟨named, others⟩ := List.forall_mem_cons.mp plain
    rw [leaves, List.map_cons, eventsAll, List.append_assoc]
    by_cases known : name ∈ names
    · rw [List.map_cons, List.filter_cons_of_pos (by simpa using known)] at apart
      obtain ⟨new, moved⟩ := nodup_pass apart
      rw [readFields_leaf named known new, entriesRead_known known, List.append_assoc]
      exact ih others moved
    · rw [List.map_cons, List.filter_cons_of_neg (by simpa using known)] at apart
      rw [readFields_stranger named known, entriesRead_unknown known]
      exact ih others apart

theorem readRecord_entries (readable : Readable names entries) (tag : List Char) (scope : Scope)
    (rest : List Event) :
    readRecord names (plainTag tag) (eventsAll (leaves entries) ++ .finish scope :: rest) =
      .ok (entriesRead names entries, rest) := by
  have sound : (plainTag tag).attributes.isSound = true := rfl
  have apart : ((entries.map (·.1)).filter (· ∈ names) ++ ([] : Texts).map (·.1)).Nodup := by
    simpa using readable.once
  rw [readRecord, if_pos sound, readFields_entries readable.plain apart, List.append_nil]

/-! ## The elements of a channel -/

/-- An element of a channel: a leaf, or a record with leaves of its own. -/
inductive Child where
  | leaf (name text : String)
  | image (entries : Texts)
  | item (entries : Texts)

namespace Child

def toXml : Child → Branch
  | .leaf name text => leafOf name text
  | .image entries => .branch "image".toList [] (leaves entries)
  | .item entries => .branch "item".toList [] (leaves entries)

def leaf? : Child → Option (String × String)
  | .leaf name text => some (name, text)
  | _ => none

def image? : Child → Option Texts
  | .image entries => some entries
  | _ => none

def item? : Child → Option Texts
  | .item entries => some entries
  | _ => none

/-- The name under which a channel holds the element, if it can hold one only. -/
def key? : Child → Option String
  | .leaf name _ => if name ∈ channelTexts ∨ name = "lastBuildDate" then some name else none
  | .image _ => some "image"
  | .item _ => none

/-- A leaf is no record, and a record can be read. -/
def Readable : Child → Prop
  | .leaf name _ => PlainName name.toList ∧ name ≠ "image" ∧ name ≠ "item"
  | .image entries => Rss.Readable imageFields entries
  | .item entries => Rss.Readable itemFields entries

end Child

/-- What is known of a channel after one more of its elements, the items apart. -/
def Draft.take (draft : Draft) : Child → Draft
  | .leaf name text =>
    if name ∈ channelTexts then { draft with texts := (name, settled text) :: draft.texts }
    else if name = "lastBuildDate" then { draft with lastBuildDate := some (some (settled text)) }
    else draft
  | .image entries =>
    { draft with image := some (some (imageOfTexts (entriesRead imageFields entries))) }
  | .item _ => draft

/-- Nothing is known yet under this name. -/
structure Draft.Lacks (draft : Draft) (key : String) : Prop where
  text : key ∉ draft.texts.map (·.1)
  date : key = "lastBuildDate" → draft.lastBuildDate = none
  image : key = "image" → draft.image = none

theorem Draft.Lacks.take {key : String} (lacks : draft.Lacks key) {child : Child}
    (other : key ∉ child.key?) : (draft.take child).Lacks key := by
  cases child with
  | leaf name text =>
    rw [Draft.take]
    split_ifs with known dated
    · rw [Child.key?, if_pos (.inl known), Option.mem_def, Option.some.injEq] at other
      exact ⟨by simp [Ne.symm other, lacks.text], lacks.date, lacks.image⟩
    · rw [Child.key?, if_pos (.inr dated), Option.mem_def, Option.some.injEq] at other
      exact ⟨lacks.text, fun same => absurd (dated.trans same.symm) other, lacks.image⟩
    · exact lacks
  | image entries =>
    exact ⟨lacks.text, lacks.date, fun same => absurd (congrArg some same.symm) other⟩
  | item entries => exact lacks

theorem readChannelFrom_stranger (plain : PlainName name.toList) (unknown : name ∉ channelTexts)
    (undated : name ≠ "lastBuildDate") (unpictured : name ≠ "image") (single : name ≠ "item")
    (text : String) (rest : List Event) :
    readChannelFrom channelTag draft ((leafOf name text).events ++ rest) =
      readChannelFrom channelTag draft rest := by
  rw [leaf_events, readChannelFrom]
  simp only [localName_plain plain, unknown, undated, unpictured, single, if_false]
  split <;> rename_i read <;> rw [skipElement_leaf] at read <;> cases read
  rfl

theorem record_events (tag : List Char) (entries : Texts) (rest : List Event) :
    (Branch.branch tag [] (leaves entries)).events ++ rest =
      .start (plainTag tag) [] :: (eventsAll (leaves entries) ++ .finish [] :: rest) := by
  simp [Branch.events]

theorem readChannelFrom_imageEntries (readable : Readable imageFields entries)
    (new : draft.image = none) (rest : List Event) :
    readChannelFrom channelTag draft ((Child.image entries).toXml.events ++ rest) =
      readChannelFrom channelTag (draft.take (.image entries)) rest := by
  have plain : PlainName "image".toList := by decide
  have other : "image" ∉ channelTexts := by decide
  have undated : "image" ≠ "lastBuildDate" := by decide
  rw [Child.toXml, record_events, readChannelFrom]
  simp only [localName_plain plain, other, undated, new, not_nil, if_true, Option.isSome_none,
    Bool.false_eq_true, if_false]
  split <;> rename_i read <;> rw [readRecord_entries readable] at read <;> cases read
  rfl

theorem readChannelFrom_child {child : Child} (readable : child.Readable)
    (noItem : child.item? = none) (new : ∀ key ∈ child.key?, draft.Lacks key)
    (rest : List Event) :
    readChannelFrom channelTag draft (child.toXml.events ++ rest) =
      readChannelFrom channelTag (draft.take child) rest := by
  cases child with
  | leaf name text =>
    obtain ⟨plain, unpictured, single⟩ := readable
    rw [Child.key?] at new
    rw [Child.toXml, Draft.take]
    split_ifs with known dated
    · have lacks := new name (by rw [if_pos (.inl known)]; rfl)
      exact readChannelFrom_text known plain (lookup_isSome_eq_false lacks.text) text rest
    · have lacks := new name (by rw [if_pos (.inr dated)]; rfl)
      subst dated
      exact readChannelFrom_date (lacks.date rfl) text rest
    · exact readChannelFrom_stranger plain known dated unpictured single text rest
  | image entries =>
    have lacks := new "image" rfl
    exact readChannelFrom_imageEntries readable (lacks.image rfl) rest
  | item entries => cases noItem

/-- Of elements whose names are lacking the first can be taken in, and the others lack theirs
still. -/
theorem lacking_cons {child : Child} {children : List Child}
    (once : ((child :: children).filterMap Child.key?).Nodup)
    (lacking : ∀ key ∈ (child :: children).filterMap Child.key?, draft.Lacks key) :
    (∀ key ∈ child.key?, draft.Lacks key) ∧ (children.filterMap Child.key?).Nodup ∧
      ∀ key ∈ children.filterMap Child.key?, (draft.take child).Lacks key := by
  cases named : child.key? with
  | none =>
    rw [List.filterMap_cons_none named] at once lacking
    exact ⟨nofun, once, fun key member => (lacking key member).take (by rw [named]; nofun)⟩
  | some name =>
    rw [List.filterMap_cons_some named] at once lacking
    obtain ⟨new, others⟩ := List.nodup_cons.mp once
    obtain ⟨first, later⟩ := List.forall_mem_cons.mp lacking
    refine ⟨fun key same => Option.some.inj same ▸ first, others, fun key member => ?_⟩
    refine (later key member).take fun same => new ?_
    rw [named, Option.mem_def, Option.some.injEq] at same
    exact same ▸ member

theorem readChannelFrom_children {children : List Child}
    (readable : ∀ child ∈ children, child.Readable)
    (noItem : ∀ child ∈ children, child.item? = none)
    (once : (children.filterMap Child.key?).Nodup)
    (lacking : ∀ key ∈ children.filterMap Child.key?, draft.Lacks key) (rest : List Event) :
    readChannelFrom channelTag draft
        (eventsAll (children.map Child.toXml) ++ .finish [] :: rest) =
      .ok ((children.foldl Draft.take draft).channel, rest) := by
  -- The induction is on the elements; the names of those still to come are lacking.
  induction children generalizing draft with
  | nil => rw [List.map_nil, eventsAll, List.nil_append, readChannelFrom, List.foldl_nil]
  | cons child children ih =>
    obtain ⟨one, others⟩ := List.forall_mem_cons.mp readable
    obtain ⟨notOne, notOthers⟩ := List.forall_mem_cons.mp noItem
    obtain ⟨new, apart, later⟩ := lacking_cons once lacking
    rw [List.map_cons, eventsAll, List.append_assoc, readChannelFrom_child one notOne new,
      ih others notOthers apart later, List.foldl_cons]

/-! ## The items -/

theorem takeElement_start (depth : Nat) (tag : Tag) (scope : Scope) (rest : List Event) :
    takeElement depth (.start tag scope :: rest) =
      (takeElement (depth + 1) rest).map fun found => (.start tag scope :: found.1, found.2) := by
  rw [takeElement]
  cases takeElement (depth + 1) rest <;> rfl

theorem takeElement_finish (depth : Nat) (scope : Scope) (rest : List Event) :
    takeElement (depth + 1) (.finish scope :: rest) =
      (takeElement depth rest).map fun found => (.finish scope :: found.1, found.2) := by
  rw [takeElement]
  cases takeElement depth rest <;> rfl

theorem takeElement_text (depth : Nat) (text : List Char) (rest : List Event) :
    takeElement depth (textEvents text ++ rest) =
      (takeElement depth rest).map fun found => (textEvents text ++ found.1, found.2) := by
  rw [textEvents]
  split_ifs with empty
  · rw [List.nil_append]
    cases takeElement depth rest <;> rfl
  · rw [List.cons_append, List.nil_append, takeElement, textValue_written]
    simp only [Option.isSome_some, if_true]
    cases takeElement depth rest <;> rfl

/-- Whole elements are taken as they are, at whatever depth. -/
theorem takeElement_events : ∀ (elements : List Branch) (depth : Nat) (rest : List Event),
    takeElement depth (eventsAll elements ++ rest) =
      (takeElement depth rest).map fun found => (eventsAll elements ++ found.1, found.2)
  | [], depth, rest => by
    rw [eventsAll, List.nil_append]
    cases takeElement depth rest <;> rfl
  | .leaf name text :: others, depth, rest => by
    simp only [eventsAll, Branch.events, List.cons_append, List.append_assoc, List.nil_append]
    rw [takeElement_start, takeElement_text, takeElement_finish, takeElement_events others]
    cases takeElement depth rest <;> rfl
  | .branch name _ children :: others, depth, rest => by
    simp only [eventsAll, Branch.events, List.cons_append, List.append_assoc, List.nil_append]
    rw [takeElement_start, takeElement_events children, takeElement_finish,
      takeElement_events others]
    cases takeElement depth rest <;> rfl

theorem takeElement_inside (elements : List Branch) (rest : List Event) :
    takeElement 0 (eventsAll elements ++ .finish [] :: rest) =
      .ok (eventsAll elements ++ [.finish []], rest) := by
  rw [takeElement_events, takeElement]
  rfl

def itemsRead (children : List Child) : List Item :=
  (children.filterMap Child.item?).map fun entries => itemOfTexts (entriesRead itemFields entries)

theorem takeElement_leaf (text : List Char) (rest : List Event) :
    takeElement 0 (textEvents text ++ .finish [] :: rest) =
      .ok (textEvents text ++ [.finish []], rest) := by
  rw [takeElement_text, takeElement]
  rfl

/-- An element that is no item is put aside as a whole. -/
theorem readItems_other {child : Child} (readable : child.Readable) (noItem : child.item? = none)
    (rest : List Event) :
    readItems "item".toList (child.toXml.events ++ rest) =
      (readItems "item".toList rest).map fun run =>
        { run with aside := child.toXml.events ++ run.aside } := by
  cases child with
  | leaf name text =>
    have other : name.toList ≠ "item".toList :=
      fun same => readable.2.2 (String.toList_injective same)
    rw [Child.toXml, leaf_events, readItems]
    simp only [plainTag, other, if_false]
    split <;> rename_i read <;> rw [takeElement_leaf] at read <;> cases read
    cases readItems "item".toList rest <;> simp [leafOf, Branch.events, plainTag, Except.map]
  | image entries =>
    have other : "image".toList ≠ "item".toList := by decide
    rw [Child.toXml, record_events, readItems]
    simp only [plainTag, other, if_false]
    split <;> rename_i read <;> rw [takeElement_inside] at read <;> cases read
    cases readItems "item".toList rest <;> simp [Branch.events, plainTag, Except.map]
  | item entries => cases noItem

theorem readItems_one (readable : Readable itemFields entries) (rest : List Event) :
    readItems "item".toList ((Child.item entries).toXml.events ++ rest) =
      (readItems "item".toList rest).map fun run =>
        { run with items := itemOfTexts (entriesRead itemFields entries) :: run.items } := by
  have record := readRecord_entries readable "item".toList [] rest
  rw [Child.toXml, record_events, readItems]
  simp only [plainTag, if_true] at record ⊢
  split <;> rename_i read <;> rw [record] at read <;> cases read
  cases readItems "item".toList rest <;> rfl

def others (children : List Child) : List Child :=
  children.filter fun child => child.item?.isNone

/-- All items are found, wherever they stand, and the other elements keep their order. -/
theorem readItems_children {children : List Child}
    (readable : ∀ child ∈ children, child.Readable) (rest : List Event) :
    readItems "item".toList (eventsAll (children.map Child.toXml) ++ .finish [] :: rest) =
      .ok ⟨itemsRead children, eventsAll ((others children).map Child.toXml), [], rest⟩ := by
  induction children with
  | nil => simp [eventsAll, readItems, itemsRead, others]
  | cons child children ih =>
    obtain ⟨one, more⟩ := List.forall_mem_cons.mp readable
    rw [List.map_cons, eventsAll, List.append_assoc]
    cases found : child.item? with
    | none =>
      rw [readItems_other one found, ih more]
      simp [itemsRead, others, found, eventsAll, Except.map]
    | some entries =>
      cases child with
      | item entries =>
        cases found
        rw [readItems_one one, ih more]
        simp [itemsRead, others, Child.item?, Except.map]
      | leaf name text => cases found
      | image entries => cases found

theorem textEvents_unbound (text : List Char) :
    (textEvents text).map (withScope []) = textEvents text := by
  rw [textEvents]
  split_ifs <;> rfl

/-- Where no namespace is bound, elements that were put aside are read like any others. -/
theorem eventsAll_unbound : ∀ elements : List Branch,
    (eventsAll elements).map (withScope []) = eventsAll elements
  | [] => rfl
  | .leaf name text :: others => by
    simp [eventsAll, Branch.events, withScope, textEvents_unbound, eventsAll_unbound others]
  | .branch name _ children :: others => by
    simp [eventsAll, Branch.events, withScope, eventsAll_unbound children,
      eventsAll_unbound others]

/-! ## The channel -/

/-- The channel that is read of a draft and the elements that follow it. -/
def channelRead (draft : Draft) (children : List Child) : Channel :=
  { children.foldl Draft.take draft with items := some (itemsRead children) }.channel

theorem take_items (draft : Draft) (items : Option (List Item)) (child : Child) :
    ({ draft with items } : Draft).take child = { draft.take child with items } := by
  cases child with
  | leaf name text => simp only [Draft.take]; split_ifs <;> rfl
  | image entries => rfl
  | item entries => rfl

theorem foldl_take_items (draft : Draft) (items : Option (List Item)) (children : List Child) :
    children.foldl Draft.take { draft with items } =
      { children.foldl Draft.take draft with items } := by
  induction children generalizing draft with
  | nil => rfl
  | cons child children ih => rw [List.foldl_cons, take_items, ih, List.foldl_cons]

theorem foldl_take_others (draft : Draft) (children : List Child) :
    (others children).foldl Draft.take draft = children.foldl Draft.take draft := by
  induction children generalizing draft with
  | nil => rfl
  | cons child children ih =>
    cases child with
    | leaf name text => exact ih _
    | image entries => exact ih _
    | item entries => exact ih _

theorem key?_others (children : List Child) :
    (others children).filterMap Child.key? = children.filterMap Child.key? := by
  rw [others, List.filterMap_filter]
  exact List.filterMap_congr fun child _ => by cases child <;> rfl

/-- When the items have been read, only the other elements are left. -/
theorem readChannelFrom_others {children : List Child}
    (readable : ∀ child ∈ children, child.Readable)
    (once : (children.filterMap Child.key?).Nodup)
    (lacking : ∀ key ∈ children.filterMap Child.key?, draft.Lacks key) (rest : List Event) :
    readChannelFrom channelTag { draft with items := some (itemsRead children) }
        (eventsAll ((others children).map Child.toXml) ++ .finish [] :: rest) =
      .ok (channelRead draft children, rest) := by
  have noItem : ∀ child ∈ others children, child.item? = none := fun child member =>
    Option.isNone_iff_eq_none.mp (List.mem_filter.mp member).2
  have readOthers : ∀ child ∈ others children, child.Readable := fun child member =>
    readable child (List.mem_filter.mp member).1
  rw [← key?_others] at once lacking
  rw [readChannelFrom_children readOthers noItem once, foldl_take_items, foldl_take_others]
  · rfl
  · exact fun key member =>
      ⟨(lacking key member).text, (lacking key member).date, (lacking key member).image⟩

/-- At the first item all items are read at once. -/
theorem readChannelFrom_items_ahead {entries : Texts} {children : List Child}
    (readable : ∀ child ∈ Child.item entries :: children, child.Readable)
    (once : (children.filterMap Child.key?).Nodup) (new : draft.items = none)
    (lacking : ∀ key ∈ children.filterMap Child.key?, draft.Lacks key) (rest : List Event) :
    readChannelFrom channelTag draft
        (eventsAll ((Child.item entries :: children).map Child.toXml) ++ .finish [] :: rest) =
      .ok (channelRead draft (Child.item entries :: children), rest) := by
  have plain : PlainName "item".toList := by decide
  have other : "item" ∉ channelTexts := by decide
  have undated : "item" ≠ "lastBuildDate" := by decide
  have unpictured : "item" ≠ "image" := by decide
  have all : readItems (plainTag "item".toList).name _ = _ := readItems_children readable rest
  have after := readChannelFrom_others readable once lacking rest
  rw [List.map_cons, eventsAll, List.append_assoc, Child.toXml, record_events] at all ⊢
  rw [readChannelFrom]
  simp only [localName_plain plain, other, undated, unpictured, new, if_true, Option.isSome_none,
    Bool.false_eq_true, if_false]
  split <;> rename_i read <;> rw [all] at read <;> cases read
  rw [ItemRun.remaining, eventsAll_unbound]
  exact after

/-- A channel is read of its elements, in whatever order they stand. -/
theorem readChannelFrom_arranged {children : List Child}
    (readable : ∀ child ∈ children, child.Readable)
    (once : (children.filterMap Child.key?).Nodup) (new : draft.items = none)
    (lacking : ∀ key ∈ children.filterMap Child.key?, draft.Lacks key) (rest : List Event) :
    readChannelFrom channelTag draft
        (eventsAll (children.map Child.toXml) ++ .finish [] :: rest) =
      .ok (channelRead draft children, rest) := by
  -- The induction is on the elements before the first item.
  induction children generalizing draft with
  | nil =>
    rw [List.map_nil, eventsAll, List.nil_append, readChannelFrom]
    simp [channelRead, itemsRead, Draft.channel, new]
  | cons child children ih =>
    obtain ⟨one, others⟩ := List.forall_mem_cons.mp readable
    obtain ⟨first, apart, later⟩ := lacking_cons once lacking
    cases found : child.item? with
    | none =>
      have none : (draft.take child).items = none := by
        cases child with
        | leaf name text => rw [Draft.take]; split_ifs <;> exact new
        | image entries => exact new
        | item entries => exact new
      rw [List.map_cons, eventsAll, List.append_assoc, readChannelFrom_child one found first,
        ih others apart none later]
      simp [channelRead, itemsRead, found]
    | some entries =>
      -- From here on the items are known, and what was put aside is read as if they were not there.
      cases child with
      | item entries => exact readChannelFrom_items_ahead readable apart new later rest
      | leaf name text => cases found
      | image entries => cases found

/-! What the parts of the channel that is read come from. -/

theorem foldl_take_texts (draft : Draft) (children : List Child) :
    (children.foldl Draft.take draft).texts =
      entriesRead channelTexts (children.filterMap Child.leaf?) ++ draft.texts := by
  induction children generalizing draft with
  | nil => rfl
  | cons child children ih =>
    rw [List.foldl_cons, ih]
    cases child with
    | leaf name text =>
      rw [Draft.take, List.filterMap_cons_some (by rfl)]
      split_ifs with known dated
      · rw [entriesRead_known known, List.append_assoc]
        rfl
      · rw [entriesRead_unknown known]
      · rw [entriesRead_unknown known]
    | image entries => rfl
    | item entries => rfl

theorem foldl_take_date (draft : Draft) (children : List Child) :
    (children.foldl Draft.take draft).lastBuildDate =
      (((entriesRead ["lastBuildDate"] (children.filterMap Child.leaf?)).lookup
        "lastBuildDate").map some).or draft.lastBuildDate := by
  induction children generalizing draft with
  | nil => rfl
  | cons child children ih =>
    rw [List.foldl_cons, ih]
    cases child with
    | leaf name text =>
      rw [Draft.take, List.filterMap_cons_some (by rfl)]
      split_ifs with known dated
      · have other : name ∉ ["lastBuildDate"] := by
          intro dated
          rw [List.mem_singleton.mp dated] at known
          revert known
          decide
        rw [entriesRead_unknown other]
      · subst dated
        rw [entriesRead_known List.mem_cons_self, List.lookup_append]
        cases (entriesRead ["lastBuildDate"] (children.filterMap Child.leaf?)).lookup
          "lastBuildDate" <;> rfl
      · rw [entriesRead_unknown (by simpa using dated)]
    | image entries => rfl
    | item entries => rfl

theorem foldl_take_image (draft : Draft) (children : List Child) :
    (children.foldl Draft.take draft).image =
      ((children.filterMap Child.image?).getLast?.map fun entries =>
        some (imageOfTexts (entriesRead imageFields entries))).or draft.image := by
  induction children generalizing draft with
  | nil => rfl
  | cons child children ih =>
    rw [List.foldl_cons, ih]
    cases child with
    | leaf name text =>
      rw [Draft.take]
      split_ifs <;> rfl
    | image entries =>
      rw [List.filterMap_cons_some (by rfl), List.getLast?_cons]
      cases (children.filterMap Child.image?).getLast? <;> rfl
    | item entries => rfl

end IssueFeed.Rss
