import IssueFeed.Config.Read
import IssueFeed.Proofs.Entries
import IssueFeed.Proofs.Rss.RoundTrip
import IssueFeed.Proofs.Toml.Keys
import Mathlib

/-! Configurations read from documents.
A document gives some fields of some sections, and the configuration read from it is the default one
with these fields overwritten. Where a field has the wrong type, or a section is a plain value,
nothing of the document counts. -/
namespace IssueFeed

open Toml (Value)

/-! ## What a configuration says -/

def CrawlerConfig.entries (part : CrawlerConfig) : List (String × Value) :=
  [ ("user_agent", .string part.userAgent),
    ("timeout_secs", .integer part.timeoutSeconds)]

def SourceConfig.entries (part : SourceConfig) : List (String × Value) :=
  [ ("page_url", .string part.pageUrl),
    ("origin", .string part.origin),
    ("topic_marker", .string part.topicMarker),
    ("document_extension", .string part.documentExtension)]

def FeedConfig.entries (part : FeedConfig) : List (String × Value) :=
  [ ("output_path", .string part.outputPath),
    ("title", .string part.title),
    ("description", .string part.description),
    ("copyright_holder", .string part.copyrightHolder),
    ("language", .string part.language),
    ("item_title", .string part.itemTitle),
    ("image_title", .string part.imageTitle),
    ("date_format", .string part.dateFormat)]

namespace Config

/-- The sections of a configuration, every field spelled out. -/
def sections (config : Config) : List (String × List (String × Value)) :=
  [ ("crawler", config.crawler.entries),
    ("source", config.source.entries),
    ("feed", config.feed.entries)]

theorem sections_injective : Function.Injective sections := by
  rintro ⟨⟨_, _⟩, ⟨_, _, _, _⟩, ⟨_, _, _, _, _, _, _, _⟩⟩
    ⟨⟨_, _⟩, ⟨_, _, _, _⟩, ⟨_, _, _, _, _, _, _, _⟩⟩ same
  simpa [sections, CrawlerConfig.entries, SourceConfig.entries, FeedConfig.entries,
    Int.ofNat_inj, and_assoc] using same

/-- The field of the section has the value. -/
def Has (config : Config) (name key : String) (v : Value) : Prop :=
  ∃ fields, (name, fields) ∈ config.sections ∧ (key, v) ∈ fields

end Config

/-- The value can stand where another is the default: a text for a text, a natural number for a
natural number. -/
def Toml.Value.Suits : Value → Value → Prop
  | .string _, .string _ => True
  | .integer z, .integer _ => 0 ≤ z
  | _, _ => False

/-! ## Overwriting field by field -/

section Overlay

variable {α β : Type} {view : α → List (String × β)} {fits clashes : β → Value → Prop}
  {image : String → Value → β} {fields : List (Field α)} {entries : List (String × β)}
  {given : List (String × Value)} {key : String} {b : β} {v : Value}

/-- A value that fits the field takes the place of what is said under its key, and one that clashes
with it is refused. -/
structure Field.Writes (view : α → List (String × β)) (fits clashes : Value → Prop)
    (image : Value → β) (field : Field α) : Prop where
  taken : ∀ part v, fits v →
    ∃ changed, field.set part v = .ok changed ∧
      view changed = replaced field.key (image v) (view part)
  refused : ∀ part v, clashes v → ∃ fault, field.set part v = .error fault

/-- The fields write the entries, each its own. -/
structure Covers (view : α → List (String × β)) (fits clashes : β → Value → Prop)
    (image : String → Value → β) (fields : List (Field α)) (entries : List (String × β)) :
    Prop where
  keys : ∀ part, (view part).map Prod.fst = entries.map Prod.fst
  once : (entries.map Prod.fst).Nodup
  writes : List.Forall₂ (fun field entry => field.key = entry.1 ∧
    field.Writes view (fits entry.2) (clashes entry.2) (image entry.1)) fields entries

namespace Covers

theorem find? (covers : Covers view fits clashes image fields entries) (key : String) :
    (∃ field b, fields.find? (·.key == key) = some field ∧ (key, b) ∈ entries ∧ field.key = key ∧
        field.Writes view (fits b) (clashes b) (image key)) ∨
      fields.find? (·.key == key) = none ∧ ∀ b, (key, b) ∉ entries := by
  obtain ⟨-, -, writes⟩ := covers
  induction writes with
  | nil => exact .inr ⟨rfl, nofun⟩
  | @cons field entry fields entries first _ ih =>
    obtain ⟨named, writes⟩ := first
    by_cases same : field.key = key
    · refine .inl ⟨field, entry.2, ?_, ?_, same, ?_⟩
      · rw [List.find?_cons_of_pos (by simpa using same)]
      · rw [← same, named]
        exact List.mem_cons_self
      · rwa [← same, named]
    · rw [List.find?_cons_of_neg (by simpa using same)]
      refine ih.imp ?_ ?_
      · rintro ⟨found, b, first, member, rest⟩
        exact ⟨found, b, first, List.mem_cons_of_mem entry member, rest⟩
      · rintro ⟨missing, absent⟩
        refine ⟨missing, fun b member => ?_⟩
        rcases List.mem_cons.mp member with rfl | later
        · exact same named
        · exact absent b later

theorem not_mem_view (covers : Covers view fits clashes image fields entries)
    (unknown : ∀ b, (key, b) ∉ entries) (part : α) (b : β) : (key, b) ∉ view part := by
  intro member
  have named : key ∈ entries.map Prod.fst :=
    covers.keys part ▸ List.mem_map.mpr ⟨(key, b), member, rfl⟩
  obtain ⟨⟨_, other⟩, known, rfl⟩ := List.mem_map.mp named
  exact unknown other known

/-- Where all that is given fits, it is laid over the part. -/
theorem overlay_ok (covers : Covers view fits clashes image fields entries)
    (once : (given.map Prod.fst).Nodup)
    (fit : ∀ key b v, (key, b) ∈ entries → (key, v) ∈ given → fits b v) (part : α) :
    ∃ result, overlay fields part given = .ok result ∧
      view result = overwritten image given (view part) := by
  induction given generalizing part with
  | nil => exact ⟨part, rfl, overwritten_nil.symm⟩
  | cons entry given ih =>
    obtain ⟨key, v⟩ := entry
    obtain ⟨new, once⟩ := List.nodup_cons.mp once
    have absent : ∀ u, (key, u) ∉ given := fun u member =>
      new (List.mem_map.mpr ⟨(key, u), member, rfl⟩)
    have ih := ih once fun key b v known member =>
      fit key b v known (List.mem_cons_of_mem _ member)
    obtain ⟨field, b, found, known, rfl, writes⟩ | ⟨missing, unknown⟩ := covers.find? key
    · obtain ⟨changed, set, seen⟩ := writes.taken part v (fit _ b v known List.mem_cons_self)
      obtain ⟨result, done, seenAtEnd⟩ := ih changed
      refine ⟨result, ?_, ?_⟩
      · simpa only [overlay, found, set] using done
      · rw [seenAtEnd, seen, overwritten_replaced absent]
    · obtain ⟨result, done, seenAtEnd⟩ := ih part
      refine ⟨result, ?_, ?_⟩
      · simpa only [overlay, missing] using done
      · rw [seenAtEnd, overwritten_cons_of_not_mem (covers.not_mem_view unknown part)]

/-- One value that clashes spoils everything, whatever else is given. -/
theorem overlay_error (covers : Covers view fits clashes image fields entries)
    (known : (key, b) ∈ entries) (member : (key, v) ∈ given) (clash : clashes b v) (part : α) :
    ∃ fault, overlay fields part given = .error fault := by
  obtain ⟨field, other, found, alsoKnown, rfl, writes⟩ | ⟨-, unknown⟩ := covers.find? key
  · have same : other = b := Option.some.inj <|
      ((lookup_eq_some_iff_mem covers.once).mpr alsoKnown).symm.trans
        ((lookup_eq_some_iff_mem covers.once).mpr known)
    subst same
    induction given generalizing part with
    | nil => cases member
    | cons entry given ih =>
      rcases List.mem_cons.mp member with rfl | later
      · obtain ⟨fault, refused⟩ := writes.refused part v clash
        exact ⟨fault, by simp only [overlay, found, refused]⟩
      · obtain ⟨entryKey, w⟩ := entry
        rw [overlay]
        split
        · exact ih part later
        · split
          · exact ih _ later
          · exact ⟨_, rfl⟩
  · exact absurd known (unknown b)

end Covers

end Overlay

/-! ## Sections -/

theorem writes_text {α : Type} {view : α → List (String × Value)} {expected key default : String}
    {store : α → String → α}
    (stored : ∀ part s, view (store part s) = replaced key (.string s) (view part)) :
    Field.Writes view (·.Suits (.string default)) (¬ ·.Suits (.string default)) (fun v => v)
      ⟨key, fun part v => (textOf expected v).map (store part)⟩ where
  taken part v suits := by
    cases v with
    | string s => exact ⟨_, rfl, stored part s⟩
    | _ => cases suits
  refused part v unsuited := by
    cases v with
    | string s => exact absurd trivial unsuited
    | _ => exact ⟨_, rfl⟩

theorem writes_natural {α : Type} {view : α → List (String × Value)} {key : String} {default : Int}
    {store : α → Nat → α}
    (stored : ∀ part (n : Nat), view (store part n) = replaced key (.integer n) (view part)) :
    Field.Writes view (·.Suits (.integer default)) (¬ ·.Suits (.integer default)) (fun v => v)
      ⟨key, fun part v => (naturalOf v).map (store part)⟩ where
  taken part v suits := by
    cases v with
    | integer z =>
      have natural : 0 ≤ z := suits
      refine ⟨store part z.toNat, ?_, ?_⟩
      · simp only [naturalOf, if_pos natural, Except.map]
      · rw [stored, Int.toNat_of_nonneg natural]
    | _ => cases suits
  refused part v unsuited := by
    cases v with
    | integer z =>
      have negative : ¬ 0 ≤ z := unsuited
      refine ⟨.wrongValue (Value.integer z).described "u64", ?_⟩
      simp only [naturalOf, if_neg negative, Except.map]
    | _ => exact ⟨_, rfl⟩

/-- The fields write the entries of a section. -/
def CoversSection {α : Type} (view : α → List (String × Value)) (fields : List (Field α))
    (defaults : α) : Prop :=
  Covers view (fun default v => v.Suits default) (fun default v => ¬ v.Suits default)
    (fun _ v => v) fields (view defaults)

theorem crawlerFields_cover : CoversSection CrawlerConfig.entries crawlerFields {} where
  keys _ := rfl
  once := by decide
  writes :=
    .cons ⟨rfl, writes_text fun _ _ => rfl⟩ <|
    .cons ⟨rfl, writes_natural fun _ _ => rfl⟩ .nil

theorem sourceFields_cover : CoversSection SourceConfig.entries sourceFields {} where
  keys _ := rfl
  once := by decide
  writes :=
    .cons ⟨rfl, writes_text fun _ _ => rfl⟩ <|
    .cons ⟨rfl, writes_text fun _ _ => rfl⟩ <|
    .cons ⟨rfl, writes_text fun _ _ => rfl⟩ <|
    .cons ⟨rfl, writes_text fun _ _ => rfl⟩ .nil

theorem feedFields_cover : CoversSection FeedConfig.entries feedFields {} where
  keys _ := rfl
  once := by decide
  writes :=
    .cons ⟨rfl, writes_text fun _ _ => rfl⟩ <|
    .cons ⟨rfl, writes_text fun _ _ => rfl⟩ <|
    .cons ⟨rfl, writes_text fun _ _ => rfl⟩ <|
    .cons ⟨rfl, writes_text fun _ _ => rfl⟩ <|
    .cons ⟨rfl, writes_text fun _ _ => rfl⟩ <|
    .cons ⟨rfl, writes_text fun _ _ => rfl⟩ <|
    .cons ⟨rfl, writes_text fun _ _ => rfl⟩ <|
    .cons ⟨rfl, writes_text fun _ _ => rfl⟩ .nil

/-- The fields that a value gives. -/
def Toml.Value.fields : Value → List (String × Value)
  | .table given => given
  | _ => []

/-- A text, a number or a truth value. -/
def Toml.Value.IsPlain : Value → Prop
  | .string _ | .integer _ | .float _ | .boolean _ => True
  | _ => False

def SectionFits (entries : List (String × Value)) (v : Value) : Prop :=
  v = .dateTime ∨ ∃ given, v = .table given ∧ (given.map Prod.fst).Nodup ∧
    ∀ key default u, (key, default) ∈ entries → (key, u) ∈ given → u.Suits default

def SectionClashes (entries : List (String × Value)) (v : Value) : Prop :=
  v.IsPlain ∨ ∃ given, v = .table given ∧
    ∃ key default u, (key, default) ∈ entries ∧ (key, u) ∈ given ∧ ¬ u.Suits default

section Sections

variable {α : Type} {view : α → List (String × Value)} {fields : List (Field α)} {defaults : α}
  {v : Value}

theorem CoversSection.sectionOf_ok (covers : CoversSection view fields defaults) (name : String)
    (fits : SectionFits (view defaults) v) :
    ∃ part, sectionOf name fields defaults v = .ok part ∧
      view part = overwritten (fun _ u => u) v.fields (view defaults) := by
  rcases fits with rfl | ⟨given, rfl, once, suits⟩
  · exact ⟨defaults, rfl, overwritten_nil.symm⟩
  · exact covers.overlay_ok once suits defaults

theorem CoversSection.sectionOf_error (covers : CoversSection view fields defaults) (name : String)
    (clashes : SectionClashes (view defaults) v) :
    ∃ fault, sectionOf name fields defaults v = .error fault := by
  rcases clashes with plain | ⟨given, rfl, key, default, u, known, member, unsuited⟩
  · cases v with
    | string _ | integer _ | float _ | boolean _ => exact ⟨_, rfl⟩
    | dateTime | array _ | table _ => cases plain
  · exact covers.overlay_error known member unsuited defaults

/-- What a value makes of the section of a name. -/
def sectionImage (name : String) (v : Value) : List (String × Value) :=
  overwritten (fun _ u => u) v.fields (((({} : Config).sections).lookup name).getD [])

theorem CoversSection.writes (covers : CoversSection view fields defaults) {key name : String}
    {store : Config → α → Config}
    (stored : ∀ config part, (store config part).sections =
      replaced key (view part) config.sections)
    (named : ({} : Config).sections.lookup key = some (view defaults)) :
    Field.Writes Config.sections (SectionFits (view defaults)) (SectionClashes (view defaults))
      (sectionImage key) ⟨key, fun c v => (sectionOf name fields defaults v).map (store c)⟩ where
  taken config v fits := by
    obtain ⟨part, done, seen⟩ := covers.sectionOf_ok name fits
    refine ⟨store config part, congrArg (Except.map (store config)) done, ?_⟩
    rw [stored, seen, sectionImage, named]
    rfl
  refused config v clash := by
    obtain ⟨fault, refused⟩ := covers.sectionOf_error name clash
    exact ⟨fault, congrArg (Except.map (store config)) refused⟩

end Sections

theorem configFields_cover :
    Covers Config.sections SectionFits SectionClashes sectionImage configFields
      ({} : Config).sections where
  keys _ := rfl
  once := by decide
  writes :=
    .cons ⟨rfl, crawlerFields_cover.writes (fun _ _ => rfl) rfl⟩ <|
    .cons ⟨rfl, sourceFields_cover.writes (fun _ _ => rfl) rfl⟩ <|
    .cons ⟨rfl, feedFields_cover.writes (fun _ _ => rfl) rfl⟩ .nil

/-! ## Documents -/

def IsSection (name : String) : Prop :=
  ∃ fields, (name, fields) ∈ ({} : Config).sections

/-- The document gives the field of the section the value. -/
def Gives (document : List (String × Value)) (name key : String) (v : Value) : Prop :=
  ∃ given, (name, .table given) ∈ document ∧ (key, v) ∈ given

/-- The field is to have the value: the document gives it, or it is the default of a field that the
document does not give. -/
def Settles (document : List (String × Value)) (name key : String) (v : Value) : Prop :=
  ∃ default, ({} : Config).Has name key default ∧
    (Gives document name key v ∨ v = default ∧ ∀ u, ¬ Gives document name key u)

/-- Every section that the document has is a table or a date, and every field that it gives suits.
-/
structure DocumentFits (document : List (String × Value)) : Prop where
  sections : ∀ name v, IsSection name → (name, v) ∈ document →
    v = .dateTime ∨ ∃ given, v = .table given
  fields : ∀ name key default v, ({} : Config).Has name key default →
    Gives document name key v → v.Suits default

/-- Some section is a plain value in the document, or some field that it gives does not suit. -/
def DocumentClashes (document : List (String × Value)) : Prop :=
  (∃ name v, IsSection name ∧ (name, v) ∈ document ∧ v.IsPlain) ∨
    ∃ name key default v, ({} : Config).Has name key default ∧
      Gives document name key v ∧ ¬ v.Suits default

/-- What the document gives the section. -/
def givenTo (document : List (String × Value)) (name : String) : List (String × Value) :=
  ((document.lookup name).map Value.fields).getD []

section Documents

variable {document other : List (String × Value)} {name key : String} {v : Value}

theorem Toml.Value.Keyed.fields (keyed : v.Keyed) : (v.fields.map Prod.fst).Nodup := by
  cases keyed with
  | table once _ => exact once
  | _ => exact List.nodup_nil

theorem Toml.Value.Keyed.once (keyed : (Value.table document).Keyed) :
    (document.map Prod.fst).Nodup :=
  Value.Keyed.fields keyed

theorem Toml.Value.Keyed.of_mem (keyed : (Value.table document).Keyed)
    (member : (name, v) ∈ document) : v.Keyed := by
  cases keyed with
  | table _ all => exact all (name, v) member

theorem givenTo_once (keyed : (Value.table document).Keyed) (name : String) :
    ((givenTo document name).map Prod.fst).Nodup := by
  rw [givenTo]
  cases found : document.lookup name with
  | none => exact List.nodup_nil
  | some v => exact (keyed.of_mem ((lookup_eq_some_iff_mem keyed.once).mp found)).fields

theorem mem_givenTo (keyed : (Value.table document).Keyed) :
    (key, v) ∈ givenTo document name ↔ Gives document name key v := by
  rw [givenTo, Gives]
  simp only [← lookup_eq_some_iff_mem keyed.once]
  cases document.lookup name with
  | none => simp
  | some w => cases w <;> simp [Value.fields]

theorem DocumentFits.sectionFits (fits : DocumentFits document)
    (keyed : (Value.table document).Keyed) {entries : List (String × Value)}
    (known : (name, entries) ∈ ({} : Config).sections) (member : (name, v) ∈ document) :
    SectionFits entries v := by
  refine (fits.sections name v ⟨entries, known⟩ member).imp id ?_
  rintro ⟨given, rfl⟩
  refine ⟨given, rfl, (keyed.of_mem member).fields, fun key default u listed written => ?_⟩
  exact fits.fields name key default u ⟨entries, known, listed⟩ ⟨given, member, written⟩

theorem Config.ofEntries_ok (keyed : (Value.table document).Keyed)
    (fits : DocumentFits document) :
    ∃ config, Config.ofEntries document = .ok config ∧
      config.sections = ({} : Config).sections.map fun entry =>
        (entry.1, overwritten (fun _ u => u) (givenTo document entry.1) entry.2) := by
  obtain ⟨config, done, seen⟩ := configFields_cover.overlay_ok keyed.once
    (fun _ _ _ known member => fits.sectionFits keyed known member) {}
  refine ⟨config, done, ?_⟩
  rw [seen]
  refine List.map_congr_left fun entry known => ?_
  have defaults : ({} : Config).sections.lookup entry.1 = some entry.2 :=
    (lookup_eq_some_iff_mem configFields_cover.once).mpr known
  rw [givenTo]
  cases document.lookup entry.1 with
  | none => rw [Option.map_none, Option.map_none, Option.getD_none, Option.getD_none,
      overwritten_nil]
  | some v =>
    rw [Option.map_some, Option.map_some, Option.getD_some, Option.getD_some, sectionImage,
      defaults, Option.getD_some]

theorem Config.ofEntries_error (clashes : DocumentClashes document) :
    ∃ fault, Config.ofEntries document = .error fault := by
  rcases clashes with ⟨name, v, ⟨_, known⟩, member, plain⟩ |
    ⟨name, key, default, u, ⟨_, known, listed⟩, ⟨given, member, written⟩, unsuited⟩
  · exact configFields_cover.overlay_error known member (.inl plain) {}
  · exact configFields_cover.overlay_error known member
      (.inr ⟨given, rfl, key, default, u, listed, written, unsuited⟩) {}

/-- A configuration has what the document settles if its sections are those of the defaults
overwritten. -/
theorem has_iff_settles {config : Config} (keyed : (Value.table document).Keyed)
    (seen : config.sections = ({} : Config).sections.map fun entry =>
      (entry.1, overwritten (fun _ u => u) (givenTo document entry.1) entry.2)) :
    config.Has name key v ↔ Settles document name key v := by
  have read (entries : List (String × Value)) :
      (key, v) ∈ overwritten (fun _ u => u) (givenTo document name) entries ↔
        ∃ default, (key, default) ∈ entries ∧
          (Gives document name key v ∨ v = default ∧ ∀ u, ¬ Gives document name key u) := by
    rw [mem_overwritten (givenTo_once keyed name)]
    simp only [mem_givenTo keyed, exists_eq_right']
  rw [Config.Has, seen]
  constructor
  · rintro ⟨fields, member, holds⟩
    obtain ⟨⟨_, entries⟩, known, same⟩ := List.mem_map.mp member
    obtain ⟨rfl, rfl⟩ := Prod.mk.inj same
    obtain ⟨default, listed, given⟩ := (read entries).mp holds
    exact ⟨default, ⟨entries, known, listed⟩, given⟩
  · rintro ⟨default, ⟨entries, known, listed⟩, given⟩
    exact ⟨_, List.mem_map.mpr ⟨_, known, rfl⟩, (read entries).mpr ⟨default, listed, given⟩⟩

/-- Documents that give every field the same values but the default ones overwrite alike. -/
theorem overwritten_congr (keyed : (Value.table document).Keyed)
    (otherKeyed : (Value.table other).Keyed)
    (agree : ∀ name key default, ({} : Config).Has name key default → ∀ v, v ≠ default →
      (Gives document name key v ↔ Gives other name key v)) :
    (({} : Config).sections.map fun entry =>
        (entry.1, overwritten (fun _ u => u) (givenTo document entry.1) entry.2)) =
      ({} : Config).sections.map fun entry =>
        (entry.1, overwritten (fun _ u => u) (givenTo other entry.1) entry.2) := by
  refine List.map_congr_left fun entry known => ?_
  refine congrArg (Prod.mk entry.1) (List.map_congr_left fun field listed => ?_)
  simp only [Option.map_id']
  refine congrArg (Prod.mk field.1)
    (lookup_getD_eq field.2 (givenTo_once keyed _) (givenTo_once otherKeyed _) fun v given => ?_)
  rw [mem_givenTo keyed, mem_givenTo otherKeyed]
  exact agree entry.1 field.1 field.2 ⟨entry.2, known, listed⟩ v given

theorem Config.load_of_parse {bytes : ByteArray} {text : String}
    (decoded : Text.decode bytes = .ok text) (read : Toml.parse? text = some document) :
    Config.load (.ok bytes) =
      match Config.ofEntries document with
      | .ok config => .ok config
      | .error fault => .error (.settings fault) := by
  simp only [Config.load, decoded, Config.ofText, read]
  cases Config.ofEntries document <;> rfl

/-- Loading is all or nothing. A document that fits gives the defaults with what it settles in their
place; in what order it stands, what it says of unknown keys and which defaults it spells out does
not matter. Of a document that clashes nothing is kept. -/
theorem loading_all_or_nothing {bytes : ByteArray} {text : String} (path : String)
    (decoded : Text.decode bytes = .ok text) (read : Toml.parse? text = some document) :
    (DocumentFits document →
      (∃ config, Config.load (.ok bytes) = .ok config ∧
        Config.loadOrDefault path (.ok bytes) = (config, []) ∧
        ∀ name key v, config.Has name key v ↔ Settles document name key v) ∧
      ∀ otherBytes otherText other, Text.decode otherBytes = .ok otherText →
        Toml.parse? otherText = some other → DocumentFits other →
        (∀ name key default, ({} : Config).Has name key default → ∀ v, v ≠ default →
          (Gives document name key v ↔ Gives other name key v)) →
        Config.load (.ok otherBytes) = Config.load (.ok bytes)) ∧
    (DocumentClashes document →
      ∃ fault, Config.load (.ok bytes) = .error fault ∧
        Config.loadOrDefault path (.ok bytes) = ({}, [⟨.warn,
          s!"Config load failed from {Text.quoted path}: {fault.message}. Using defaults."⟩])) := by
  have loaded := Config.load_of_parse decoded read
  have keyed := Toml.parse?_keyed read
  refine ⟨fun fits => ?_, fun clashes => ?_⟩
  · obtain ⟨config, made, seen⟩ := Config.ofEntries_ok keyed fits
    rw [made] at loaded
    refine ⟨⟨config, loaded, ?_, fun _ _ _ => has_iff_settles keyed seen⟩, ?_⟩
    · rw [Config.loadOrDefault, loaded]
    · intro otherBytes otherText other otherDecoded otherRead otherFits agree
      have otherKeyed := Toml.parse?_keyed otherRead
      obtain ⟨otherConfig, otherMade, otherSeen⟩ := Config.ofEntries_ok otherKeyed otherFits
      have same : otherConfig = config := Config.sections_injective <| by
        rw [seen, otherSeen, overwritten_congr keyed otherKeyed agree]
      rw [Config.load_of_parse otherDecoded otherRead, otherMade, loaded, same]
  · obtain ⟨fault, refused⟩ := Config.ofEntries_error clashes
    rw [refused] at loaded
    exact ⟨.settings fault, loaded, by rw [Config.loadOrDefault, loaded]⟩

theorem gives_nil : ¬ Gives [] name key v := by
  simp [Gives]

theorem gives_cons {first : String} {given : List (String × Value)} :
    Gives ((first, .table given) :: document) name key v ↔
      name = first ∧ (key, v) ∈ given ∨ Gives document name key v := by
  simp only [Gives, List.mem_cons, Prod.mk.injEq, Value.table.injEq]
  constructor
  · rintro ⟨_, ⟨rfl, rfl⟩ | member, written⟩
    · exact .inl ⟨rfl, written⟩
    · exact .inr ⟨_, member, written⟩
  · rintro (⟨rfl, written⟩ | ⟨given, member, written⟩)
    · exact ⟨given, .inl ⟨rfl, rfl⟩, written⟩
    · exact ⟨given, .inr member, written⟩

theorem documentFits_nil : DocumentFits [] where
  sections _ _ _ member := nomatch member
  fields _ _ _ _ _ gives := absurd gives gives_nil

/-- A document fits if each of its tables does. -/
theorem DocumentFits.cons {first : String} {given : List (String × Value)}
    (suits : ∀ key default v, ({} : Config).Has first key default → (key, v) ∈ given →
      v.Suits default)
    (fits : DocumentFits document) : DocumentFits ((first, .table given) :: document) where
  sections name v known member := by
    rcases List.mem_cons.mp member with same | later
    · cases same
      exact .inr ⟨given, rfl⟩
    · exact fits.sections name v known later
  fields name key default v has gives := by
    rcases gives_cons.mp gives with ⟨rfl, written⟩ | later
    · exact suits key default v has written
    · exact fits.fields name key default v has later

end Documents

theorem loading_in_another_order :
    (∃ config, config.Has "feed" "title" (.string "T") ∧
      Config.load (.ok "feed = \x7btitle = \"T\", language = \"L\"\x7d".toUTF8) = .ok config ∧
      Config.load (.ok "[crawler]\nname = 1\n[feed]\nlanguage = \"L\"\ntitle = \"T\"".toUTF8) =
        .ok config) ∧
      (Config.loadOrDefault "" (.ok "feed = \x7btitle = 1, language = \"L\"\x7d".toUTF8)).1 =
        {} := by
  have read : Toml.parse? "feed = \x7btitle = \"T\", language = \"L\"\x7d" =
      some [("feed", .table [("title", .string "T"), ("language", .string "L")])] := by cbv
  have readOther :
      Toml.parse? "[crawler]\nname = 1\n[feed]\nlanguage = \"L\"\ntitle = \"T\"" =
        some [("crawler", .table [("name", .integer 1)]),
          ("feed", .table [("language", .string "L"), ("title", .string "T")])] := by cbv
  have readClashing : Toml.parse? "feed = \x7btitle = 1, language = \"L\"\x7d" =
      some [("feed", .table [("title", .integer 1), ("language", .string "L")])] := by cbv
  have unknown : ∀ default, ¬ ({} : Config).Has "crawler" "name" default := by
    simp [Config.Has, Config.sections, CrawlerConfig.entries]
  have title : ({} : Config).Has "feed" "title" (.string ({} : FeedConfig).title) := by
    simp [Config.Has, Config.sections, FeedConfig.entries]
  have texts {given : List (String × Value)} (all : ∀ entry ∈ given, ∃ s, entry.2 = .string s)
      (key : String) (default v : Value) (has : ({} : Config).Has "feed" key default)
      (written : (key, v) ∈ given) : v.Suits default := by
    obtain ⟨s, rfl⟩ := all _ written
    have listed : (key, default) ∈ ({} : FeedConfig).entries := by
      simpa [Config.Has, Config.sections] using has
    have suit : ∀ entry ∈ ({} : FeedConfig).entries, (Value.string s).Suits entry.2 := by
      simp [FeedConfig.entries, Value.Suits]
    exact suit _ listed
  constructor
  · obtain ⟨⟨config, loaded, -, settled⟩, alike⟩ :=
      (loading_all_or_nothing "" (decode_toUTF8 _) read).1
        (.cons (texts (by simp)) documentFits_nil)
    have held : config.Has "feed" "title" (.string "T") :=
      (settled _ _ _).mpr ⟨_, title, .inl (gives_cons.mpr (.inl ⟨rfl, List.mem_cons_self⟩))⟩
    refine ⟨config, held, loaded, loaded ▸ ?_⟩
    refine alike _ _ _ (decode_toUTF8 _) readOther (.cons ?_ (.cons (texts (by simp))
      documentFits_nil)) ?_
    · intro key default v has member
      obtain ⟨rfl, rfl⟩ := Prod.mk.inj (List.mem_singleton.mp member)
      exact absurd has (unknown default)
    · intro name key default has v _
      simp only [gives_cons, gives_nil, List.mem_cons, Prod.mk.injEq, List.not_mem_nil, or_false]
      constructor
      · rintro ⟨rfl, member⟩
        exact .inr ⟨rfl, member.symm⟩
      · rintro (⟨rfl, rfl, rfl⟩ | ⟨rfl, member⟩)
        · exact absurd has (unknown default)
        · exact ⟨rfl, member.symm⟩
  · have unfit : ¬ (Value.integer 1).Suits (.string ({} : FeedConfig).title) := by
      simp [Value.Suits]
    obtain ⟨fault, -, fallen⟩ := (loading_all_or_nothing "" (decode_toUTF8 _) readClashing).2 <|
      .inr ⟨"feed", "title", _, .integer 1, title, ⟨_, List.mem_cons_self, List.mem_cons_self⟩,
        unfit⟩
    rw [fallen]

/-- A date in place of a section is no failure: the section is left as it is by default. -/
theorem date_as_section_loads :
    Toml.parse? "feed = 1979-05-27T07:32:00Z" = some [("feed", .dateTime)] ∧
      Config.load (.ok "feed = 1979-05-27T07:32:00Z".toUTF8) = .ok {} := by
  have read : Toml.parse? "feed = 1979-05-27T07:32:00Z" = some [("feed", .dateTime)] := by cbv
  refine ⟨read, ?_⟩
  rw [Config.load_of_parse (decode_toUTF8 _) read]
  rfl

end IssueFeed
