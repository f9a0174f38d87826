import IssueFeed.Config.Basic
import IssueFeed.Failure
import IssueFeed.Log
import IssueFeed.Text.Utf8
import IssueFeed.Toml.Document

/-!
Reading a configuration. A document gives some of the fields and the defaults give the others; one
field of a wrong type makes the whole document useless.
-/
namespace IssueFeed

open Toml (Value)

inductive SettingsFault where
  | notToml
  | wrongType (found expected : String)
  | wrongValue (found expected : String)
  deriving DecidableEq, Repr

def SettingsFault.message : SettingsFault → String
  | .notToml => "invalid TOML"
  | .wrongType found expected => s!"invalid type: {found}, expected {expected}"
  | .wrongValue found expected => s!"invalid value: {found}, expected {expected}"

def textOf (expected : String) : Value → Except SettingsFault String
  | .string s => .ok s
  | v => .error (.wrongType v.described expected)

def naturalOf : Value → Except SettingsFault Nat
  | .integer z =>
    if 0 ≤ z then .ok z.toNat else .error (.wrongValue (Value.integer z).described "u64")
  | v => .error (.wrongType v.described "u64")

/-- A field of a section: its key, and how a value changes the section. -/
structure Field (α : Type) where
  key : String
  set : α → Value → Except SettingsFault α

def textField {α : Type} (key : String) (set : α → String → α) : Field α :=
  ⟨key, fun part v => (textOf "a string" v).map (set part)⟩

def crawlerFields : List (Field CrawlerConfig) :=
  [ textField "user_agent" fun c s => { c with userAgent := s },
    ⟨"timeout_secs", fun c v => (naturalOf v).map fun n => { c with timeoutSeconds := n }⟩]

def sourceFields : List (Field SourceConfig) :=
  [ textField "page_url" fun c s => { c with pageUrl := s },
    textField "origin" fun c s => { c with origin := s },
    textField "topic_marker" fun c s => { c with topicMarker := s },
    textField "document_extension" fun c s => { c with documentExtension := s }]

def feedFields : List (Field FeedConfig) :=
  [ ⟨"output_path", fun c v => (textOf "path string" v).map fun s => { c with outputPath := s }⟩,
    textField "title" fun c s => { c with title := s },
    textField "description" fun c s => { c with description := s },
    textField "copyright_holder" fun c s => { c with copyrightHolder := s },
    textField "language" fun c s => { c with language := s },
    textField "item_title" fun c s => { c with itemTitle := s },
    textField "image_title" fun c s => { c with imageTitle := s },
    textField "date_format" fun c s => { c with dateFormat := s }]

/-- A section overwritten by entries; those of unknown keys do not count. -/
def overlay {α : Type} (fields : List (Field α)) (part : α) :
    List (String × Value) → Except SettingsFault α
  | [] => .ok part
  | (key, v) :: rest =>
    match fields.find? (·.key == key) with
    | none => overlay fields part rest
    | some field =>
      match field.set part v with
      | .ok part => overlay fields part rest
      | .error fault => .error fault

/-- A section overwritten by elements in the order of its fields; more of them do not count. -/
def overlayInOrder {α : Type} (part : α) :
    List (Field α) → List Value → Except SettingsFault α
  | field :: fields, v :: rest =>
    match field.set part v with
    | .ok part => overlayInOrder part fields rest
    | .error fault => .error fault
  | _, _ => .ok part

/-- A section from its value. An array gives its fields in order, and a date gives none. -/
def sectionOf {α : Type} (name : String) (fields : List (Field α)) (defaults : α) :
    Value → Except SettingsFault α
  | .table entries => overlay fields defaults entries
  | .array elements => overlayInOrder defaults fields elements
  | .dateTime => .ok defaults
  | v => .error (.wrongType v.described name)

def configFields : List (Field Config) :=
  [ ⟨"crawler", fun c v =>
      (sectionOf "struct CrawlerConfig" crawlerFields {} v).map fun s => { c with crawler := s }⟩,
    ⟨"source", fun c v =>
      (sectionOf "struct SourceConfig" sourceFields {} v).map fun s => { c with source := s }⟩,
    ⟨"feed", fun c v =>
      (sectionOf "struct FeedConfig" feedFields {} v).map fun s => { c with feed := s }⟩]

def Config.ofEntries (entries : List (String × Value)) : Except SettingsFault Config :=
  overlay configFields {} entries

def Config.ofText (text : String) : Except SettingsFault Config :=
  match Toml.parse? text with
  | some entries => Config.ofEntries entries
  | none => .error .notToml

inductive LoadFault where
  | file (fault : FileFault)
  | settings (fault : SettingsFault)
  deriving DecidableEq, Repr

def LoadFault.message : LoadFault → String
  | .file fault => (Failure.io fault).message
  | .settings fault => s!"TOML parse error: {fault.message}"

def Config.load (stored : Except FileFault ByteArray) : Except LoadFault Config :=
  match stored with
  | .error fault => .error (.file fault)
  | .ok bytes =>
    match Text.decode bytes with
    | .error _ => .error (.file .notText)
    | .ok text =>
      match Config.ofText text with
      | .error fault => .error (.settings fault)
      | .ok config => .ok config

/-- The configuration in what reading a file gave, or the defaults, with a warning. -/
def Config.loadOrDefault (path : String) (stored : Except FileFault ByteArray) : Config × Log :=
  match Config.load stored with
  | .ok config => (config, [])
  | .error fault =>
    ({}, [⟨.warn,
      s!"Config load failed from {Text.quoted path}: {fault.message}. Using defaults."⟩])

end IssueFeed
