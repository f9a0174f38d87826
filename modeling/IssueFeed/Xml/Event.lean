import IssueFeed.Xml.Attribute
import IssueFeed.Xml.Escape
import IssueFeed.Xml.Token

/-!
A document as a reader meets it: elements that start and finish, and the texts between. Tags are
paired here, namespaces followed, comments passed over, blanks at the edges of escaped text dropped
and neighbouring texts joined. Verbatim text keeps its blanks. A fault ends the events, so what
stands before it can still be read.
-/
namespace IssueFeed.Xml

open Text (isXmlBlank dropEndWhile)

/-- The namespaces in force, the innermost first, as prefixes and names. -/
abbrev Scope := List (List Char × List Char)

structure Tag where
  name : List Char
  attributes : Attributes
  deriving DecidableEq, Repr

/-- The name of a tag ends at the first blank. -/
def Tag.ofText (content : List Char) : Tag :=
  ⟨content.takeWhile (!isXmlBlank ·), attributesOf (content.dropWhile (!isXmlBlank ·))⟩

def localName (name : List Char) : List Char :=
  match name.dropWhile (· != ':') with
  | _ :: after => after
  | [] => name

/-- What stands before the colon of a name, if one does. -/
def prefixOf? (name : List Char) : Option (List Char) :=
  if name.contains ':' then some (name.takeWhile (· != ':')) else none

def xmlNamespace : List Char := "http://www.w3.org/XML/1998/namespace".toList

def xmlnsNamespace : List Char := "http://www.w3.org/2000/xmlns/".toList

def instanceNamespace : List Char := "http://www.w3.org/2001/XMLSchema-instance".toList

/-- The namespaces in force within an element with these attributes, unless they bind a reserved
name. -/
def Scope.extend? (scope : Scope) : List Attribute → Option Scope
  | [] => some scope
  | found :: rest =>
    match prefixOf? found.key, localName found.key with
    | some ['x', 'm', 'l', 'n', 's'], bound =>
      if bound = "xml".toList then
        if found.value = xmlNamespace then Scope.extend? scope rest else none
      else if bound = "xmlns".toList then none
      else if found.value = xmlNamespace ∨ found.value = xmlnsNamespace then none
      else Scope.extend? ((bound, found.value) :: scope) rest
    | _, _ => Scope.extend? scope rest

/-- Whether one of the attributes declares the element to have no value. -/
def declaresNil (scope : Scope) (found : Attributes) : Bool :=
  found.sound.any fun a =>
    match prefixOf? a.key with
    | some bound =>
      localName a.key == "nil".toList && scope.lookup bound == some instanceNamespace &&
        (a.value == "true".toList || a.value == "1".toList)
    | none => false

inductive Fault where
  | markup (what : MarkupFault)
  | strayClosing (name : List Char)
  | reservedNamespace
  deriving DecidableEq, Repr

inductive Stretch where
  | escaped (content : List Char)
  | verbatim (content : List Char)
  deriving DecidableEq, Repr

def Stretch.value? : Stretch → Option (List Char)
  | .escaped content => unescape content
  | .verbatim content => some content

def Stretch.trimEnd : Stretch → Stretch
  | .escaped content => .escaped (dropEndWhile isXmlBlank content)
  | .verbatim content => .verbatim content

/-- The value of a text given as stretches; a reference without meaning leaves it without value. -/
def textValue? : List Stretch → Option (List Char)
  | [] => some []
  | s :: rest =>
    match s.value?, textValue? rest with
    | some front, some back => some (front ++ back)
    | _, _ => none

inductive PartKind where
  | start (tag : Tag)
  | finish
  | stretch (s : Stretch)
  | documentType
  | fault (what : Fault)
  deriving DecidableEq, Repr

/-- A part of a document with the namespaces in force right after it is read. -/
structure Part where
  kind : PartKind
  scope : Scope
  deriving DecidableEq, Repr

structure Frame where
  name : List Char
  scope : Scope
  deriving DecidableEq, Repr

def scopeOf : List Frame → Scope
  | [] => []
  | frame :: _ => frame.scope

/-- The parts of a document. `trimming` tells that no text has been met since the last tag. -/
def parts (elements : List Frame) (trimming : Bool) : List Token → List Part
  | [] => []
  | .text content :: rest =>
    let kept := if trimming then content.dropWhile isXmlBlank else content
    if trimming && kept.isEmpty then parts elements true rest
    else ⟨.stretch (.escaped kept), scopeOf elements⟩ :: parts elements false rest
  | .verbatim content :: rest =>
    ⟨.stretch (.verbatim content), scopeOf elements⟩ :: parts elements false rest
  | .documentType :: rest => ⟨.documentType, scopeOf elements⟩ :: parts elements true rest
  | .ignored :: rest => parts elements trimming rest
  | .opening content selfClosing :: rest =>
    let tag := Tag.ofText content
    match (scopeOf elements).extend? tag.attributes.sound with
    | none => [⟨.fault .reservedNamespace, scopeOf elements⟩]
    | some inner =>
      if selfClosing then
        ⟨.start tag, inner⟩ :: ⟨.finish, inner⟩ :: parts elements true rest
      else ⟨.start tag, inner⟩ :: parts (⟨tag.name, inner⟩ :: elements) true rest
  | .closing name :: rest =>
    match elements with
    | [] => [⟨.fault (.strayClosing name), []⟩]
    | frame :: outer =>
      if frame.name = name then ⟨.finish, frame.scope⟩ :: parts outer true rest
      else [⟨.fault (.strayClosing name), frame.scope⟩]
  | .fault what :: _ => [⟨.fault (.markup what), scopeOf elements⟩]

/-- What a reader meets. The scope of a start and of a finish is the one in force one part further
on, which is as far as the reader has looked. -/
inductive Event where
  | start (tag : Tag) (scope : Scope)
  | finish (scope : Scope)
  | text (stretches : List Stretch)
  | fault (what : Fault)
  deriving DecidableEq, Repr

/-- A stretch put before events: it joins a text at their head that belongs to it. -/
def joinStretch (s : Stretch) (joins : Bool) (others : List Event) : List Event :=
  if joins then
    match others with
    | .text stretches :: after => .text (s :: stretches) :: after
    | _ => .text [s] :: others
  else .text [s.trimEnd] :: others

def Part.isStretch (part : Part) : Bool :=
  match part.kind with
  | .stretch _ => true
  | _ => false

def eventsOfParts : List Part → List Event
  | [] => []
  | part :: rest =>
    let scope := (rest.head?.map (·.scope)).getD part.scope
    match part.kind with
    | .start tag => .start tag scope :: eventsOfParts rest
    | .finish => .finish scope :: eventsOfParts rest
    | .documentType => eventsOfParts rest
    | .fault what => [.fault what]
    | .stretch s => joinStretch s (rest.head?.any Part.isStretch) (eventsOfParts rest)

def events (document : List Char) : List Event :=
  eventsOfParts (parts [] true (tokens document))

end IssueFeed.Xml
