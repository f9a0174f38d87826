import IssueFeed.Text.Utf8
import IssueFeed.Url.LabelTable
import IssueFeed.Url.MappingTable
import IssueFeed.Url.Normal
import IssueFeed.Url.Punycode

/-!
Domain names in ASCII. Characters are mapped and composed, labels checked, and labels beyond ASCII
written in Punycode.
-/
namespace IssueFeed.Url

open Text (number? splitOn isXmlBlank character? dropStart? rangesOfText inRanges)

/-- A row of the mapping table: the characters from `first` to `last`, by steps, and what takes the
place of `first`; with a single replacement, that of the others lies as far from it. -/
structure Mapping where
  first : Nat
  last : Nat
  step : Nat
  replacement : List Nat

def mappingOfPiece? (piece : List Char) : Option Mapping :=
  match splitOn (· == '=') piece with
  | [source, target] =>
    let replacement := (splitOn (· == '.') target).filterMap (number? 16)
    match splitOn (· == '-') source with
    | [a, b] =>
      match number? 16 a, number? 16 b with
      | some first, some last => some ⟨first, last, 1, replacement⟩
      | _, _ => none
    | _ =>
      match splitOn (· == '+') source with
      | [a, b] =>
        match number? 16 a, number? 16 b with
        | some first, some last => some ⟨first, last, 2, replacement⟩
        | _, _ => none
      | _ => (number? 16 source).map fun n => ⟨n, n, 1, replacement⟩
  | _ => none

def mappings : Array Mapping :=
  ((splitOn isXmlBlank mappedRanges.toList).filterMap mappingOfPiece?).toArray

def validTable : Array (Nat × Nat) := rangesOfText validRanges

def ignoredTable : Array (Nat × Nat) := rangesOfText ignoredRanges

def isValidCharacter (c : Char) : Bool :=
  if c.toNat < 128 then !('A' ≤ c && c ≤ 'Z') else inRanges validTable c

/-- What a character of a domain name becomes, if it may occur. -/
def mapCharacter? (c : Char) : Option (List Char) :=
  if c.toNat < 128 then some [Text.lower c]
  else if inRanges validTable c then some [c]
  else if inRanges ignoredTable c then some []
  else
    let n := c.toNat
    (mappings.find? fun m => m.first ≤ n && n ≤ m.last && (n - m.first) % m.step == 0).map fun m =>
      match m.replacement with
      | [one] => [Char.ofNat (one + (n - m.first))]
      | several => several.map Char.ofNat

def mapAll? : List Char → Option (List Char)
  | [] => some []
  | c :: rest =>
    match mapCharacter? c, mapAll? rest with
    | some front, some back => some (front ++ back)
    | _, _ => none

/-! Properties of characters. -/

def markTable : Array (Nat × Nat) := rangesOfText markRanges

def isMark (c : Char) : Bool := inRanges markTable c

def directionTable : List (List Char × Array (Nat × Nat)) := classesOf directionClasses

def joiningTable : List (List Char × Array (Nat × Nat)) := classesOf joiningClasses

def direction (c : Char) : String :=
  ((classOf? directionTable c).map String.ofList).getD "L"

def joiningType (c : Char) : String :=
  ((classOf? joiningTable c).map String.ofList).getD "U"

/-! Labels. -/

/-- Whether a zero-width non-joiner may stand between what is before it, from its end, and what is
after: cursive letters that it keeps from joining. -/
def separatesLetters (before after : List Char) : Bool :=
  let isTransparent (c : Char) : Bool := joiningType c == "T"
  match before.dropWhile isTransparent, after.dropWhile isTransparent with
  | b :: _, a :: _ =>
    (joiningType b == "L" || joiningType b == "D") && (joiningType a == "R" || joiningType a == "D")
  | _, _ => false

/-- Whether the joiners of a label stand where they may; `before` is what has been passed, from its
end. -/
def joinersFit (before : List Char) : List Char → Bool
  | [] => true
  | c :: rest =>
    let afterVirama :=
      match before with
      | b :: _ => combiningClass b == 9
      | [] => false
    (if c == '\u200C' then afterVirama || separatesLetters before rest
      else if c == '\u200D' then afterVirama else true) && joinersFit (c :: before) rest

/-- Whether the directions within a label agree, in a name that has letters from right to left. -/
def directionsFit (label : List Char) : Bool :=
  let classes := label.map direction
  let ending := (classes.reverse.dropWhile (· == "NSM")).headD ""
  let rightward := ["L", "EN", "ES", "CS", "ET", "ON", "BN", "NSM"]
  let leftward := ["R", "AL", "AN", "EN", "ES", "CS", "ET", "ON", "BN", "NSM"]
  match classes with
  | [] => true
  | first :: _ =>
    if first == "L" then classes.all rightward.contains && (ending == "L" || ending == "EN")
    else if first == "R" || first == "AL" then
      classes.all leftward.contains && ["R", "AL", "EN", "AN"].contains ending &&
        !(classes.contains "EN" && classes.contains "AN")
    else false

def isRightToLeft (c : Char) : Bool :=
  ["R", "AL", "AN"].contains (direction c)

def isValidLabel (label : List Char) : Bool :=
  (match label with
    | [] => true
    | c :: _ => !isMark c) &&
  label.all isValidCharacter && joinersFit [] label

/-- The most characters of a label that Punycode writes, and of a written one that it reads. -/
def longestLabel : Nat := 1000

/-- A label with its Punycode read, checked. -/
def readLabel? (label : List Char) : Option (List Char) :=
  match dropStart? ['x', 'n', '-', '-'] label with
  | some written =>
    if 2 * longestLabel < written.length then none
    else
      match Punycode.decode written with
      | none => none
      | some decoded =>
        if decoded.all (·.toNat < 128) || normalize decoded ≠ decoded ||
            (dropStart? ['x', 'n', '-', '-'] decoded).isSome || !isValidLabel decoded then none
        else some decoded
  | none =>
    if label.all (·.toNat < 128) then some label
    else if isValidLabel label && label.length ≤ longestLabel then some label else none

def writeLabel (label : List Char) : List Char :=
  if label.all (·.toNat < 128) then label
  else ['x', 'n', '-', '-'] ++ Punycode.encode label

def isForbidden (c : Char) : Bool :=
  c.toNat ≤ 32 || c.toNat == 127 || "%#/:<>?@[\\]^|".toList.contains c

def joinLabels : List (List Char) → List Char
  | [] => []
  | [label] => label
  | label :: rest => label ++ '.' :: joinLabels rest

/-- The name in ASCII, if it is a domain name. -/
def domainOf? (name : List Char) : Option (List Char) :=
  match mapAll? name with
  | none => none
  | some mapped =>
    match (splitOn (· == '.') (normalize mapped)).mapM readLabel? with
    | none => none
    | some labels =>
      if labels.any (·.any isRightToLeft) && !labels.all directionsFit then none
      else
        let written := joinLabels (labels.map writeLabel)
        if written.any isForbidden then none else some written

end IssueFeed.Url
