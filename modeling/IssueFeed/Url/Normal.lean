import IssueFeed.Text.CodeRange
import IssueFeed.Url.NormalTable

/-!
Canonical composition: characters are taken apart, marks put into the order of their classes, and
what composes is composed. Hangul syllables compose by a rule, all else by a table.
-/
namespace IssueFeed.Url

open Text (number? splitOn isXmlBlank character?)

/-- A composed character with its two parts. Blanks and control characters are part of none. -/
structure Composition where
  whole : Nat
  first : Nat
  second : Nat
  printed : 32 < first ∧ 32 < second

def compositions : Array Composition :=
  ((splitOn isXmlBlank compositionPairs.toList).filterMap fun piece =>
    match (splitOn (· == '.') piece).map (number? 16) with
    | [some whole, some first, some second] =>
      if printed : 32 < first ∧ 32 < second then some ⟨whole, first, second, printed⟩ else none
    | _ => none).toArray

/-- A table of classes, each a name with a colon and then its ranges. -/
def classesOf (table : String) : List (List Char × Array (Nat × Nat)) :=
  ((splitOn isXmlBlank table.toList).filter (!·.isEmpty)).foldl (fun classes piece =>
    if piece.getLast? = some ':' then (piece.dropLast, #[]) :: classes
    else
      match classes with
      | (name, ranges) :: others =>
        (name, ranges ++ Text.rangesOfText (String.ofList piece)) :: others
      | [] => []) []

def classOf? (classes : List (List Char × Array (Nat × Nat))) (c : Char) : Option (List Char) :=
  (classes.find? fun entry => Text.inRanges entry.2 c).map (·.1)

def combiningClassRanges : List (List Char × Array (Nat × Nat)) := classesOf combiningClasses

/-- The combining class; it is zero for characters that are no marks, and for some marks. -/
def combiningClass (c : Char) : Nat :=
  if c.toNat < 128 then 0
  else (((classOf? combiningClassRanges c).bind (number? 10 ·)).getD 0)

/-- A Hangul syllable's leading consonant, vowel and trailing consonant, or the parts of any other
composed character, taken apart `depth` times at most. -/
def decompose (depth : Nat) (c : Char) : List Char :=
  let n := c.toNat
  if 0xAC00 ≤ n ∧ n ≤ 0xD7A3 then
    let i := n - 0xAC00
    let trailing := i % 28
    [Char.ofNat (0x1100 + i / 588), Char.ofNat (0x1161 + i % 588 / 28)] ++
      if trailing = 0 then [] else [Char.ofNat (0x11A7 + trailing)]
  else
    match depth with
    | 0 => [c]
    | depth + 1 =>
      match compositions.find? (·.whole == n) with
      | some pair => decompose depth (Char.ofNat pair.first) ++ [Char.ofNat pair.second]
      | none => [c]

def composePair? (a b : Char) : Option Char :=
  let m := a.toNat
  let n := b.toNat
  if 0x1100 ≤ m ∧ m ≤ 0x1112 ∧ 0x1161 ≤ n ∧ n ≤ 0x1175 then
    character? (0xAC00 + ((m - 0x1100) * 21 + (n - 0x1161)) * 28)
  else if 0xAC00 ≤ m ∧ m ≤ 0xD7A3 ∧ (m - 0xAC00) % 28 = 0 ∧ 0x11A8 ≤ n ∧ n ≤ 0x11C2 then
    character? (m + (n - 0x11A7))
  else (compositions.find? fun pair => pair.first == m && pair.second == n).bind
    fun pair => character? pair.whole

/-- Puts each run of marks into the order of their classes; `marks` is the run so far, from its
end. -/
def orderMarks (marks : List Char) : List Char → List Char
  | [] => sorted
  | c :: rest =>
    if combiningClass c = 0 then sorted ++ c :: orderMarks [] rest else orderMarks (c :: marks) rest
where
  sorted := marks.reverse.mergeSort fun a b => combiningClass a ≤ combiningClass b

/-- Composes with a starter what follows it, as far as no mark between them stands in the way;
`marks` are those that stay, from the last. -/
def composeFrom (starter : Char) (marks : List Char) : List Char → List Char
  | [] => starter :: marks.reverse
  | c :: rest =>
    let free :=
      match marks with
      | [] => true
      | last :: _ => combiningClass last < combiningClass c
    match if free then composePair? starter c else none with
    | some whole => composeFrom whole marks rest
    | none =>
      if combiningClass c = 0 then starter :: marks.reverse ++ composeFrom c [] rest
      else composeFrom starter (c :: marks) rest

/-- Marks before the first starter stay as they are. -/
def composeAll (cs : List Char) : List Char :=
  let leading := cs.takeWhile (combiningClass · != 0)
  match cs.drop leading.length with
  | [] => leading
  | starter :: rest => leading ++ composeFrom starter [] rest

def normalize (cs : List Char) : List Char :=
  if cs.all (·.toNat < 128) then cs
  else
    let apart := cs.flatMap fun c => if c.toNat < 128 then [c] else decompose 8 c
    composeAll (orderMarks [] apart)

end IssueFeed.Url
