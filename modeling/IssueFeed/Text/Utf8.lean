/-!
Reading bytes as UTF-8, strictly, with the place of the first fault, and leniently, with a
replacement character for each faulty sequence. A faulty sequence is as long as it could still have
begun a character.
-/
namespace IssueFeed.Text

inductive Utf8Fault where
  | invalid (width index : Nat)
  | incomplete (index : Nat)
  deriving DecidableEq

def Utf8Fault.message : Utf8Fault → String
  | .invalid width index =>
    s!"invalid utf-8 sequence of {width} bytes from index {index}"
  | .incomplete index => s!"incomplete utf-8 byte sequence from index {index}"

/-- What stands at the head of some bytes. -/
inductive Utf8Head where
  | character (c : Char) (width : Nat)
  | invalid (width : Nat)
  | incomplete

/-- How many bytes follow a leading byte, and the bounds of the first of them. -/
def leadingByte (b : UInt8) : Option (Nat × UInt8 × UInt8) :=
  if 0xC2 ≤ b && b ≤ 0xDF then some (1, 0x80, 0xBF)
  else if b == 0xE0 then some (2, 0xA0, 0xBF)
  else if b == 0xED then some (2, 0x80, 0x9F)
  else if 0xE1 ≤ b && b ≤ 0xEF then some (2, 0x80, 0xBF)
  else if b == 0xF0 then some (3, 0x90, 0xBF)
  else if 0xF1 ≤ b && b ≤ 0xF3 then some (3, 0x80, 0xBF)
  else if b == 0xF4 then some (3, 0x80, 0x8F)
  else none

/-- Reads `count` further bytes, the first of them within bounds, onto the value so far. -/
def continuation (count : Nat) (lo hi : UInt8) (value width : Nat) : List UInt8 → Utf8Head
  | [] => if count == 0 then .character (Char.ofNat value) width else .incomplete
  | b :: rest =>
    match count with
    | 0 => .character (Char.ofNat value) width
    | count + 1 =>
      if lo ≤ b && b ≤ hi then
        continuation count 0x80 0xBF (value * 64 + (b.toNat - 0x80)) (width + 1) rest
      else .invalid width

def utf8Head (b : UInt8) (rest : List UInt8) : Utf8Head :=
  if b < 0x80 then .character (Char.ofNat b.toNat) 1
  else
    match leadingByte b with
    | none => .invalid 1
    | some (count, lo, hi) =>
      continuation count lo hi (b.toNat % Nat.pow 2 (6 - count)) 1 rest

/-- The first fault of some bytes; `index` counts the bytes before them, `skip` those of them that
belong to a character already read. -/
def firstFault (index skip : Nat) : List UInt8 → Option Utf8Fault
  | [] => none
  | b :: rest =>
    match skip with
    | skip + 1 => firstFault (index + 1) skip rest
    | 0 =>
      match utf8Head b rest with
      | .character _ width => firstFault (index + 1) (width - 1) rest
      | .invalid width => some (.invalid width index)
      | .incomplete => some (.incomplete index)

/-- The text, each faulty sequence replaced by one U+FFFD. -/
def lenientFrom (skip : Nat) : List UInt8 → List Char
  | [] => []
  | b :: rest =>
    match skip with
    | skip + 1 => lenientFrom skip rest
    | 0 =>
      match utf8Head b rest with
      | .character c width => c :: lenientFrom (width - 1) rest
      | .invalid width => '\uFFFD' :: lenientFrom (width - 1) rest
      | .incomplete => ['\uFFFD']

def decode (bytes : ByteArray) : Except Utf8Fault String :=
  match String.fromUTF8? bytes with
  | some text => .ok text
  | none => .error ((firstFault 0 0 bytes.data.toList).getD (.incomplete bytes.size))

/-- The text that some bytes encode, faulty sequences replaced. -/
def decodeLenient (bytes : ByteArray) : String :=
  match String.fromUTF8? bytes with
  | some text => text
  | none => String.ofList (lenientFrom 0 bytes.data.toList)

end IssueFeed.Text
