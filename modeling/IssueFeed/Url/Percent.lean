import IssueFeed.Text.Digit

/-!
Percent signs: characters that may not stand in a part of an address are written as the bytes of
their UTF-8 form, each a percent sign and two digits.
-/
namespace IssueFeed.Url

def capitalHex (n : Nat) : Char :=
  if n < 10 then Char.ofNat (48 + n) else Char.ofNat (55 + n)

def percentByte (b : UInt8) : List Char :=
  ['%', capitalHex (b.toNat / 16), capitalHex (b.toNat % 16)]

/-- The text with each character of the class, and each beyond ASCII, written as bytes. -/
def percentEncode (isEscaped : Char → Bool) (text : List Char) : List Char :=
  text.flatMap fun c =>
    if 127 ≤ c.toNat || isEscaped c then (String.utf8EncodeChar c).flatMap percentByte else [c]

/-- The bytes of a text in which a percent sign and two digits write one byte. -/
def percentDecode : List Char → List UInt8
  | '%' :: a :: b :: rest =>
    match Text.number? 16 [a, b] with
    | some n => UInt8.ofNat n :: percentDecode rest
    | none => 37 :: percentDecode (a :: b :: rest)
  | c :: rest => String.utf8EncodeChar c ++ percentDecode rest
  | [] => []

def isControl (c : Char) : Bool := c.toNat < 32

def escapedInFragment (c : Char) : Bool :=
  isControl c || " \"<>\x60".toList.contains c

def escapedInPath (c : Char) : Bool :=
  escapedInFragment c || "#?\x7b\x7d".toList.contains c

def escapedInQuery (isSpecial : Bool) (c : Char) : Bool :=
  isControl c || " \"#<>".toList.contains c || (isSpecial && c == '\'')

def escapedInUser (c : Char) : Bool :=
  escapedInPath c || "/:;=@[\\]^|".toList.contains c

end IssueFeed.Url
