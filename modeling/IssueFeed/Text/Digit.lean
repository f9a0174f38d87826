/-!
Digits: their values, and numbers written in decimal or hexadecimal.
-/
namespace IssueFeed.Text

def isDigit (c : Char) : Bool :=
  '0' ≤ c && c ≤ '9'

def isLetter (c : Char) : Bool :=
  ('a' ≤ c && c ≤ 'z') || ('A' ≤ c && c ≤ 'Z')

/-- The small letter of an ASCII capital; any other character stays. -/
def lower (c : Char) : Char :=
  if 'A' ≤ c && c ≤ 'Z' then Char.ofNat (c.toNat + 32) else c

/-- The value of a digit in some base up to 36. -/
def digitValue (c : Char) : Option Nat :=
  if isDigit c then some (c.toNat - '0'.toNat)
  else if isLetter c then some ((lower c).toNat - 'a'.toNat + 10)
  else none

def isDigitOf (base : Nat) (c : Char) : Bool :=
  match digitValue c with
  | some v => v < base
  | none => false

/-- The number that a list of digits writes; the empty list and a foreign character give none. -/
def number? (base : Nat) (cs : List Char) : Option Nat :=
  if cs.isEmpty then none
  else cs.foldl (fun total c =>
    match total, digitValue c with
    | some n, some v => if v < base then some (n * base + v) else none
    | _, _ => none) (some 0)

def character? (n : Nat) : Option Char :=
  if h : n.isValidChar then some (Char.ofNatAux n h) else none

/-- A number with at least `width` digits, filled up with `fill` on the left. -/
def padded (fill : Char) (width n : Nat) : List Char :=
  let digits := Nat.toDigits 10 n
  List.replicate (width - digits.length) fill ++ digits

def decimal (n : Nat) : List Char :=
  Nat.toDigits 10 n

def signedDecimal (z : Int) : List Char :=
  if z < 0 then '-' :: decimal z.natAbs else decimal z.natAbs

def hexadecimal (n : Nat) : List Char :=
  Nat.toDigits 16 n

end IssueFeed.Text
