import IssueFeed.Text.Digit

/-!
Decimal fractions as binary ones of double precision, and back to the shortest decimal that stands
for the same binary fraction.
-/
namespace IssueFeed.Decimal

/-- A positive binary fraction of double precision, significand · 2 ^ exponent, or one too large. -/
inductive Binary where
  | finite (significand : Nat) (exponent : Int)
  | infinite
  deriving DecidableEq, Repr

def pow2 (k : Int) : Nat := Nat.pow 2 k.toNat

def pow10 (k : Int) : Nat := Nat.pow 10 k.toNat

/-- A quotient rounded to a whole number, halves to the even one. -/
def roundDiv (num den : Nat) : Nat :=
  let floor := num / den
  let rest := 2 * (num % den)
  if rest < den || (rest == den && floor % 2 == 0) then floor else floor + 1

def leastExponent : Int := -1074

/-- The binary fraction nearest to `digits` · 10 ^ `exponent`. -/
def nearest (digits : Nat) (exponent : Int) : Binary :=
  let size : Int := (Text.decimal digits).length + exponent
  if digits = 0 || size < -400 then .finite 0 leastExponent
  else if 400 < size then .infinite
  else
    let num := digits * pow10 exponent
    let den := pow10 (-exponent)
    let estimate : Int := (Nat.log2 num : Int) - Nat.log2 den - 52
    let tooLarge : Bool := num * pow2 (-estimate) < den * pow2 estimate * pow2 52
    let k := max leastExponent (if tooLarge then estimate - 1 else estimate)
    let m := roundDiv (num * pow2 (-k)) (den * pow2 k)
    let (m, k) := if m = pow2 53 then (pow2 52, k + 1) else (m, k)
    if 971 < k then .infinite else .finite m k

def leadingExponent (num den : Nat) : Int :=
  if den ≤ num then ((Text.decimal (num / den)).length : Int) - 1
  else
    let steps := ((List.range 400).find? (fun (j : Nat) => den ≤ num * pow10 (j + 1))).getD 0
    0 - 1 - (steps : Int)

/-- Whether d · 10 ^ q stands for the binary fraction m · 2 ^ k, and how far it lies from it, in
units that depend on q and k only. -/
def hits (m : Nat) (k q : Int) (d : Nat) : Bool × Nat :=
  let scale (quarters : Nat) : Nat := quarters * pow2 (k - 2) * pow10 (-q)
  let point := d * pow10 q * pow2 (2 - k)
  let below := if m = pow2 52 && leastExponent < k then 1 else 2
  let low := scale (4 * m - below)
  let high := scale (4 * m + 2)
  let middle := scale (4 * m)
  let inside := if m % 2 = 0 then low ≤ point && point ≤ high else low < point && point < high
  (inside, if point ≤ middle then middle - point else point - middle)

/-- The digits and exponent of the shortest decimal that stands for m · 2 ^ k, m not being zero. Of
two that are as short, the nearer; of two as near, the larger. -/
def shortest (m : Nat) (k : Int) : Nat × Int :=
  let p := leadingExponent (m * pow2 k) (pow2 (-k))
  let found := (List.range 17).findSome? fun (n : Nat) =>
    let q := p - n
    let d := m * pow2 k * pow10 (-q) / (pow2 (-k) * pow10 q)
    let (lower, before) := hits m k q d
    let (upper, after) := hits m k q (d + 1)
    if lower && (!upper || before < after) then some (d, q)
    else if upper then some (d + 1, q)
    else none
  found.getD (m, k)

/-- digits · 10 ^ exponent written without an exponent, with a point in it. -/
def positional (digits : Nat) (exponent : Int) : List Char :=
  let text := Text.decimal digits
  if 0 ≤ exponent then text ++ List.replicate exponent.toNat '0' ++ ['.', '0']
  else
    let places := (-exponent).toNat
    let text := List.replicate (places + 1 - text.length) '0' ++ text
    let fraction := text.drop (text.length - places)
    let kept := (fraction.reverse.dropWhile (· == '0')).reverse
    text.take (text.length - places) ++ '.' :: (if kept.isEmpty then ['0'] else kept)

end IssueFeed.Decimal
