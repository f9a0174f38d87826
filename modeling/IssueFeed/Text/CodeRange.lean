import IssueFeed.Text.Blank
import IssueFeed.Text.Digit

/-!
Sets of characters given as text: ascending code points and ranges of them in hexadecimal with
blanks between, such as 41-5a 61-7a aa.
-/
namespace IssueFeed.Text

def rangesOfText (table : String) : Array (Nat × Nat) :=
  (splitOn isXmlBlank table.toList).foldl (fun found piece =>
    match splitOn (· == '-') piece with
    | [a] => match number? 16 a with
      | some n => found.push (n, n)
      | none => found
    | [a, b] => match number? 16 a, number? 16 b with
      | some lo, some hi => found.push (lo, hi)
      | _, _ => found
    | _ => found) #[]

def inRanges (ranges : Array (Nat × Nat)) (c : Char) : Bool :=
  ranges.any fun (lo, hi) => lo ≤ c.toNat && c.toNat ≤ hi

end IssueFeed.Text
