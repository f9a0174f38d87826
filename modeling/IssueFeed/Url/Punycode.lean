import IssueFeed.Text.Digit

/-!
Punycode: a label with characters beyond ASCII written in ASCII. The ASCII characters come first;
then, in the order of their codes, the others, each as the number of steps from the one before, in
digits whose weights adapt to the numbers written.
-/
namespace IssueFeed.Url.Punycode

def digitCharacter (d : Nat) : Char :=
  if d < 26 then Char.ofNat (97 + d) else Char.ofNat (22 + d)

def digitValue (c : Char) : Option Nat :=
  if Text.isDigit c then some (c.toNat - 48 + 26)
  else if Text.isLetter c then some ((Text.lower c).toNat - 97)
  else none

/-- The bound below which the digit at position `k` is the last one. -/
def threshold (k bias : Nat) : Nat :=
  if k ≤ bias then 1 else if bias + 26 ≤ k then 26 else k - bias

def scale (delta k : Nat) : Nat :=
  if 455 < delta then scale (delta / 35) (k + 36) else k + 36 * delta / (delta + 38)
termination_by delta

/-- The bias after a number, given how many characters are written by then. -/
def adapt (delta count : Nat) (first : Bool) : Nat :=
  let halved := if first then delta / 700 else delta / 2
  scale (halved + halved / count) 0

def writeNumber (bias k q : Nat) : List Char :=
  let t := threshold k bias
  if q < t then [digitCharacter q]
  else digitCharacter (t + (q - t) % (36 - t)) :: writeNumber bias (k + 36) ((q - t) / (36 - t))
termination_by q
decreasing_by
  have positive : 1 ≤ threshold k bias := by unfold threshold; split <;> (try split) <;> omega
  have : (q - threshold k bias) / (36 - threshold k bias) ≤ q - threshold k bias :=
    Nat.div_le_self _ _
  omega

/-- The state of writing: the number due and the bias, and how many characters are written. -/
structure Writer where
  out : List Char
  delta : Nat
  bias : Nat
  count : Nat

/-- One character of the label seen while the characters of code `code` are written. -/
def Writer.see (code plain : Nat) (w : Writer) (c : Char) : Writer :=
  if c.toNat < code then { w with delta := w.delta + 1 }
  else if c.toNat = code then
    { out := w.out ++ writeNumber w.bias 36 w.delta, delta := 0
      bias := adapt w.delta (w.count + 1) (w.count == plain), count := w.count + 1 }
  else w

def writeCodes (label : List Char) (plain : Nat) : List Nat → Nat → Writer → Writer
  | [], _, w => w
  | code :: codes, from_, w =>
    let w := { w with delta := w.delta + (code - from_) * (w.count + 1) }
    let w := label.foldl (Writer.see code plain) w
    writeCodes label plain codes (code + 1) { w with delta := w.delta + 1 }

def encode (label : List Char) : List Char :=
  let plain := label.filter (·.toNat < 128)
  let codes := (((label.map (·.toNat)).filter (128 ≤ ·)).mergeSort (· ≤ ·)).eraseDups
  plain ++ (if plain.isEmpty then [] else ['-']) ++
    (writeCodes label plain.length codes 128 ⟨[], 0, 72, plain.length⟩).out

/-- Reads one number onto `i`; gives it with the digits after it. -/
def readNumber (bias : Nat) : List Char → Nat → Nat → Nat → Option (Nat × List Char)
  | [], _, _, _ => none
  | c :: rest, k, weight, i =>
    match digitValue c with
    | none => none
    | some d =>
      if d < threshold k bias then some (i + d * weight, rest)
      else readNumber bias rest (k + 36) (weight * (36 - threshold k bias)) (i + d * weight)

theorem readNumber_length {bias k weight i : Nat} {digits rest : List Char} {found : Nat}
    (h : readNumber bias digits k weight i = some (found, rest)) :
    rest.length < digits.length := by
  induction digits generalizing k weight i with
  | nil => simp [readNumber] at h
  | cons c digits ih =>
    simp only [readNumber] at h
    split at h
    · contradiction
    · split at h
      · simp only [Option.some.injEq, Prod.mk.injEq] at h
        simp [h.2]
      · have := ih h
        simp only [List.length_cons]; omega

def readCodes (bias code i : Nat) (label : List Char) (digits : List Char) : Option (List Char) :=
  if digits.isEmpty then some label
  else
    match _read : readNumber bias digits 36 1 i with
    | none => none
    | some (j, rest) =>
      let count := label.length + 1
      match Text.character? (code + j / count) with
      | none => none
      | some c =>
        readCodes (adapt (j - i) count (i == 0)) (code + j / count) (j % count + 1)
          (label.insertIdx (j % count) c) rest
termination_by digits.length
decreasing_by exact readNumber_length _read

def decode (written : List Char) : Option (List Char) :=
  let digits := (written.reverse.takeWhile (· != '-')).reverse
  let plain := written.take (written.length - digits.length - 1)
  if plain.any (128 ≤ ·.toNat) then none
  else readCodes 72 128 0 plain digits

end IssueFeed.Url.Punycode
