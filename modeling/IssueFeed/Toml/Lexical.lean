import IssueFeed.Text.Blank
import IssueFeed.Text.Digit
import IssueFeed.Toml.Value

/-!
The parts of a TOML document that hold no others: blanks and comments, strings, numbers, dates and
keys. A reader takes its part from the head of a text and gives it with the text that remains.
-/
namespace IssueFeed.Toml

open Text (isDigit isDigitOf number? character? dropStart?)

abbrev Reader (α : Type) := List Char → Option (α × List Char)

def isSpace (c : Char) : Bool := c == ' ' || c == '\t'

def skipSpaces (text : List Char) : List Char := text.dropWhile isSpace

/-- A line feed, with a carriage return before it or without. -/
def afterLineEnd? : List Char → Option (List Char)
  | '\n' :: rest => some rest
  | '\r' :: '\n' :: rest => some rest
  | _ => none

def isCommentChar (c : Char) : Bool := c == '\t' || (32 ≤ c.toNat && c.toNat ≠ 127)

/-- What remains after a comment, if one begins here. -/
def skipComment : List Char → List Char
  | '#' :: rest => rest.dropWhile isCommentChar
  | text => text

/-- The rest of a line that may hold only blanks and a comment. -/
def afterLine? (text : List Char) : Option (List Char) :=
  match skipComment (skipSpaces text) with
  | [] => some []
  | rest => afterLineEnd? rest

/-- Blanks, comments and line ends; `text` is what remains when `fuel` runs out. -/
def skipLines (fuel : Nat) (text : List Char) : Option (List Char) :=
  match fuel with
  | 0 => some text
  | fuel + 1 =>
    match skipSpaces text with
    | '#' :: rest =>
      match rest.dropWhile isCommentChar with
      | [] => some []
      | rest => (afterLineEnd? rest).bind (skipLines fuel)
    | '\n' :: rest => skipLines fuel rest
    | '\r' :: '\n' :: rest => skipLines fuel rest
    | rest => some rest

/-! Strings. -/

/-- The characters that may stand in a string as they are, quotes and backslashes aside. -/
def isStringChar (c : Char) : Bool := c == '\t' || (32 ≤ c.toNat && c.toNat ≠ 127)

/-- The character that hexadecimal digits name, so many of them. -/
def namedChar? (digits : Nat) (text : List Char) : Option (Char × List Char) :=
  let code := text.take digits
  if code.length = digits then
    match (number? 16 code).bind character? with
    | some c => some (c, text.drop digits)
    | none => none
  else none

def escaped? : Reader Char
  | 'b' :: rest => some ('\x08', rest)
  | 't' :: rest => some ('\t', rest)
  | 'n' :: rest => some ('\n', rest)
  | 'f' :: rest => some ('\x0c', rest)
  | 'r' :: rest => some ('\r', rest)
  | '"' :: rest => some ('"', rest)
  | '\\' :: rest => some ('\\', rest)
  | 'u' :: rest => namedChar? 4 rest
  | 'U' :: rest => namedChar? 8 rest
  | _ => none

/-- The inside of a string on one line, up to its closing quote. -/
def basicString (fuel : Nat) : Reader (List Char)
  | [] => none
  | '"' :: rest => some ([], rest)
  | '\\' :: rest =>
    match fuel with
    | 0 => none
    | fuel + 1 =>
      match escaped? rest with
      | some (c, rest) => (basicString fuel rest).map fun (cs, rest) => (c :: cs, rest)
      | none => none
  | c :: rest =>
    match fuel with
    | 0 => none
    | fuel + 1 =>
      if isStringChar c then (basicString fuel rest).map fun (cs, rest) => (c :: cs, rest)
      else none

/-- The inside of a string without escapes on one line. -/
def literalString : Reader (List Char)
  | [] => none
  | c :: rest =>
    if c = '\'' then some ([], rest)
    else if isStringChar c then (literalString rest).map fun (cs, rest) => (c :: cs, rest)
    else none

/-- The quotes with which a string of several lines ends: three, and up to two before them that
belong to it. -/
def closingQuotes? (quote : Char) (text : List Char) : Option (List Char × List Char) :=
  let count := min 5 (text.takeWhile (· == quote)).length
  if 3 ≤ count then some (List.replicate (count - 3) quote, text.drop count) else none

def skipBlankLines : List Char → List Char
  | '\r' :: '\n' :: rest => skipBlankLines rest
  | '\n' :: rest => skipBlankLines rest
  | c :: rest => if isSpace c then skipBlankLines rest else c :: rest
  | [] => []

/-- Blanks and line ends after a backslash at the end of a line, if one stands here. -/
def skipContinuation? (text : List Char) : Option (List Char) :=
  (afterLineEnd? (skipSpaces text)).map skipBlankLines

/-- The inside of a string of several lines. Line ends become line feeds. -/
def blockString (quote : Char) (fuel : Nat) (text : List Char) : Option (List Char × List Char) :=
  match fuel with
  | 0 => none
  | fuel + 1 =>
    let more (c : Char) (rest : List Char) : Option (List Char × List Char) :=
      (blockString quote fuel rest).map fun (cs, rest) => (c :: cs, rest)
    match text with
    | [] => none
    | '\r' :: '\n' :: rest => more '\n' rest
    | '\n' :: rest => more '\n' rest
    | c :: rest =>
      if c = quote then
        match closingQuotes? quote text with
        | some found => some found
        | none => more c rest
      else if c = '\\' ∧ quote = '"' then
        match skipContinuation? rest with
        | some rest => blockString quote fuel rest
        | none =>
          match escaped? rest with
          | some (c, rest) => more c rest
          | none => none
      else if isStringChar c then more c rest
      else none

/-- A line end at the very beginning of a string of several lines does not count. -/
def skipFirstLineEnd (text : List Char) : List Char := (afterLineEnd? text).getD text

def string? (text : List Char) : Option (String × List Char) :=
  let found :=
    match text with
    | '"' :: '"' :: '"' :: rest =>
      blockString '"' (rest.length + 1) (skipFirstLineEnd rest)
    | '\'' :: '\'' :: '\'' :: rest =>
      blockString '\'' (rest.length + 1) (skipFirstLineEnd rest)
    | '"' :: rest => basicString (rest.length + 1) rest
    | '\'' :: rest => literalString rest
    | _ => none
  found.map fun (cs, rest) => (String.ofList cs, rest)

/-! Numbers. -/

/-- Digits, the first of them and those after underscores being demanded; none if one is missing. -/
def digits? (base : Nat) (text : List Char) : Option (List Char × List Char) :=
  let isPart (c : Char) : Bool := isDigitOf base c || c == '_'
  let run := text.takeWhile isPart
  let parts := Text.splitOn (· == '_') run
  if parts.all (!·.isEmpty) then some (parts.flatten, text.dropWhile isPart) else none

def sign : List Char → Bool × List Char
  | '-' :: rest => (true, rest)
  | '+' :: rest => (false, rest)
  | text => (false, text)

/-- A whole number in decimal digits without leading zeros, and its sign. -/
def decimalPart? (text : List Char) : Option (Bool × List Char × List Char) :=
  let (negative, rest) := sign text
  match rest with
  | '0' :: after => some (negative, ['0'], after)
  | _ => (digits? 10 rest).map fun (digits, after) => (negative, digits, after)

def maxInteger : Int := 9223372036854775807

def integerValue? (base : Nat) (negative : Bool) (digits : List Char) : Option Value :=
  match number? base digits with
  | some n =>
    let z : Int := if negative then -n else n
    if -maxInteger - 1 ≤ z ∧ z ≤ maxInteger then some (.integer z) else none
  | none => none

def integer? (text : List Char) : Option (Value × List Char) :=
  let based (base : Nat) (rest : List Char) : Option (Value × List Char) :=
    match digits? base rest with
    | some (digits, rest) => (integerValue? base false digits).map (·, rest)
    | none => none
  match text with
  | '0' :: 'x' :: rest => based 16 rest
  | '0' :: 'o' :: rest => based 8 rest
  | '0' :: 'b' :: rest => based 2 rest
  | _ =>
    match decimalPart? text with
    | some (negative, digits, rest) => (integerValue? 10 negative digits).map (·, rest)
    | none => none

/-- The text of a fraction, and whether it is too large to be one. -/
def fractionText (negative : Bool) (digits : List Char) (exponent : Int) : String × Bool :=
  let minus := if negative then "-" else ""
  match Decimal.nearest ((number? 10 digits).getD 0) exponent with
  | .infinite => (minus ++ "inf", true)
  | .finite 0 _ => (minus ++ "0.0", false)
  | .finite m k =>
    let (shortest, exponent) := Decimal.shortest m k
    (minus ++ String.ofList (Decimal.positional shortest exponent), false)

/-- The exponent of a fraction, if one stands here; none inside if it lacks digits. -/
def exponent? : List Char → Option (Option (Int × List Char))
  | e :: rest =>
    if e = 'e' ∨ e = 'E' then
      let (negative, rest) := sign rest
      some ((digits? 10 rest).map fun (digits, rest) =>
        let n : Int := ((number? 10 digits).getD 0 : Nat)
        (if negative then -n else n, rest))
    else none
  | [] => none

/-- What a reader finds that may decline, or insist that the text is wrong. -/
inductive Attempt (α : Type) where
  | found (value : α) (rest : List Char)
  | declined
  | wrong

def float? (text : List Char) : Attempt Value :=
  match decimalPart? text with
  | none => .declined
  | some (negative, whole, rest) =>
    let finish (digits : List Char) (places : Nat) (exponent : Int) (rest : List Char) :=
      let (text, tooLarge) := fractionText negative digits (exponent - places)
      if tooLarge && !negative then Attempt.wrong else .found (.float text) rest
    match rest with
    | '.' :: rest =>
      match digits? 10 rest with
      | none => .wrong
      | some (places, rest) =>
        match exponent? rest with
        | some (some (n, rest)) => finish (whole ++ places) places.length n rest
        | some none => .wrong
        | none => finish (whole ++ places) places.length 0 rest
    | _ =>
      match exponent? rest with
      | some (some (n, rest)) => finish whole 0 n rest
      | some none => .wrong
      | none => .declined

def namedFloat? (text : List Char) : Option (Value × List Char) :=
  let (negative, rest) := sign text
  match rest with
  | 'i' :: 'n' :: 'f' :: rest => some (.float (if negative then "-inf" else "inf"), rest)
  | 'n' :: 'a' :: 'n' :: rest => some (.float "NaN", rest)
  | _ => none

/-! Dates and times. -/

def fixedNumber? (count low high : Nat) (text : List Char) : Option (Nat × List Char) :=
  let digits := text.take count
  if digits.length = count ∧ digits.all isDigit then
    match number? 10 digits with
    | some n => if low ≤ n ∧ n ≤ high then some (n, text.drop count) else none
    | none => none
  else none

def daysOfMonth (year month : Nat) : Nat :=
  if month = 2 then (if year % 4 = 0 ∧ (year % 100 ≠ 0 ∨ year % 400 = 0) then 29 else 28)
  else if month = 4 ∨ month = 6 ∨ month = 9 ∨ month = 11 then 30
  else 31

def date? (text : List Char) : Attempt Unit :=
  match fixedNumber? 4 0 9999 text with
  | some (year, '-' :: rest) =>
    match fixedNumber? 2 1 12 rest with
    | some (month, '-' :: rest) =>
      match fixedNumber? 2 1 (daysOfMonth year month) rest with
      | some (_, rest) => .found () rest
      | none => .wrong
    | _ => .wrong
  | _ => .declined

def time? (text : List Char) : Attempt Unit :=
  match fixedNumber? 2 0 23 text with
  | some (_, ':' :: rest) =>
    match fixedNumber? 2 0 59 rest with
    | some (_, ':' :: rest) =>
      match fixedNumber? 2 0 60 rest with
      | some (_, '.' :: c :: rest) =>
        if isDigit c then .found () (rest.dropWhile isDigit) else .found () ('.' :: c :: rest)
      | some (_, rest) => .found () rest
      | none => .wrong
    | _ => .wrong
  | _ => .declined

def offset? (text : List Char) : Attempt Unit :=
  match text with
  | 'Z' :: rest => .found () rest
  | 'z' :: rest => .found () rest
  | c :: rest =>
    if c = '+' ∨ c = '-' then
      match fixedNumber? 2 0 23 rest with
      | some (_, ':' :: rest) =>
        match fixedNumber? 2 0 59 rest with
        | some (_, rest) => .found () rest
        | none => .wrong
      | _ => .wrong
    else .declined
  | [] => .declined

def dateTime? (text : List Char) : Attempt Value :=
  match date? text with
  | .wrong => .wrong
  | .declined =>
    match time? text with
    | .found _ rest => .found .dateTime rest
    | .declined => .declined
    | .wrong => .wrong
  | .found _ rest =>
    match rest with
    | c :: afterMark =>
      if c = 'T' ∨ c = 't' ∨ c = ' ' then
        match time? afterMark with
        | .wrong => .wrong
        | .declined => .found .dateTime rest
        | .found _ afterTime =>
          match offset? afterTime with
          | .wrong => .wrong
          | .declined => .found .dateTime afterTime
          | .found _ rest => .found .dateTime rest
      else .found .dateTime rest
    | [] => .found .dateTime rest

def quantity? (text : List Char) : Option (Value × List Char) :=
  match dateTime? text with
  | .wrong => none
  | .found value rest => some (value, rest)
  | .declined =>
    match float? text with
    | .wrong => none
    | .found value rest => some (value, rest)
    | .declined =>
      match namedFloat? text with
      | some found => some found
      | none => integer? text

/-! Keys. -/

def isKeyChar (c : Char) : Bool := Text.isLetter c || isDigit c || c == '_' || c == '-'

def keyPart? (text : List Char) : Option (String × List Char) :=
  match text with
  | '"' :: rest =>
    (basicString (rest.length + 1) rest).map fun (cs, rest) => (String.ofList cs, rest)
  | '\'' :: rest => (literalString rest).map fun (cs, rest) => (String.ofList cs, rest)
  | _ =>
    let run := text.takeWhile isKeyChar
    if run.isEmpty then none else some (String.ofList run, text.dropWhile isKeyChar)

/-- A key of parts with points between, and the blanks around it. -/
def key? (fuel : Nat) (text : List Char) : Option (List String × List Char) :=
  match fuel with
  | 0 => none
  | fuel + 1 =>
    match keyPart? (skipSpaces text) with
    | none => none
    | some (part, rest) =>
      match skipSpaces rest with
      | '.' :: rest => (key? fuel rest).map fun (parts, rest) => (part :: parts, rest)
      | rest => some ([part], rest)

/-- The most parts that a key may have, and the deepest that values may stand within others. -/
def depthLimit : Nat := 79

end IssueFeed.Toml
