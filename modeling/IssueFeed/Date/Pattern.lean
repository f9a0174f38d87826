/-!
Date patterns: texts in which a percent sign and what follows it stands for a part of a date. A
pattern is read into pieces before it is used; it is refused as a whole when one of its percent
signs stands for nothing.
-/
namespace IssueFeed.Date

inductive Padding where
  | none
  | space
  | zero
  deriving DecidableEq, Repr

inductive Number where
  | year
  | century
  | yearOfCentury
  | isoYear
  | isoYearOfCentury
  | quarter
  | month
  | day
  | weekFromSunday
  | weekFromMonday
  | isoWeek
  | weekdayFromSunday
  | weekdayFromMonday
  | dayOfYear
  | hour
  | hour12
  | minute
  | second
  | nanosecond
  | timestamp
  deriving DecidableEq, Repr

/-- How much of an offset is written, and whether colons stand between its parts. -/
inductive OffsetForm where
  | plain
  | colon
  | seconds
  | hours
  /-- A form for reading, which nothing is written in. -/
  | anyForm
  deriving DecidableEq, Repr

inductive Piece where
  | literal (c : Char)
  | number (what : Number) (padding : Padding)
  | monthName (short : Bool)
  | weekdayName (short : Bool)
  | halfDay (capital : Bool)
  | offset (form : OffsetForm)
  /-- The fraction of the second in as many digits as it needs, after a point. -/
  | fraction
  | fixedFraction (point : Bool) (digits : Nat)
  | internetTime
  deriving DecidableEq, Repr

def numberOfLetter : Char → Option (Number × Padding)
  | 'Y' => some (.year, .zero)
  | 'C' => some (.century, .zero)
  | 'y' => some (.yearOfCentury, .zero)
  | 'G' => some (.isoYear, .zero)
  | 'g' => some (.isoYearOfCentury, .zero)
  | 'q' => some (.quarter, .zero)
  | 'm' => some (.month, .zero)
  | 'd' => some (.day, .zero)
  | 'e' => some (.day, .space)
  | 'U' => some (.weekFromSunday, .zero)
  | 'W' => some (.weekFromMonday, .zero)
  | 'V' => some (.isoWeek, .zero)
  | 'w' => some (.weekdayFromSunday, .zero)
  | 'u' => some (.weekdayFromMonday, .zero)
  | 'j' => some (.dayOfYear, .zero)
  | 'H' => some (.hour, .zero)
  | 'k' => some (.hour, .space)
  | 'I' => some (.hour12, .zero)
  | 'l' => some (.hour12, .space)
  | 'M' => some (.minute, .zero)
  | 'S' => some (.second, .zero)
  | 'f' => some (.nanosecond, .zero)
  | 's' => some (.timestamp, .none)
  | _ => none

def zeroPadded (what : Number) : Piece := .number what .zero

def timePieces : List Piece :=
  [zeroPadded .hour, .literal ':', zeroPadded .minute, .literal ':', zeroPadded .second]

def slashDatePieces : List Piece :=
  [zeroPadded .month, .literal '/', zeroPadded .day, .literal '/', zeroPadded .yearOfCentury]

def piecesOfLetter : Char → Option (List Piece)
  | 'A' => some [.weekdayName false]
  | 'a' => some [.weekdayName true]
  | 'B' => some [.monthName false]
  | 'b' => some [.monthName true]
  | 'h' => some [.monthName true]
  | 'p' => some [.halfDay true]
  | 'P' => some [.halfDay false]
  | 'Z' => some [.offset .colon]
  | 'z' => some [.offset .plain]
  | '+' => some [.internetTime]
  | '%' => some [.literal '%']
  | 'n' => some [.literal '\n']
  | 't' => some [.literal '\t']
  | 'D' => some slashDatePieces
  | 'x' => some slashDatePieces
  | 'F' => some [zeroPadded .year, .literal '-', zeroPadded .month, .literal '-', zeroPadded .day]
  | 'R' => some [zeroPadded .hour, .literal ':', zeroPadded .minute]
  | 'T' => some timePieces
  | 'X' => some timePieces
  | 'r' => some [zeroPadded .hour12, .literal ':', zeroPadded .minute, .literal ':',
      zeroPadded .second, .literal ' ', .halfDay true]
  | 'c' => some ([.weekdayName true, .literal ' ', .monthName true, .literal ' ',
      .number .day .space, .literal ' '] ++ timePieces ++ [.literal ' ', zeroPadded .year])
  | 'v' => some [.number .day .space, .literal '-', .monthName true, .literal '-',
      zeroPadded .year]
  | _ => none

def filledNumber (padding : Padding) (letter : Char) : Option (List Piece) :=
  (numberOfLetter letter).map fun (what, _) => [.number what padding]

/-- The pieces for what follows a percent sign, and how many characters that takes. -/
def specifier : List Char → Option (List Piece × Nat)
  | '-' :: letter :: _ => (filledNumber .none letter).map (·, 2)
  | '_' :: letter :: _ => (filledNumber .space letter).map (·, 2)
  | '0' :: letter :: _ => (filledNumber .zero letter).map (·, 2)
  | '#' :: 'z' :: _ => some ([.offset .anyForm], 2)
  | ':' :: 'z' :: _ => some ([.offset .colon], 2)
  | ':' :: ':' :: 'z' :: _ => some ([.offset .seconds], 3)
  | ':' :: ':' :: ':' :: 'z' :: _ => some ([.offset .hours], 4)
  | '.' :: 'f' :: _ => some ([.fraction], 2)
  | '.' :: '3' :: 'f' :: _ => some ([.fixedFraction true 3], 3)
  | '.' :: '6' :: 'f' :: _ => some ([.fixedFraction true 6], 3)
  | '.' :: '9' :: 'f' :: _ => some ([.fixedFraction true 9], 3)
  | '3' :: 'f' :: _ => some ([.fixedFraction false 3], 2)
  | '6' :: 'f' :: _ => some ([.fixedFraction false 6], 2)
  | '9' :: 'f' :: _ => some ([.fixedFraction false 9], 2)
  | letter :: _ =>
    match numberOfLetter letter with
    | some (what, padding) => some ([.number what padding], 1)
    | none => (piecesOfLetter letter).map (·, 1)
  | [] => none

/-- The pieces of a pattern, or none if a percent sign in it stands for nothing. -/
def pieces : List Char → Option (List Piece)
  | [] => some []
  | c :: rest =>
    if c = '%' then
      match specifier rest with
      | some (found, width) => (pieces (rest.drop width)).map (found ++ ·)
      | none => none
    else (pieces rest).map (.literal c :: ·)
termination_by cs => cs.length
decreasing_by all_goals simp [List.length_drop]; try omega

def isPattern (format : String) : Bool :=
  (pieces format.toList).isSome

end IssueFeed.Date
