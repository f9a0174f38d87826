import IssueFeed.Date.Instant
import IssueFeed.Date.Pattern
import IssueFeed.Text.Digit

/-!
Stamps: an instant written after a pattern.
-/
namespace IssueFeed.Date

open Text (padded decimal signedDecimal)

def fillCharacter : Padding → Char
  | .space => ' '
  | _ => '0'

/-- A number in at least `width` characters, a sign counting as one of them. -/
def filled (padding : Padding) (width : Nat) (alwaysSign : Bool) (z : Int) : List Char :=
  let sign := if z < 0 then ['-'] else if alwaysSign then ['+'] else []
  let digits := decimal z.natAbs
  let missing := width - (sign.length + digits.length)
  match padding with
  | .none => sign ++ digits
  | .zero => sign ++ List.replicate missing '0' ++ digits
  | .space => List.replicate missing ' ' ++ sign ++ digits

/-- Four digits; years outside them have a sign in front. -/
def yearText (padding : Padding) (year : Int) : List Char :=
  if 0 ≤ year && year ≤ 9999 then filled padding 4 false year else filled padding 5 true year

/-- Two digits of a number below 256, the characters after 9 serving for tens from ten on. -/
def twoDigits (padding : Padding) (n : Nat) : List Char :=
  let tens :=
    match n / 10, padding with
    | 0, .none => []
    | 0, .space => [' ']
    | tens, _ => [Char.ofNat ('0'.toNat + tens)]
  tens ++ [Char.ofNat ('0'.toNat + n % 10)]

def monthNames : List String :=
  ["January", "February", "March", "April", "May", "June", "July", "August", "September",
    "October", "November", "December"]

def weekdayNames : List String :=
  ["Sunday", "Monday", "Tuesday", "Wednesday", "Thursday", "Friday", "Saturday"]

def nameText (short : Bool) (names : List String) (i : Nat) : List Char :=
  let name := (names.getD i "").toList
  if short then name.take 3 else name

def numberText (t : Instant) (padding : Padding) : Number → List Char
  | .year => yearText padding t.year
  | .century => twoDigits padding (t.year / 100 % 256).toNat
  | .yearOfCentury => twoDigits padding (t.year % 100).toNat
  | .isoYear => yearText padding t.isoWeek.1
  | .isoYearOfCentury => twoDigits padding (t.isoWeek.1 % 100).toNat
  | .quarter => decimal ((t.month - 1) / 3 + 1)
  | .month => twoDigits padding t.month
  | .day => twoDigits padding t.day
  | .weekFromSunday => twoDigits padding (t.weekOfYear t.weekday)
  | .weekFromMonday => twoDigits padding (t.weekOfYear t.weekdayFromMonday)
  | .isoWeek => twoDigits padding t.isoWeek.2
  | .weekdayFromSunday => decimal t.weekday
  | .weekdayFromMonday => decimal (t.weekdayFromMonday + 1)
  | .dayOfYear => filled padding 3 false t.dayOfYear
  | .hour => twoDigits padding t.hour
  | .hour12 => twoDigits padding t.hour12
  | .minute => twoDigits padding t.minute
  | .second => twoDigits padding t.shownSecond
  | .nanosecond => filled padding 9 false t.fraction
  | .timestamp => filled padding 9 false t.timestamp

def fractionDigits (digits nanoseconds : Nat) : List Char :=
  (padded '0' 9 nanoseconds).take digits

/-- A point and three, six or nine digits, as few as tell the fraction; nothing for none. -/
def shortFraction (nanoseconds : Nat) : List Char :=
  if nanoseconds == 0 then []
  else if nanoseconds % 1000000 == 0 then '.' :: fractionDigits 3 nanoseconds
  else if nanoseconds % 1000 == 0 then '.' :: fractionDigits 6 nanoseconds
  else '.' :: fractionDigits 9 nanoseconds

/-- An offset from universal time; minutes are rounded, hours cut. -/
def offsetText (offset : Int) : OffsetForm → Option (List Char)
  | .plain => some (sign :: two (minutes / 60) ++ two (minutes % 60))
  | .colon => some (sign :: two (minutes / 60) ++ ':' :: two (minutes % 60))
  | .seconds => some (sign :: two (size / 3600) ++ ':' :: two (size / 60 % 60) ++
      ':' :: two (size % 60))
  | .hours => some (sign :: two (size / 3600))
  | .anyForm => none
where
  size := offset.natAbs
  minutes := (size + 30) / 60
  sign := if offset < 0 then '-' else '+'
  two n := padded '0' 2 n

def internetTimeText (t : Instant) : List Char :=
  yearText .zero t.year ++ '-' :: padded '0' 2 t.month ++ '-' :: padded '0' 2 t.day ++
    'T' :: padded '0' 2 t.hour ++ ':' :: padded '0' 2 t.minute ++
    ':' :: padded '0' 2 t.shownSecond ++ shortFraction t.fraction ++
    (offsetText t.offset .colon).getD []

/-- One piece at an instant; only an offset in any form cannot be written. -/
def Piece.text? (t : Instant) : Piece → Option (List Char)
  | .literal c => some [c]
  | .number what padding => some (numberText t padding what)
  | .monthName short => some (nameText short monthNames (t.month - 1))
  | .weekdayName short => some (nameText short weekdayNames t.weekday)
  | .halfDay capital =>
    let letter := if t.hour < 12 then 'A' else 'P'
    some (if capital then [letter, 'M'] else [Text.lower letter, 'm'])
  | .offset form => offsetText t.offset form
  | .fraction => some (shortFraction t.fraction)
  | .fixedFraction point digits =>
    some ((if point then ['.'] else []) ++ fractionDigits digits t.fraction)
  | .internetTime => some (internetTimeText t)

def piecesText? (t : Instant) : List Piece → Option (List Char)
  | [] => some []
  | piece :: rest =>
    match piece.text? t, piecesText? t rest with
    | some front, some back => some (front ++ back)
    | _, _ => none

def stamp? (format : String) (t : Instant) : Option String :=
  ((pieces format.toList).bind (piecesText? t)).map String.ofList

def plainFormat : String := "%Y-%m-%d %H:%M"

end IssueFeed.Date
