import IssueFeed.Url.Domain
import IssueFeed.Url.Percent

/-!
Hosts: domain names, addresses of four or of sixteen bytes, and, for protocols of their own kind,
any name.
-/
namespace IssueFeed.Url

open Text (number? splitOn isDigit isDigitOf)

inductive Fault where
  | relative
  | emptyHost
  | port
  | ipv4
  | ipv6
  | domainName
  | hostCharacter
  deriving DecidableEq, Repr

def Fault.message : Fault → String
  | .relative => "relative URL without a base"
  | .emptyHost => "empty host"
  | .port => "invalid port number"
  | .ipv4 => "invalid IPv4 address"
  | .ipv6 => "invalid IPv6 address"
  | .domainName => "invalid international domain name"
  | .hostCharacter => "invalid domain character"

inductive Host where
  | name (text : List Char)
  | ipv4 (address : Nat)
  | ipv6 (pieces : List Nat)
  deriving DecidableEq, Repr

/-! Addresses of four bytes. -/

/-- A number as it may stand in an address: decimal, octal after a zero, hexadecimal after 0x. -/
def ipv4Number? (part : List Char) : Option Nat :=
  let read (base : Nat) (digits : List Char) : Option Nat :=
    if digits.isEmpty then some 0 else number? base digits
  match part with
  | [] => none
  | '0' :: 'x' :: digits => read 16 digits
  | '0' :: 'X' :: digits => read 16 digits
  | '0' :: d :: digits => read 8 (d :: digits)
  | digits => read 10 digits

/-- Whether the last part of a name, an empty one after it aside, is a number. -/
def endsInNumber (name : List Char) : Bool :=
  let last :=
    match (splitOn (· == '.') name).reverse with
    | [] :: last :: _ => last
    | last :: _ => last
    | [] => []
  (!last.isEmpty && last.all isDigit) || (ipv4Number? last).isSome

/-- The number of an address whose leading parts are bytes and whose last part is the rest. -/
def ipv4Of? (parts : List Nat) : Option Nat :=
  match parts.reverse with
  | [] => none
  | last :: leading =>
    let leading := leading.reverse
    if 3 < leading.length || leading.any (255 < ·) || Nat.pow 256 (4 - leading.length) ≤ last then
      none
    else
      some (leading.zipIdx.foldl (fun total (byte, i) => total + byte * Nat.pow 256 (3 - i)) last)

def ipv4? (name : List Char) : Option Nat :=
  let parts := splitOn (· == '.') name
  let parts := if 1 < parts.length && parts.getLast? = some [] then parts.dropLast else parts
  (parts.mapM ipv4Number?).bind ipv4Of?

/-! Addresses of sixteen bytes. -/

def ipv6Piece? (part : List Char) : Option Nat :=
  if part.length ≤ 4 then number? 16 part else none

/-- The last part, which may be an address of four bytes for two pieces. -/
def ipv6Ending? (part : List Char) : Option (List Nat) :=
  if part.contains '.' then
    let bytes := (splitOn (· == '.') part).map fun byte =>
      if byte.all isDigit && (byte.length = 1 || byte.head? ≠ some '0') then
        (number? 10 byte).filter (· ≤ 255)
      else none
    match bytes with
    | [some a, some b, some c, some d] => some [a * 256 + b, c * 256 + d]
    | _ => none
  else (ipv6Piece? part).map ([·])

def ipv6Pieces? : List (List Char) → Option (List Nat)
  | [] => some []
  | [last] => ipv6Ending? last
  | part :: rest =>
    match ipv6Piece? part, ipv6Pieces? rest with
    | some piece, some pieces => some (piece :: pieces)
    | _, _ => none

def ipv6Side? (side : List Char) : Option (List Nat) :=
  if side.isEmpty then some [] else ipv6Pieces? (splitOn (· == ':') side)

/-- The eight pieces of an address, a double colon standing for as many zeros as it takes. -/
def ipv6? (text : List Char) : Option (List Nat) :=
  match Text.cut? [':', ':'] text with
  | some (before, after) =>
    if before.contains '.' then none
    else
      match ipv6Side? before, ipv6Side? after with
      | some front, some back =>
        if front.length + back.length < 8 then
          some (front ++ List.replicate (8 - front.length - back.length) 0 ++ back)
        else none
      | _, _ => none
  | none =>
    match ipv6Side? text with
    | some pieces => if pieces.length = 8 then some pieces else none
    | none => none

/-- Where the longest run of two zeros or more begins, and its length; the first of equal ones. -/
def longestZeros (pieces : List Nat) : Option (Nat × Nat) :=
  let runs := (List.range pieces.length).map fun i =>
    (i, ((pieces.drop i).takeWhile (· == 0)).length)
  runs.foldl (fun best run =>
    if 2 ≤ run.2 && (best.all fun b => b.2 < run.2) then some run else best) none

def colonJoined : List Nat → List Char
  | [] => []
  | [piece] => Text.hexadecimal piece
  | piece :: rest => Text.hexadecimal piece ++ ':' :: colonJoined rest

def ipv6Text (pieces : List Nat) : List Char :=
  match longestZeros pieces with
  | some (start, length) =>
    colonJoined (pieces.take start) ++ [':', ':'] ++ colonJoined (pieces.drop (start + length))
  | none => colonJoined pieces

/-! Hosts. -/

def Host.text : Host → List Char
  | .name text => text
  | .ipv4 n =>
    Text.decimal (n / 16777216) ++ '.' :: Text.decimal (n / 65536 % 256) ++
      '.' :: Text.decimal (n / 256 % 256) ++ '.' :: Text.decimal (n % 256)
  | .ipv6 pieces => '[' :: ipv6Text pieces ++ [']']

def bracketedHost (text : List Char) : Except Fault Host :=
  match text.reverse with
  | ']' :: inside =>
    match ipv6? inside.reverse with
    | some pieces => .ok (.ipv6 pieces)
    | none => .error .ipv6
  | _ => .error .ipv6

/-- The host that a text names where domain names are meant. -/
def hostOf (text : List Char) : Except Fault Host :=
  match text with
  | '[' :: inside => bracketedHost inside
  | _ =>
    match Text.decode ⟨(percentDecode text).toArray⟩ with
    | .error _ => .error .domainName
    | .ok name =>
      match domainOf? name.toList with
      | none => .error .domainName
      | some [] => .error .emptyHost
      | some domain =>
        if endsInNumber domain then
          match ipv4? domain with
          | some address => .ok (.ipv4 address)
          | none => .error .ipv4
        else .ok (.name domain)

/-- The host that a text names where any name may stand. -/
def opaqueHost (text : List Char) : Except Fault Host :=
  match text with
  | '[' :: inside => bracketedHost inside
  | _ =>
    if text.any fun c => c.toNat == 0 || "\t\n\r #/:<>?@[\\]^|".toList.contains c then
      .error .hostCharacter
    else .ok (.name (percentEncode isControl text))

end IssueFeed.Url
