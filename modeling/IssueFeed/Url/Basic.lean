import IssueFeed.Text.Blank
import IssueFeed.Url.Host

/-!
Addresses of resources. A text is read by the rules that browsers share: blanks around it do not
count, its protocol comes first, and an address of the protocols of the web has a host. What is read
can be written again in one normal form.
-/
namespace IssueFeed

open Text (trimBoth splitOn isLetter isDigit lower)
open Url

inductive Url.Path where
  | rootless (text : List Char)
  | segments (parts : List (List Char))
  deriving DecidableEq, Repr

/-- An address. The parts are held as they are written. -/
structure Url where
  scheme : List Char
  user : List Char := []
  password : Option (List Char) := none
  host : Option Host := none
  port : Option Nat := none
  path : Url.Path
  query : Option (List Char) := none
  fragment : Option (List Char) := none
  deriving DecidableEq, Repr

namespace Url

def isFile (scheme : List Char) : Bool := scheme == "file".toList

/-- The protocols whose addresses always have a host. -/
def isHosted (scheme : List Char) : Bool :=
  [ "http", "https", "ws", "wss", "ftp"].any fun s => s.toList == scheme

def isSpecial (scheme : List Char) : Bool := isFile scheme || isHosted scheme

def defaultPort? (scheme : List Char) : Option Nat :=
  if scheme == "http".toList || scheme == "ws".toList then some 80
  else if scheme == "https".toList || scheme == "wss".toList then some 443
  else if scheme == "ftp".toList then some 21
  else none

/-- A slash; a backslash is one too in the special protocols. -/
def isSlash (special : Bool) (c : Char) : Bool :=
  c == '/' || (special && c == '\\')

def endsAuthority (special : Bool) (c : Char) : Bool :=
  isSlash special c || c == '?' || c == '#'

/-! The path. -/

/-- A letter and a colon or a bar. -/
def isDrive : List Char → Bool
  | [a, b] => isLetter a && (b == ':' || b == '|')
  | _ => false

def isSingleDot (segment : List Char) : Bool :=
  [".", "%2e"].any fun s => s.toList == segment.map lower

def isDoubleDot (segment : List Char) : Bool :=
  ["..", "%2e.", ".%2e", "%2e%2e"].any fun s => s.toList == segment.map lower

/-- Goes through the segments of a path, `done` being those that stay, the last first. A single dot
stays where it is, two dots go back by one segment, but not past a drive. -/
def walkSegments (done : List (List Char)) : List (List Char) → List (List Char)
  | [] => done.reverse
  | segment :: rest =>
    if isDoubleDot segment then
      let shorter :=
        match done with
        | [] => []
        | last :: others => if isDrive last then done else others
      walkSegments (if rest.isEmpty then [] :: shorter else shorter) rest
    else if isSingleDot segment then walkSegments (if rest.isEmpty then [] :: done else done) rest
    else walkSegments (segment :: done) rest

/-- In a file's path a drive at the beginning is written with a colon. -/
def withDrive : List (List Char) → List (List Char)
  | [letter, c] :: rest =>
    if isDrive [letter, c] then [letter, ':'] :: rest else [letter, c] :: rest
  | segments => segments

/-- The segments that a path's text lists. The empty text has none where the protocol allows it. -/
def segmentsOf (scheme text : List Char) : List (List Char) :=
  let special := isSpecial scheme
  let inner :=
    match text with
    | [] => if special then some [] else none
    | c :: rest => if isSlash special c then some rest else some text
  match inner with
  | none => []
  | some inner =>
    let segments := (splitOn (isSlash special) inner).map (percentEncode escapedInPath)
    let segments := if isFile scheme then withDrive segments else segments
    let walked := walkSegments [] segments
    if isFile scheme then
      -- empty segments at the beginning of a file's path do not count
      let kept := walked.dropWhile (·.isEmpty)
      if kept.isEmpty then [[]] else kept
    else walked

/-! Reading. -/

def scheme? (text : List Char) : Option (List Char × List Char) :=
  let isPart (c : Char) : Bool := isLetter c || isDigit c || c == '+' || c == '-' || c == '.'
  match text with
  | [] => none
  | first :: _ =>
    match text.dropWhile isPart with
    | ':' :: rest => if isLetter first then some ((text.takeWhile isPart).map lower, rest) else none
    | _ => none

/-- The query and the fragment in what follows a path. -/
def tailOf (scheme text : List Char) : Option (List Char) × Option (List Char) :=
  let fragmentOf (rest : List Char) : Option (List Char) :=
    match rest with
    | '#' :: fragment => some (percentEncode escapedInFragment fragment)
    | _ => none
  match text with
  | '?' :: rest =>
    (some (percentEncode (escapedInQuery (isSpecial scheme)) (rest.takeWhile (· != '#'))),
      fragmentOf (rest.dropWhile (· != '#')))
  | _ => (none, fragmentOf text)

def isPathEnd (c : Char) : Bool := c == '?' || c == '#'

def withPath (url : Url) (text : List Char) : Url :=
  let (query, fragment) := tailOf url.scheme (text.dropWhile (!isPathEnd ·))
  { url with
    path := .segments (segmentsOf url.scheme (text.takeWhile (!isPathEnd ·)))
    query := query
    fragment := fragment }

/-- The user and password before the last at sign of an authority, and what follows it. -/
def splitUser (authority : List Char) : Option (List Char) × List Char :=
  match authority.reverse.dropWhile (· != '@') with
  | _ :: user => (some user.reverse, (authority.reverse.takeWhile (· != '@')).reverse)
  | [] => (none, authority)

def userOf (text : List Char) : List Char × Option (List Char) :=
  let user := percentEncode escapedInUser (text.takeWhile (· != ':'))
  match text.dropWhile (· != ':') with
  | _ :: password =>
    (user, if password.isEmpty then none else some (percentEncode escapedInUser password))
  | [] => (user, none)

/-- The text of the host and that of the port; a colon within brackets does not divide them. -/
def splitPort (bracketed : Bool) : List Char → List Char × Option (List Char)
  | [] => ([], none)
  | c :: rest =>
    if c == ':' && !bracketed then ([], some rest)
    else
      let (host, port) :=
        splitPort (if c == '[' then true else if c == ']' then false else bracketed) rest
      (c :: host, port)

def portOf (scheme text : List Char) : Except Fault (Option Nat) :=
  if text.isEmpty then .ok none
  else
    match Text.number? 10 text with
    | some n => if 65535 < n then .error .port
      else .ok (if defaultPort? scheme = some n then none else some n)
    | none => .error .port

/-- An address from what stands between its two slashes and its path. -/
def readAuthority (scheme authority : List Char) : Except Fault Url :=
  let (user, rest) := splitUser authority
  let (hostText, portText) := splitPort false rest
  let hosted := isHosted scheme
  if hostText.isEmpty && (hosted || portText.isSome || user.isSome) then
    .error .emptyHost
  else
    match if hosted then hostOf hostText else opaqueHost hostText with
    | .error fault => .error fault
    | .ok host =>
      match portOf scheme (portText.getD []) with
      | .error fault => .error fault
      | .ok port =>
        let (name, password) := userOf (user.getD [])
        .ok { scheme := scheme, user := name, password := password, host := some host, port := port
              path := .segments [] }

/-- An address from what follows the two slashes after its protocol. -/
def readAfterSlashes (scheme text : List Char) : Except Fault Url :=
  let special := isSpecial scheme
  match readAuthority scheme (text.takeWhile (!endsAuthority special ·)) with
  | .ok url => .ok (url.withPath (text.dropWhile (!endsAuthority special ·)))
  | .error fault => .error fault

def readFile (text : List Char) : Except Fault Url :=
  let file : Url := { scheme := "file".toList, host := some (.name []), path := .segments [] }
  let slash := isSlash true
  match text with
  | a :: b :: rest =>
    if slash a && slash b then
      let hostText := rest.takeWhile (!endsAuthority true ·)
      let after := rest.dropWhile (!endsAuthority true ·)
      if isDrive hostText then .ok (file.withPath ('/' :: rest))
      else if hostText.isEmpty then .ok (file.withPath after)
      else
        match hostOf hostText with
        | .error fault => .error fault
        | .ok host =>
          let url := { file with host := some host }.withPath after
          .ok (if host = .name "localhost".toList then { url with host := some (.name []) }
            else
              match url.path with
              | .segments (first :: _) =>
                if isDrive first then { url with host := some (.name []) } else url
              | _ => url)
    else .ok (file.withPath text)
  | _ => .ok (file.withPath text)

/-- An address of a protocol that is not special. -/
def readGeneral (scheme text : List Char) : Except Fault Url :=
  match text with
  | '/' :: '/' :: rest => readAfterSlashes scheme rest
  | '/' :: _ => .ok ({ scheme := scheme, path := .segments [] : Url }.withPath text)
  | _ =>
    let (query, fragment) := tailOf scheme (text.dropWhile (!isPathEnd ·))
    .ok { scheme := scheme, query := query, fragment := fragment
          path := .rootless (percentEncode isControl (text.takeWhile (!isPathEnd ·))) }

/-- The characters that do not count at the ends of an address. -/
def isOuterBlank (c : Char) : Bool := c.toNat ≤ 32

/-- The characters that do not count anywhere in an address. -/
def isLineBlank (c : Char) : Bool := c == '\t' || c == '\n' || c == '\r'

def readChars (text : List Char) : Except Fault Url :=
  match scheme? ((trimBoth isOuterBlank text).filter (!isLineBlank ·)) with
  | none => .error .relative
  | some (scheme, rest) =>
    if isFile scheme then readFile rest
    else if isHosted scheme then readAfterSlashes scheme (rest.dropWhile (isSlash true))
    else readGeneral scheme rest

def read (text : String) : Except Fault Url := readChars text.toList

def isWeb (url : Url) : Bool :=
  url.scheme == "http".toList || url.scheme == "https".toList

/-! Writing. -/

def Path.text : Path → List Char
  | .rootless text => text
  | .segments parts => parts.flatMap fun part => '/' :: part

/-- The user and password with the at sign after them. -/
def userText (url : Url) : List Char :=
  let password := (url.password.map fun p => ':' :: p).getD []
  if url.user.isEmpty && password.isEmpty then [] else url.user ++ password ++ ['@']

def authorityText (url : Url) : List Char :=
  match url.host with
  | some host =>
    ['/', '/'] ++ url.userText ++ host.text ++
      (url.port.map fun n => ':' :: Text.decimal n).getD []
  | none =>
    -- without a host, a path may not begin like one
    match url.path with
    | .segments ([] :: _ :: _) => ['/', '.']
    | _ => []

def resourceText (url : Url) : List Char :=
  url.scheme ++ ':' :: url.authorityText ++ url.path.text ++
    (url.query.map fun q => '?' :: q).getD []

def text (url : Url) : String :=
  String.ofList (url.resourceText ++ (url.fragment.map fun f => '#' :: f).getD [])

end Url
end IssueFeed
