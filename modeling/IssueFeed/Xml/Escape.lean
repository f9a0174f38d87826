import IssueFeed.Text.Blank
import IssueFeed.Text.Digit

/-!
Escaped text. Five characters have names that stand for them in the text of an element; a reader
also knows characters by number.
-/
namespace IssueFeed.Xml

open Text (number? character? cut?)

def escapeChar (c : Char) : List Char :=
  if c = '<' then ['&', 'l', 't', ';']
  else if c = '>' then ['&', 'g', 't', ';']
  else if c = '&' then ['&', 'a', 'm', 'p', ';']
  else if c = '\'' then ['&', 'a', 'p', 'o', 's', ';']
  else if c = '"' then ['&', 'q', 'u', 'o', 't', ';']
  else [c]

def escape (text : List Char) : List Char :=
  text.flatMap escapeChar

/-- A number of thirty-two bits that is no character code or stands for the null character names
nothing. -/
def numbered? (base : Nat) (digits : List Char) : Option Char :=
  match number? base digits with
  | some n => if n = 0 then none else character? n
  | none => none

/-- The character that a reference means, given what stands between the ampersand and the
semicolon. -/
def reference? : List Char → Option Char
  | ['l', 't'] => some '<'
  | ['g', 't'] => some '>'
  | ['a', 'm', 'p'] => some '&'
  | ['a', 'p', 'o', 's'] => some '\''
  | ['q', 'u', 'o', 't'] => some '"'
  | '#' :: 'x' :: digits => numbered? 16 digits
  | '#' :: digits => numbered? 10 digits
  | _ => none

/-- The references of a text replaced by what they mean. `name` holds, from its end, the name of
the reference that is being read. -/
def unescapeFrom (name : Option (List Char)) : List Char → Option (List Char)
  | [] => if name.isNone then some [] else none
  | c :: rest =>
    match name with
    | none =>
      if c = '&' then unescapeFrom (some []) rest else (unescapeFrom none rest).map (c :: ·)
    | some name =>
      if c = ';' then
        match reference? name.reverse with
        | some meant => (unescapeFrom none rest).map (meant :: ·)
        | none => none
      else if c = '&' then none
      else unescapeFrom (some (c :: name)) rest

/-- The meaning of an escaped text, if all its references mean something. -/
def unescape (text : List Char) : Option (List Char) :=
  unescapeFrom none text

end IssueFeed.Xml
