import IssueFeed.Text.Blank
import IssueFeed.Text.Digit

/-!
The type that a page declares for itself. Of all that it may say only one thing matters: whether the
page is of the old kind, in which a table may stand within a paragraph.
-/
namespace IssueFeed.Html

open Text (isAsciiBlank lower dropStart? cut?)

structure DocumentType where
  name : List Char
  publicName : Option (List Char) := none
  systemName : Option (List Char) := none
  broken : Bool := false
  deriving DecidableEq, Repr

namespace DocumentType

def quoted? : List Char → Option (List Char × List Char)
  | '"' :: inside => cut? ['"'] inside
  | '\'' :: inside => cut? ['\''] inside
  | _ => none

/-- What follows the public name: nothing, or a system name. -/
def withSystem (type : DocumentType) (text : List Char) : DocumentType :=
  if text.isEmpty then type
  else
    match quoted? text with
    | some (name, _) => { type with systemName := some name }
    | none => { type with broken := true }

/-- What a declaration says, given the text between its keyword and its end. -/
def read (text : List Char) : DocumentType :=
  let text := text.dropWhile isAsciiBlank
  let type : DocumentType := ⟨(text.takeWhile (!isAsciiBlank ·)).map lower, none, none, false⟩
  let rest := (text.dropWhile (!isAsciiBlank ·)).dropWhile isAsciiBlank
  let named := (rest.drop 6).dropWhile isAsciiBlank
  let keyword := (rest.take 6).map lower
  if type.name.isEmpty then { type with broken := true }
  else if rest.isEmpty then type
  else if keyword = ['p', 'u', 'b', 'l', 'i', 'c'] then
    match quoted? named with
    | some (name, after) =>
      withSystem { type with publicName := some name } (after.dropWhile isAsciiBlank)
    | none => { type with broken := true }
  else if keyword = ['s', 'y', 's', 't', 'e', 'm'] then
    match quoted? named with
    | some (name, _) => { type with systemName := some name }
    | none => { type with broken := true }
  else { type with broken := true }

def oldNames : List String :=
  ["-//w3o//dtd w3 html strict 3.0//en//", "-/w3c/dtd html 4.0 transitional/en", "html"]

def oldBeginnings : List String :=
  ["+//silmaril//dtd html pro v0r11 19970101//", "-//as//dtd html 3.0 aswedit + extensions//",
    "-//advasoft ltd//dtd html 3.0 aswedit + extensions//", "-//ietf//dtd html 2.0 level 1//",
    "-//ietf//dtd html 2.0 level 2//", "-//ietf//dtd html 2.0 strict level 1//",
    "-//ietf//dtd html 2.0 strict level 2//", "-//ietf//dtd html 2.0 strict//",
    "-//ietf//dtd html 2.0//", "-//ietf//dtd html 2.1e//", "-//ietf//dtd html 3.0//",
    "-//ietf//dtd html 3.2 final//", "-//ietf//dtd html 3.2//", "-//ietf//dtd html 3//",
    "-//ietf//dtd html level 0//", "-//ietf//dtd html level 1//", "-//ietf//dtd html level 2//",
    "-//ietf//dtd html level 3//", "-//ietf//dtd html strict level 0//",
    "-//ietf//dtd html strict level 1//", "-//ietf//dtd html strict level 2//",
    "-//ietf//dtd html strict level 3//", "-//ietf//dtd html strict//", "-//ietf//dtd html//",
    "-//metrius//dtd metrius presentational//",
    "-//microsoft//dtd internet explorer 2.0 html strict//",
    "-//microsoft//dtd internet explorer 2.0 html//",
    "-//microsoft//dtd internet explorer 2.0 tables//",
    "-//microsoft//dtd internet explorer 3.0 html strict//",
    "-//microsoft//dtd internet explorer 3.0 html//",
    "-//microsoft//dtd internet explorer 3.0 tables//", "-//netscape comm. corp.//dtd html//",
    "-//netscape comm. corp.//dtd strict html//", "-//o'reilly and associates//dtd html 2.0//",
    "-//o'reilly and associates//dtd html extended 1.0//",
    "-//o'reilly and associates//dtd html extended relaxed 1.0//",
    "-//sq//dtd html 2.0 hotmetal + extensions//",
    "-//softquad software//dtd hotmetal pro 6.0::19990601::extensions to html 4.0//",
    "-//softquad//dtd hotmetal pro 4.0::19971010::extensions to html 4.0//",
    "-//spyglass//dtd html 2.0 extended//", "-//sun microsystems corp.//dtd hotjava html//",
    "-//sun microsystems corp.//dtd hotjava strict html//", "-//w3c//dtd html 3 1995-03-24//",
    "-//w3c//dtd html 3.2 draft//", "-//w3c//dtd html 3.2 final//", "-//w3c//dtd html 3.2//",
    "-//w3c//dtd html 3.2s draft//", "-//w3c//dtd html 4.0 frameset//",
    "-//w3c//dtd html 4.0 transitional//", "-//w3c//dtd html experimental 19960712//",
    "-//w3c//dtd html experimental 970421//", "-//w3c//dtd w3 html//",
    "-//w3o//dtd w3 html 3.0//", "-//webtechs//dtd mozilla html 2.0//",
    "-//webtechs//dtd mozilla html//"]

/-- What public names begin with that are of the old kind unless a system name follows. -/
def doubtfulBeginnings : List String :=
  ["-//w3c//dtd html 4.01 frameset//", "-//w3c//dtd html 4.01 transitional//"]

/-- The one system name of the old kind, without its scheme. -/
def oldSystemName : String := "www.ibm.com/data/dtd/v11/ibmxhtml1-transitional.dtd"

def beginsWithOneOf (beginnings : List String) (name : List Char) : Bool :=
  beginnings.any fun beginning => (dropStart? beginning.toList name).isSome

def ofOldKind (type : DocumentType) : Bool :=
  let publicName := (type.publicName.getD []).map lower
  let systemName := (type.systemName.getD []).map lower
  type.broken || type.name != ['h', 't', 'm', 'l'] ||
    oldNames.contains (String.ofList publicName) ||
    systemName == "http://".toList ++ oldSystemName.toList ||
    beginsWithOneOf oldBeginnings publicName ||
    (beginsWithOneOf doubtfulBeginnings publicName && type.systemName.isNone)

def isOld (text : List Char) : Bool :=
  (read text).ofOldKind

end DocumentType
end IssueFeed.Html
