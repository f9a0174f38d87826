import IssueFeed.Text.Quoted

/-!
Why an operation fails, with the two texts by which a failure is shown: the message for a reader,
and the form that names its parts.
-/
namespace IssueFeed

inductive FileFault where
  | notFound
  | alreadyExists
  | notADirectory
  | isADirectory
  | busy
  | nameTooLong
  | nulCharacter
  | notText
  deriving DecidableEq, Repr

/-- The system's number, name and text for a fault, if it is one of the system's. -/
def FileFault.system? : FileFault → Option (Nat × String × String)
  | .notFound => some (2, "NotFound", "No such file or directory")
  | .alreadyExists => some (17, "AlreadyExists", "File exists")
  | .notADirectory => some (20, "NotADirectory", "Not a directory")
  | .isADirectory => some (21, "IsADirectory", "Is a directory")
  | .busy => some (16, "ResourceBusy", "Device or resource busy")
  | .nameTooLong => some (36, "InvalidFilename", "File name too long")
  | .nulCharacter => none
  | .notText => none

def FileFault.message (fault : FileFault) : String :=
  match fault.system? with
  | some (code, _, text) => s!"{text} (os error {code})"
  | none =>
    match fault with
    | .nulCharacter => "file name contained an unexpected NUL byte"
    | _ => "stream did not contain valid UTF-8"

def FileFault.shown (fault : FileFault) : String :=
  match fault.system? with
  | some (code, kind, text) =>
    s!"Os \x7b code: {code}, kind: {kind}, message: {Text.quoted text} \x7d"
  | none =>
    let kind := if fault = .nulCharacter then "InvalidInput" else "InvalidData"
    s!"Error \x7b kind: {kind}, message: {Text.quoted fault.message} \x7d"

inductive Failure where
  | io (fault : FileFault)
  | userAgent
  | validation (message : String)
  | fetch (url message : String)
  | selector (selector message : String)
  deriving DecidableEq, Repr

def Failure.message : Failure → String
  | .io fault => s!"I/O error: {fault.message}"
  | .userAgent => "HTTP error: builder error"
  | .validation message => s!"Validation error: {message}"
  | .fetch url message => s!"Fetch error for {url}: {message}"
  | .selector text message => s!"Invalid selector '{text}': {message}"

/-- The form that names the parts. -/
def Failure.shown : Failure → String
  | .io fault => s!"Io({fault.shown})"
  | .userAgent => "Http(Builder)"
  | .validation message => s!"Validation({Text.quoted message})"
  | .fetch url message =>
    s!"Fetch \x7b url: {Text.quoted url}, message: {Text.quoted message} \x7d"
  | .selector text message =>
    s!"Selector \x7b selector: {Text.quoted text}, message: {Text.quoted message} \x7d"

end IssueFeed
