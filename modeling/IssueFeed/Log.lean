/-!
What a run reports while it works.
-/
namespace IssueFeed

inductive Level where
  | error
  | warn
  | info
  | debug
  deriving DecidableEq, Repr

structure Report where
  level : Level
  message : String
  deriving DecidableEq, Repr

/-- Reports in the order in which they were made. -/
abbrev Log := List Report

def Level.name : Level → String
  | .error => "ERROR"
  | .warn => "WARN"
  | .info => "INFO"
  | .debug => "DEBUG"

end IssueFeed
