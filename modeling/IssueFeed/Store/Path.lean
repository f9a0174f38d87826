import IssueFeed.Text.Blank

/-!
Paths of files. A path is a list of steps, from the root or from the working directory; what it is
called and where its parent lies is read off the steps, without looking at any directory.
-/
namespace IssueFeed.Store

inductive Step where
  | name (text : String)
  | here
  | up
  deriving DecidableEq, Repr

structure Path where
  absolute : Bool
  steps : List Step
  /-- A slash stands at the end, so the path can only lead to a directory. -/
  closed : Bool
  deriving DecidableEq, Repr

namespace Path

def stepOf (piece : List Char) : Option Step :=
  if piece.isEmpty then none
  else if piece = ['.'] then some .here
  else if piece = ['.', '.'] then some .up
  else some (.name (String.ofList piece))

def ofText (text : String) : Path :=
  let pieces := Text.splitOn (· == '/') text.toList
  let steps := pieces.filterMap stepOf
  { absolute := pieces.head? = some [] && 1 < pieces.length
    steps := steps
    closed := pieces.getLast? = some [] && !steps.isEmpty }

/-- The steps that a path consists of: to stay where one is counts only at the beginning. -/
def components (path : Path) : List Step :=
  match path.steps with
  | .here :: rest =>
    let rest := rest.filter (· ≠ .here)
    if path.absolute then rest else .here :: rest
  | steps => steps.filter (· ≠ .here)

def parent? (path : Path) : Option Path :=
  if path.components.isEmpty then none
  else some ⟨path.absolute, path.components.dropLast, false⟩

def isEmpty (path : Path) : Bool :=
  path.steps.isEmpty && !path.absolute

/-- A name without its extension: what stands before the last point, unless nothing does. -/
def stem (name : List Char) : List Char :=
  match name.reverse.dropWhile (· != '.') with
  | '.' :: before => if before.isEmpty then name else before.reverse
  | _ => name

/-- The path beside this one that has another extension, if this one ends in a name. -/
def withExtension (extension : String) (path : Path) : Path :=
  match path.components.getLast? with
  | some (.name name) =>
    { path with
      steps := path.components.dropLast ++
        [.name (String.ofList (stem name.toList ++ '.' :: extension.toList))]
      closed := false }
  | _ => path

/-- The path and the paths that it passes through, the longest first. -/
def prefixes (path : Path) : List Path :=
  ((List.range path.components.length).map fun n =>
    ⟨path.absolute, path.components.take (n + 1), false⟩).reverse

end Path
end IssueFeed.Store
