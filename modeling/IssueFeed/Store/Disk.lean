import IssueFeed.Failure
import IssueFeed.Store.Path

/-!
A tree of directories and files, and the system's operations on it: reading a file, making a
directory, creating, extending and renaming a file. Each either changes the tree as it says or fails
and leaves it alone.
-/
namespace IssueFeed.Store

/-- A place in the tree: the names from the root. -/
abbrev Location := List String

inductive Entry where
  | file (bytes : ByteArray)
  | directory

instance : DecidableEq Entry
  | .file a, .file b =>
    if same : a.data = b.data then isTrue (congrArg Entry.file (ByteArray.ext same))
    else isFalse fun equal => same (congrArg ByteArray.data (Entry.file.inj equal))
  | .directory, .directory => isTrue rfl
  | .file _, .directory => isFalse nofun
  | .directory, .file _ => isFalse nofun

structure Disk where
  entries : List (Location × Entry)
  working : Location
  deriving DecidableEq

namespace Disk

/-- What is at a place. The root is always a directory. -/
def get? (disk : Disk) (place : Location) : Option Entry :=
  if place.isEmpty then some .directory else disk.entries.lookup place

def erase (disk : Disk) (place : Location) : Disk :=
  { disk with entries := disk.entries.filter (·.1 ≠ place) }

def put (disk : Disk) (place : Location) (entry : Entry) : Disk :=
  { disk with entries := (place, entry) :: (disk.erase place).entries }

def isDirectoryAt (disk : Disk) (place : Location) : Bool :=
  disk.get? place = some .directory

/-- The longest name of a file in bytes, and the longest path. -/
def longestName : Nat := 255

def longestPath : Nat := 4095

/-- Goes one step from a directory; the step must lead to something. -/
def walkStep (disk : Disk) (place : Location) (step : Step) : Except FileFault Location :=
  if !disk.isDirectoryAt place then .error .notADirectory
  else
    match step with
    | .here => .ok place
    | .up => .ok place.dropLast
    | .name name =>
      if longestName < name.utf8ByteSize then .error .nameTooLong
      else if (disk.get? (place ++ [name])).isNone then .error .notFound
      else .ok (place ++ [name])

def walk (disk : Disk) (place : Location) : List Step → Except FileFault Location
  | [] => .ok place
  | step :: rest =>
    match disk.walkStep place step with
    | .ok next => disk.walk next rest
    | .error fault => .error fault

/-- Where a path ends: at a directory that it names by its position, or at a name in a directory,
where there may or may not be something. -/
inductive Target where
  | position (place : Location)
  | name (directory : Location) (name : String) (closed : Bool)
  deriving DecidableEq, Repr

def pathLength (path : Path) : Nat :=
  let lengths := path.steps.map fun step =>
    match step with
    | .name name => name.utf8ByteSize
    | .here => 1
    | .up => 2
  lengths.foldl (· + ·) 0 + (lengths.length - 1) + (if path.absolute then 1 else 0) +
    (if path.closed then 1 else 0)

/-- The end of a path; all directories on the way must be there. -/
def target (disk : Disk) (path : Path) : Except FileFault Target :=
  if path.steps.any fun step =>
      match step with
      | .name name => name.toList.contains '\x00'
      | _ => false then .error .nulCharacter
  else if longestPath < pathLength path then .error .nameTooLong
  else if path.isEmpty then .error .notFound
  else
    match disk.walk (if path.absolute then [] else disk.working) path.steps.dropLast with
    | .error fault => .error fault
    | .ok place =>
      match path.steps.getLast? with
      | none => .ok (.position place)
      | some (.name name) =>
        if !disk.isDirectoryAt place then .error .notADirectory
        else if longestName < name.utf8ByteSize then .error .nameTooLong
        else .ok (.name place name path.closed)
      | some step =>
        match disk.walkStep place step with
        | .ok place => .ok (.position place)
        | .error fault => .error fault

def read (disk : Disk) (path : Path) : Except FileFault ByteArray :=
  match disk.target path with
  | .error fault => .error fault
  | .ok (.position _) => .error .isADirectory
  | .ok (.name directory name closed) =>
    match disk.get? (directory ++ [name]) with
    | none => .error .notFound
    | some .directory => .error .isADirectory
    | some (.file bytes) => if closed then .error .notADirectory else .ok bytes

def isDirectory (disk : Disk) (path : Path) : Bool :=
  match disk.target path with
  | .error _ => false
  | .ok (.position place) => disk.isDirectoryAt place
  | .ok (.name directory name _) => disk.isDirectoryAt (directory ++ [name])

def makeDirectory (disk : Disk) (path : Path) : Except FileFault Disk :=
  match disk.target path with
  | .error fault => .error fault
  | .ok (.position _) => .error .alreadyExists
  | .ok (.name directory name _) =>
    match disk.get? (directory ++ [name]) with
    | some _ => .error .alreadyExists
    | none => .ok (disk.put (directory ++ [name]) .directory)

/-- Creates a file, or empties the one that is there. -/
def create (disk : Disk) (path : Path) : Except FileFault Disk :=
  match disk.target path with
  | .error fault => .error fault
  | .ok (.position _) => .error .isADirectory
  | .ok (.name directory name closed) =>
    if closed then .error .isADirectory
    else
      match disk.get? (directory ++ [name]) with
      | some .directory => .error .isADirectory
      | _ => .ok (disk.put (directory ++ [name]) (.file .empty))

def append (disk : Disk) (path : Path) (bytes : ByteArray) : Except FileFault Disk :=
  match disk.target path with
  | .error fault => .error fault
  | .ok (.position _) => .error .isADirectory
  | .ok (.name directory name _) =>
    match disk.get? (directory ++ [name]) with
    | none => .error .notFound
    | some .directory => .error .isADirectory
    | some (.file before) => .ok (disk.put (directory ++ [name]) (.file (before ++ bytes)))

/-- Moves a file to another place, over the file that may be there. -/
def rename (disk : Disk) (source destination : Path) : Except FileFault Disk :=
  match disk.target source, disk.target destination with
  | .error fault, _ => .error fault
  | _, .error fault => .error fault
  | .ok (.position _), _ => .error .busy
  | _, .ok (.position _) => .error .busy
  | .ok (.name fromDirectory fromName _), .ok (.name toDirectory toName closed) =>
    match disk.get? (fromDirectory ++ [fromName]) with
    | none => .error .notFound
    | some .directory => .error .isADirectory
    | some (.file bytes) =>
      if closed then .error .notADirectory
      else if disk.isDirectoryAt (toDirectory ++ [toName]) then .error .isADirectory
      else
        .ok ((disk.erase (fromDirectory ++ [fromName])).put (toDirectory ++ [toName])
          (.file bytes))

/-- A disk on which there is nothing but an empty working directory. -/
def fresh (working : Location) : Disk :=
  let places := (List.range working.length).map fun n => working.take (n + 1)
  ⟨places.map fun place => (place, .directory), working⟩

end Disk
end IssueFeed.Store
