import IssueFeed.Log
import IssueFeed.Store.Disk

/-!
The feed's file. It is replaced by writing a temporary file beside it and renaming that, so that a
feed is put in its place as a whole.
-/
namespace IssueFeed.Store

inductive Effect where
  /-- Makes a directory unless there is one. -/
  | directory (path : Path)
  | create (path : Path)
  | append (path : Path) (bytes : ByteArray)
  /-- Waits until what was written is safe. -/
  | sync (path : Path)
  | rename (source destination : Path)

def Effect.apply (disk : Disk) : Effect → Except FileFault Disk
  | .directory path =>
    match disk.makeDirectory path with
    | .ok disk => .ok disk
    | .error fault => if disk.isDirectory path then .ok disk else .error fault
  | .create path => disk.create path
  | .append path bytes => disk.append path bytes
  | .sync _ => .ok disk
  | .rename source destination => disk.rename source destination

/-- Carries out effects up to the first that fails; what was done before it stays done. -/
def carryOut (disk : Disk) : List Effect → Disk × Option FileFault
  | [] => (disk, none)
  | effect :: rest =>
    match effect.apply disk with
    | .ok next => carryOut next rest
    | .error fault => (disk, some fault)

/-- The directories to make so that the longest of these paths is one: only where a path leads
nowhere is the one before it looked at. -/
def directoriesToMake (disk : Disk) : List Path → List Path
  | [] => []
  | path :: shorter =>
    match disk.makeDirectory path with
    | .error .notFound => directoriesToMake disk shorter ++ [path]
    | .error _ => if disk.isDirectory path then [] else [path]
    | .ok _ => [path]

def temporary (path : Path) : Path := path.withExtension "tmp"

def prepareEffects (disk : Disk) (path : Path) : List Effect :=
  match path.parent? with
  | some parent => (directoriesToMake disk parent.prefixes).map .directory
  | none => []

def writeEffects (disk : Disk) (path : Path) (bytes : ByteArray) : List Effect :=
  prepareEffects disk path ++
    [.create (temporary path), .append (temporary path) bytes, .sync (temporary path),
      .rename (temporary path) path]

def replace (disk : Disk) (path : Path) (bytes : ByteArray) : Disk × Option FileFault :=
  carryOut disk (writeEffects disk path bytes)

/-- A feed's bytes, or none where there is no file. -/
def readFeed (disk : Disk) (location : String) : Except Failure (Option ByteArray) × Log :=
  match disk.read (Path.ofText location) with
  | .ok bytes => (.ok (some bytes), [])
  | .error .notFound => (.ok none, [⟨.info, s!"No feed found at {location}"⟩])
  | .error fault => (.error (.io fault), [])

structure Written where
  bytesWritten : Nat
  location : String
  deriving DecidableEq, Repr

def writeFeed (disk : Disk) (location : String) (bytes : ByteArray) :
    Except Failure Written × Log × Disk :=
  match replace disk (Path.ofText location) bytes with
  | (disk, none) =>
    (.ok ⟨bytes.size, location⟩, [⟨.debug, s!"Wrote {bytes.size} bytes to {location}"⟩], disk)
  | (disk, some fault) => (.error (.io fault), [], disk)

end IssueFeed.Store
