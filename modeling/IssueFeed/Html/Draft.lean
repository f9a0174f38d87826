import IssueFeed.Html.Tree

/-!
A tree while it is built. Its nodes are numbered in the order in which they are made and may be
moved about; number 0 is the page itself.
-/
namespace IssueFeed.Html

inductive Vocabulary where
  | html
  | mathml
  | svg
  deriving DecidableEq, Repr

namespace Draft

inductive Piece where
  | text (content : String)
  | element (number : Nat)
  deriving DecidableEq, Repr, Inhabited

structure Entry where
  name : String
  attributes : List (String × String)
  parent : Option Nat := none
  content : Array Piece := #[]
  deriving Repr

end Draft

structure Draft where
  entries : Array Draft.Entry

namespace Draft

def empty : Draft := ⟨#[⟨"", [], none, #[]⟩]⟩

def parent? (draft : Draft) (number : Nat) : Option Nat :=
  (draft.entries[number]?).bind (·.parent)

/-- The number of the element that is made next. -/
def next (draft : Draft) : Nat :=
  draft.entries.size

/-- Makes an element that is not yet part of the tree. -/
def make (draft : Draft) (name : String) (attributes : List (String × String)) : Draft :=
  ⟨draft.entries.push ⟨name, attributes, none, #[]⟩⟩

def setParent (draft : Draft) (number : Nat) (parent : Option Nat) : Draft :=
  ⟨draft.entries.modify number fun entry => { entry with parent := parent }⟩

def changeContent (draft : Draft) (number : Nat) (change : Array Piece → Array Piece) : Draft :=
  ⟨draft.entries.modify number fun entry => { entry with content := change entry.content }⟩

def detach (draft : Draft) (number : Nat) : Draft :=
  match draft.parent? number with
  | none => draft
  | some parent =>
    (draft.changeContent parent (·.filter (· ≠ .element number))).setParent number none

def append (draft : Draft) (parent number : Nat) : Draft :=
  ((draft.detach number).changeContent parent (·.push (.element number))).setParent number
    (some parent)

def appendText (draft : Draft) (parent : Nat) (text : String) : Draft :=
  draft.changeContent parent (·.push (.text text))

/-- Content with a piece put before the place of an element. -/
def before (number : Nat) (piece : Piece) (content : Array Piece) : Array Piece :=
  content.flatMap fun other => if other = .element number then #[piece, other] else #[other]

/-- Puts an element before another, if that is in a place. -/
def insertBefore (draft : Draft) (sibling number : Nat) : Draft :=
  let draft := draft.detach number
  match draft.parent? sibling with
  | none => draft
  | some parent =>
    (draft.changeContent parent (before sibling (.element number))).setParent number (some parent)

def insertTextBefore (draft : Draft) (sibling : Nat) (text : String) : Draft :=
  match draft.parent? sibling with
  | none => draft
  | some parent => draft.changeContent parent (before sibling (.text text))

def content (draft : Draft) (number : Nat) : Array Piece :=
  match draft.entries[number]? with
  | some entry => entry.content
  | none => #[]

/-- Moves all that is in one element into another, behind what is there. -/
def moveContent (draft : Draft) (source target : Nat) : Draft :=
  let pieces := draft.content source
  let draft := (draft.changeContent source fun _ => #[]).changeContent target (· ++ pieces)
  pieces.foldl (fun draft piece =>
    match piece with
    | .element number => draft.setParent number (some target)
    | .text _ => draft) draft

/-- The finished content of an element, and the finished elements below it with their numbers put
before those `found`. No element is below itself, so as many steps down as there are elements are
enough. -/
def finish (draft : Draft) : Nat → Nat → List (Nat × Element) → List Node × List (Nat × Element)
  | 0, _, found => ([], found)
  | steps + 1, number, found =>
    (draft.content number).foldr (fun piece (nodes, found) =>
      match piece with
      | .text text => (.text text :: nodes, found)
      | .element child =>
        match draft.entries[child]? with
        | none => (nodes, found)
        | some entry =>
          let (children, found) := finish draft steps child found
          (.element entry.name entry.attributes children :: nodes,
            (child, ⟨entry.name, entry.attributes, children⟩) :: found)) ([], found)

def nodesOf (draft : Draft) (number : Nat) : List Node :=
  (draft.finish draft.entries.size number []).1

/-- The numbers of what is in no place. -/
def roots (draft : Draft) : List Nat :=
  (List.range draft.entries.size).filter fun number => (draft.parent? number).isNone

/-- All elements that are in some place, in the order in which they were made. -/
def document (draft : Draft) : Document :=
  let found := draft.roots.flatMap fun root => (draft.finish draft.entries.size root []).2
  ⟨(found.mergeSort (fun a b => a.1 ≤ b.1)).map (·.2)⟩

end Draft
end IssueFeed.Html
