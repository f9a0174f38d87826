import IssueFeed.Toml.Value

/-!
Tables under construction. A table is begun by a header, by a dotted key, or merely by being on the
way to another; which of these decides whether it may be added to.
-/
namespace IssueFeed.Toml

inductive Origin where
  | header
  /-- On the way to the table of a header. -/
  | passed
  | dottedKey
  deriving DecidableEq, Repr

mutual

inductive Node where
  | value (v : Value)
  | table (t : Table)
  /-- An array of tables begun by headers, the last one first. -/
  | tables (ts : List Table)

inductive Table where
  | mk (origin : Origin) (entries : List (String × Node))

end

namespace Table

def origin : Table → Origin
  | .mk origin _ => origin

def entries : Table → List (String × Node)
  | .mk _ entries => entries

def empty (origin : Origin) : Table := .mk origin []

def find? (t : Table) (key : String) : Option Node :=
  t.entries.lookup key

/-- The entries with the node of a key replaced, or added at the end. -/
def putIn (key : String) (node : Node) : List (String × Node) → List (String × Node)
  | [] => [(key, node)]
  | (k, n) :: rest => if k = key then (key, node) :: rest else (k, n) :: putIn key node rest

def put (t : Table) (key : String) (node : Node) : Table :=
  .mk t.origin (putIn key node t.entries)

def remove (t : Table) (key : String) : Table :=
  .mk t.origin (t.entries.filter (·.1 ≠ key))

/-- Changes the table that a path leads to; tables on the way are made where they are missing. A
dotted key does not lead into the table of a header, and nothing leads into a value. -/
def modifyAt (dotted : Bool) (change : Table → Option Table) : List String → Table → Option Table
  | [], t => change t
  | key :: path, t =>
    match t.find? key with
    | none =>
      (modifyAt dotted change path (.empty (if dotted then .dottedKey else .passed))).map
        fun inner => t.put key (.table inner)
    | some (.value _) => none
    | some (.tables []) => none
    | some (.tables (last :: others)) =>
      (modifyAt dotted change path last).map fun inner => t.put key (.tables (inner :: others))
    | some (.table inner) =>
      if dotted && inner.origin = .header then none
      else (modifyAt dotted change path inner).map fun inner => t.put key (.table inner)

/-- The table with a value under a dotted key, which must be new there. -/
def insert (path : List String) (key : String) (v : Value) (t : Table) : Option Table :=
  modifyAt true (fun inner =>
    if decide (inner.origin = .dottedKey) == path.isEmpty then none
    else
      match inner.find? key with
      | some _ => none
      | none => some (inner.put key (.value v))) path t

end Table

mutual

def Table.toValue : Table → Value
  | .mk _ entries => .table (entriesToValues entries)

def Node.toValue : Node → Value
  | .value v => v
  | .table t => t.toValue
  | .tables ts => .array (tablesToValues ts []) 

def entriesToValues : List (String × Node) → List (String × Value)
  | [] => []
  | (key, node) :: rest => (key, node.toValue) :: entriesToValues rest

/-- The tables of an array in their order; `done` are those after them. -/
def tablesToValues : List Table → List Value → List Value
  | [], done => done
  | t :: rest, done => tablesToValues rest (t.toValue :: done)

end

end IssueFeed.Toml
