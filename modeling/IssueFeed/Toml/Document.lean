import IssueFeed.Toml.Lexical
import IssueFeed.Toml.Table

/-!
Reading a TOML document.
-/
namespace IssueFeed.Toml

mutual

/-- A value; `depth` is how much deeper values may still stand, `fuel` bounds the parts read. -/
def value? (depth fuel : Nat) (text : List Char) : Option (Value × List Char) :=
  match fuel with
  | 0 => none
  | fuel + 1 =>
    match text with
    | [] => none
    | '"' :: _ => (string? text).map fun (s, rest) => (.string s, rest)
    | '\'' :: _ => (string? text).map fun (s, rest) => (.string s, rest)
    | '[' :: rest =>
      match depth with
      | 0 => none
      | depth + 1 =>
        (elements? depth fuel rest).map fun (values, rest) => (.array values, rest)
    | '\x7b' :: rest =>
      match depth with
      | 0 => none
      | depth + 1 =>
        match skipSpaces rest with
        | '\x7d' :: rest => some (.table [], rest)
        | rest =>
          (pairs? depth fuel (.empty .header) rest).map fun (t, rest) => (t.toValue, rest)
    | 't' :: 'r' :: 'u' :: 'e' :: rest => some (.boolean true, rest)
    | 'f' :: 'a' :: 'l' :: 's' :: 'e' :: rest => some (.boolean false, rest)
    | 'i' :: 'n' :: 'f' :: rest => some (.float "inf", rest)
    | 'n' :: 'a' :: 'n' :: rest => some (.float "NaN", rest)
    | c :: _ =>
      if c = '+' ∨ c = '-' ∨ Text.isDigit c then quantity? text else none

def elements? (depth fuel : Nat) (text : List Char) : Option (List Value × List Char) :=
  match fuel with
  | 0 => none
  | fuel + 1 =>
    match skipLines (text.length + 1) text with
    | none => none
    | some (']' :: rest) => some ([], rest)
    | some text =>
      match value? depth fuel text with
      | none => none
      | some (v, rest) =>
        match skipLines (rest.length + 1) rest with
        | some (',' :: rest) =>
          (elements? depth fuel rest).map fun (values, rest) => (v :: values, rest)
        | some (']' :: rest) => some ([v], rest)
        | _ => none

def pairs? (depth fuel : Nat) (t : Table) (text : List Char) : Option (Table × List Char) :=
  match fuel with
  | 0 => none
  | fuel + 1 =>
    match key? (text.length + 1) text with
    | some (path, '=' :: rest) =>
      if depthLimit < path.length then none
      else
        match value? depth fuel (skipSpaces rest) with
        | none => none
        | some (v, rest) =>
          match t.insert path.dropLast (path.getLast?.getD "") v with
          | none => none
          | some t =>
            match skipSpaces rest with
            | ',' :: rest => pairs? depth fuel t rest
            | '\x7d' :: rest => some (t, rest)
            | _ => none
    | _ => none

end

/-- A document as far as it is read: the root, and the table that pairs go to now with the path of
its header. Without a header that table becomes the root. -/
structure Draft where
  root : Table
  current : Table
  path : List String
  isElement : Bool

def Draft.close (draft : Draft) : Option Table :=
  match draft.path.getLast? with
  | none => some draft.current
  | some key =>
    draft.root.modifyAt false (fun parent =>
      if draft.isElement then
        match parent.find? key with
        | some (.tables ts) => some (parent.put key (.tables (draft.current :: ts)))
        | none => some (parent.put key (.tables [draft.current]))
        | _ => none
      else
        match parent.find? key with
        | some (.table t) =>
          if t.origin = .header then none else some (parent.put key (.table draft.current))
        | some _ => none
        | none => some (parent.put key (.table draft.current))) draft.path.dropLast

/-- Begins the table of a header. One that was only on the way to others is taken up again. -/
def Draft.openTable (root : Table) (path : List String) : Option Draft :=
  match path.getLast? with
  | none => none
  | some key =>
    let parentOf (t : Table) : Option Node := t.find? key
    -- the table that is taken up is moved out of the root
    let taken? : Option (Option Table) :=
      match lookUp root path.dropLast with
      | none => some none
      | some parent =>
        match parentOf parent with
        | none => some none
        | some (.table t) => if t.origin = .passed then some (some t) else none
        | some _ => none
    match taken? with
    | none => none
    | some taken =>
      match root.modifyAt false (fun parent => some (parent.remove key)) path.dropLast with
      | none => none
      | some root =>
        some ⟨root, .mk .header ((taken.map Table.entries).getD []), path, false⟩
where
  lookUp (t : Table) : List String → Option Table
    | [] => some t
    | key :: path =>
      match t.find? key with
      | some (.table inner) => lookUp inner path
      | some (.tables (last :: _)) => lookUp last path
      | _ => none

/-- Begins another table of an array. -/
def Draft.openElement (root : Table) (path : List String) : Option Draft :=
  match path.getLast? with
  | none => none
  | some key =>
    let begun := root.modifyAt false (fun parent =>
      match parent.find? key with
      | none => some (parent.put key (.tables []))
      | some (.tables _) => some parent
      | some _ => none) path.dropLast
    begun.map fun root => ⟨root, .empty .header, path, true⟩

def lines? (fuel : Nat) (draft : Draft) (text : List Char) : Option Table :=
  match fuel with
  | 0 => none
  | fuel + 1 =>
    let header (isElement : Bool) (rest : List Char) (closing : List Char) : Option Table :=
      match key? (rest.length + 1) rest with
      | none => none
      | some (path, rest) =>
        if depthLimit < path.length then none
        else
          match (Text.dropStart? closing rest).bind afterLine? with
          | none => none
          | some rest =>
            match draft.close with
            | none => none
            | some root =>
              match if isElement then Draft.openElement root path else Draft.openTable root path with
              | none => none
              | some draft => lines? fuel draft rest
    match skipSpaces text with
    | [] => draft.close
    | '\n' :: rest => lines? fuel draft rest
    | '\r' :: '\n' :: rest => lines? fuel draft rest
    | '#' :: rest =>
      match afterLine? ('#' :: rest) with
      | some rest => lines? fuel draft rest
      | none => none
    | '[' :: '[' :: rest => header true rest [']', ']']
    | '[' :: rest => header false rest [']']
    | text =>
      match key? (text.length + 1) text with
      | some (path, '=' :: rest) =>
        if depthLimit < path.length then none
        else
          match value? depthLimit (rest.length + 1) (skipSpaces rest) with
          | none => none
          | some (v, rest) =>
            match afterLine? rest, draft.current.insert path.dropLast (path.getLast?.getD "") v with
            | some rest, some current => lines? fuel { draft with current := current } rest
            | _, _ => none
      | _ => none

/-- The entries of the document that a text writes. A byte order mark may stand before it. -/
def parse? (text : String) : Option (List (String × Value)) :=
  let chars :=
    match text.toList with
    | '\uFEFF' :: rest => rest
    | chars => chars
  let root := Table.empty .header
  match (lines? (chars.length + 1) ⟨root, root, [], false⟩ chars).map Table.toValue with
  | some (.table entries) => some entries
  | _ => none

end IssueFeed.Toml
