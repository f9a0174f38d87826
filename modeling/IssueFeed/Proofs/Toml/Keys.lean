import IssueFeed.Toml.Document
import Mathlib.Data.List.Nodup

/-! The keys of a document.
In a document that can be read no key stands twice in one table, however deep the table stands.
Every step that adds to a table under construction keeps this, and so does the whole reading. -/
namespace IssueFeed.Toml

/-- No key stands twice in one table. -/
inductive Value.Keyed : Value → Prop where
  | string (s : String) : Keyed (.string s)
  | integer (z : Int) : Keyed (.integer z)
  | float (text : String) : Keyed (.float text)
  | boolean (b : Bool) : Keyed (.boolean b)
  | dateTime : Keyed .dateTime
  | array {elements : List Value} (all : ∀ v ∈ elements, Keyed v) : Keyed (.array elements)
  | table {entries : List (String × Value)} (distinct : (entries.map Prod.fst).Nodup)
      (all : ∀ entry ∈ entries, Keyed entry.2) : Keyed (.table entries)

mutual

inductive Node.Keyed : Node → Prop where
  | value {v : Value} (keyed : v.Keyed) : Node.Keyed (.value v)
  | table {t : Table} (keyed : Table.Keyed t) : Node.Keyed (.table t)
  | tables {ts : List Table} (all : ∀ t ∈ ts, Table.Keyed t) : Node.Keyed (.tables ts)

inductive Table.Keyed : Table → Prop where
  | mk {origin : Origin} {entries : List (String × Node)}
      (distinct : (entries.map Prod.fst).Nodup) (all : ∀ entry ∈ entries, Node.Keyed entry.2) :
      Table.Keyed (.mk origin entries)

end

/-! ## From tables to values -/

theorem keys_entriesToValues (entries : List (String × Node)) :
    (entriesToValues entries).map Prod.fst = entries.map Prod.fst := by
  induction entries with
  | nil => rfl
  | cons entry entries ih => rw [entriesToValues, List.map_cons, List.map_cons, ih]

mutual

theorem Table.Keyed.toValue : ∀ {t : Table}, t.Keyed → t.toValue.Keyed
  | .mk _ entries, .mk distinct all => by
    rw [Table.toValue]
    refine .table ?_ (keyed_entriesToValues entries all)
    rwa [keys_entriesToValues]

theorem Node.Keyed.toValue : ∀ {node : Node}, node.Keyed → node.toValue.Keyed
  | .value _, .value keyed => by rwa [Node.toValue]
  | .table _, .table keyed => by
    rw [Node.toValue]
    exact keyed.toValue
  | .tables ts, .tables all => by
    rw [Node.toValue]
    exact .array (keyed_tablesToValues ts [] all nofun)

theorem keyed_entriesToValues : ∀ entries : List (String × Node),
    (∀ entry ∈ entries, entry.2.Keyed) → ∀ entry ∈ entriesToValues entries, entry.2.Keyed
  | [], _ => nofun
  | (_, _) :: rest, all => by
    obtain ⟨first, others⟩ := List.forall_mem_cons.mp all
    rw [entriesToValues]
    exact List.forall_mem_cons.mpr ⟨first.toValue, keyed_entriesToValues rest others⟩

theorem keyed_tablesToValues : ∀ (ts : List Table) (done : List Value), (∀ t ∈ ts, t.Keyed) →
    (∀ v ∈ done, v.Keyed) → ∀ v ∈ tablesToValues ts done, v.Keyed
  | [], _, _, done => done
  | _ :: rest, _, all, done => by
    obtain ⟨first, others⟩ := List.forall_mem_cons.mp all
    rw [tablesToValues]
    exact keyed_tablesToValues rest _ others (List.forall_mem_cons.mpr ⟨first.toValue, done⟩)

end

/-! ## Tables under construction -/

namespace Table

variable {t changed : Table} {key : String} {node : Node}

theorem keyed_empty (origin : Origin) : (empty origin).Keyed :=
  .mk List.nodup_nil nofun

theorem Keyed.entries (keyed : t.Keyed) :
    (t.entries.map Prod.fst).Nodup ∧ ∀ entry ∈ t.entries, entry.2.Keyed := by
  cases keyed with
  | mk distinct all => exact ⟨distinct, all⟩

theorem Keyed.find? (keyed : t.Keyed) (found : t.find? key = some node) : node.Keyed := by
  obtain ⟨before, after, split, -⟩ := List.lookup_eq_some_iff.mp found
  exact keyed.entries.2 (key, node) (by rw [split]; simp)

theorem mem_putIn {entries : List (String × Node)} {entry : String × Node}
    (member : entry ∈ putIn key node entries) : entry = (key, node) ∨ entry ∈ entries := by
  induction entries with
  | nil => exact .inl (List.mem_singleton.mp member)
  | cons first entries ih =>
    rw [putIn] at member
    split_ifs at member
    · rcases List.mem_cons.mp member with same | later
      · exact .inl same
      · exact .inr (List.mem_cons_of_mem first later)
    · rcases List.mem_cons.mp member with same | later
      · exact .inr (List.mem_cons.mpr (.inl same))
      · exact (ih later).imp_right (List.mem_cons_of_mem first)

theorem nodup_putIn {entries : List (String × Node)} (distinct : (entries.map Prod.fst).Nodup) :
    ((putIn key node entries).map Prod.fst).Nodup := by
  induction entries with
  | nil => exact List.nodup_singleton key
  | cons first entries ih =>
    obtain ⟨new, later⟩ := List.nodup_cons.mp distinct
    rw [putIn]
    split_ifs with same
    · rw [List.map_cons, List.nodup_cons]
      exact ⟨same ▸ new, later⟩
    · rw [List.map_cons, List.nodup_cons]
      refine ⟨fun member => ?_, ih later⟩
      obtain ⟨entry, put, named⟩ := List.mem_map.mp member
      rcases mem_putIn put with rfl | old
      · exact same named.symm
      · exact new (List.mem_map.mpr ⟨entry, old, named⟩)

theorem Keyed.put (keyed : t.Keyed) (new : node.Keyed) (key : String) : (t.put key node).Keyed := by
  refine .mk (nodup_putIn keyed.entries.1) fun entry member => ?_
  rcases mem_putIn member with rfl | old
  · exact new
  · exact keyed.entries.2 entry old

theorem Keyed.remove (keyed : t.Keyed) (key : String) : (t.remove key).Keyed := by
  refine .mk (keyed.entries.1.sublist ?_) fun entry member => ?_
  · exact List.filter_sublist.map Prod.fst
  · exact keyed.entries.2 entry (List.mem_filter.mp member).1

theorem Keyed.modifyAt {dotted : Bool} {change : Table → Option Table}
    (keeps : ∀ {t changed : Table}, t.Keyed → change t = some changed → changed.Keyed)
    {path : List String} (keyed : t.Keyed)
    (modified : t.modifyAt dotted change path = some changed) : changed.Keyed := by
  induction path generalizing t changed with
  | nil => exact keeps keyed modified
  | cons key path ih =>
    rw [Table.modifyAt] at modified
    split at modified
    · obtain ⟨inner, within, rfl⟩ := Option.map_eq_some_iff.mp modified
      exact keyed.put (.table (ih (keyed_empty _) within)) key
    · cases modified
    · cases modified
    · rename_i last others found
      obtain ⟨inner, within, rfl⟩ := Option.map_eq_some_iff.mp modified
      cases keyed.find? found with
      | tables all =>
        obtain ⟨newest, older⟩ := List.forall_mem_cons.mp all
        exact keyed.put (.tables (List.forall_mem_cons.mpr ⟨ih newest within, older⟩)) key
    · rename_i inner found
      split_ifs at modified
      obtain ⟨inner, within, rfl⟩ := Option.map_eq_some_iff.mp modified
      cases keyed.find? found with
      | table old => exact keyed.put (.table (ih old within)) key

theorem Keyed.insert {path : List String} {v : Value} (keyed : t.Keyed) (new : v.Keyed)
    (inserted : t.insert path key v = some changed) : changed.Keyed := by
  refine Keyed.modifyAt (fun inner change => ?_) keyed inserted
  split_ifs at change
  split at change
  · cases change
  · cases change
    exact inner.put (.value new) key

end Table

/-! ## Values -/

variable {text rest : List Char} {v : Value}

theorem integerValue?_keyed {base : Nat} {negative : Bool} {digits : List Char}
    (read : integerValue? base negative digits = some v) : v.Keyed := by
  unfold integerValue? at read
  split at read
  · obtain ⟨-, same⟩ := Option.ite_none_right_eq_some.mp read
    cases same
    exact .integer _
  · cases read

theorem integer?_keyed (read : integer? text = some (v, rest)) : v.Keyed := by
  have known {found : Option Value} {after : List Char}
      (each : ∀ w, found = some w → w.Keyed) (same : found.map (·, after) = some (v, rest)) :
      v.Keyed := by
    obtain ⟨w, held, pair⟩ := Option.map_eq_some_iff.mp same
    cases pair
    exact each _ held
  unfold integer? at read
  dsimp only at read
  -- Whatever the base, digits are read and a value is made of them.
  split at read
  all_goals
    split at read
    · exact known (fun _ => integerValue?_keyed) read
    · cases read

theorem float?_keyed (read : float? text = .found v rest) : v.Keyed := by
  unfold float? at read
  dsimp only at read
  repeat' split at read
  all_goals cases read
  all_goals exact .float _

theorem dateTime?_keyed (read : dateTime? text = .found v rest) : v.Keyed := by
  unfold dateTime? at read
  repeat' split at read
  all_goals cases read
  all_goals exact .dateTime

theorem namedFloat?_keyed (read : namedFloat? text = some (v, rest)) : v.Keyed := by
  unfold namedFloat? at read
  dsimp only at read
  split at read <;> cases read <;> exact .float _

theorem quantity?_keyed (read : quantity? text = some (v, rest)) : v.Keyed := by
  unfold quantity? at read
  split at read
  · cases read
  · rename_i dated
    cases read
    exact dateTime?_keyed dated
  · split at read
    · cases read
    · rename_i fraction
      cases read
      exact float?_keyed fraction
    · split at read
      · rename_i named
        cases read
        exact namedFloat?_keyed named
      · exact integer?_keyed read

/-- No key stands twice in what the readers of values give that may read so many more parts. -/
structure ReadersKeyed (fuel : Nat) : Prop where
  value : ∀ {depth text v rest}, value? depth fuel text = some (v, rest) → v.Keyed
  elements : ∀ {depth text vs rest}, elements? depth fuel text = some (vs, rest) →
    ∀ v ∈ vs, v.Keyed
  pairs : ∀ {depth t text changed rest}, t.Keyed → pairs? depth fuel t text = some (changed, rest) →
    changed.Keyed

namespace ReadersKeyed

variable {fuel depth : Nat}

theorem value_succ (readers : ReadersKeyed fuel)
    (read : value? depth (fuel + 1) text = some (v, rest)) : v.Keyed := by
  unfold value? at read
  split at read
  case h_1 => cases read
  case h_2 =>
    obtain ⟨_, -, pair⟩ := Option.map_eq_some_iff.mp read
    cases pair
    exact .string _
  case h_3 =>
    obtain ⟨_, -, pair⟩ := Option.map_eq_some_iff.mp read
    cases pair
    exact .string _
  case h_4 =>
    split at read
    · cases read
    · obtain ⟨_, within, pair⟩ := Option.map_eq_some_iff.mp read
      cases pair
      exact .array (readers.elements within)
  case h_5 =>
    split at read
    · cases read
    · split at read
      · cases read
        exact .table List.nodup_nil nofun
      · obtain ⟨_, within, pair⟩ := Option.map_eq_some_iff.mp read
        cases pair
        exact (readers.pairs (Table.keyed_empty _) within).toValue
  case h_10 =>
    split_ifs at read
    exact quantity?_keyed read
  all_goals cases read
  · exact .boolean _
  · exact .boolean _
  · exact .float _
  · exact .float _

theorem elements_succ (readers : ReadersKeyed fuel) {vs : List Value}
    (read : elements? depth (fuel + 1) text = some (vs, rest)) : ∀ v ∈ vs, v.Keyed := by
  unfold elements? at read
  split at read
  · cases read
  · cases read
    exact nofun
  · split at read
    · cases read
    · rename_i first _ head
      have keyed : first.Keyed := readers.value head
      split at read
      · obtain ⟨_, later, pair⟩ := Option.map_eq_some_iff.mp read
        cases pair
        exact List.forall_mem_cons.mpr ⟨keyed, readers.elements later⟩
      · cases read
        exact List.forall_mem_cons.mpr ⟨keyed, nofun⟩
      · cases read

theorem pairs_succ (readers : ReadersKeyed fuel) {t changed : Table} (keyed : t.Keyed)
    (read : pairs? depth (fuel + 1) t text = some (changed, rest)) : changed.Keyed := by
  unfold pairs? at read
  split at read
  · split_ifs at read
    split at read
    · cases read
    · rename_i new _ head
      split at read
      · cases read
      · rename_i larger inserted
        have kept : larger.Keyed := keyed.insert (readers.value head) inserted
        split at read
        · exact readers.pairs kept read
        · cases read
          exact kept
        · cases read
  · cases read

end ReadersKeyed

/-- The readers of values call each other, so the induction is for all of them at once. -/
theorem readersKeyed (fuel : Nat) : ReadersKeyed fuel := by
  induction fuel with
  | zero =>
    refine ⟨fun read => ?_, fun read => ?_, fun _ read => ?_⟩
    · rw [value?] at read
      cases read
    · rw [elements?] at read
      cases read
    · rw [pairs?] at read
      cases read
  | succ fuel ih => exact ⟨ih.value_succ, ih.elements_succ, ih.pairs_succ⟩

/-! ## Documents -/

namespace Draft

structure Keyed (draft : Draft) : Prop where
  root : draft.root.Keyed
  current : draft.current.Keyed

variable {draft : Draft} {t : Table} {path : List String}

theorem Keyed.close (keyed : draft.Keyed) (closed : draft.close = some t) : t.Keyed := by
  unfold Draft.close at closed
  split at closed
  · cases closed
    exact keyed.current
  · rename_i key _
    refine Table.Keyed.modifyAt (fun parent change => ?_) keyed.root closed
    split_ifs at change
    · split at change
      · rename_i ts found
        cases change
        cases parent.find? found with
        | tables all =>
          exact parent.put (.tables (List.forall_mem_cons.mpr ⟨keyed.current, all⟩)) key
      · cases change
        exact parent.put (.tables (List.forall_mem_singleton.mpr keyed.current)) key
      · cases change
    · split at change
      · split_ifs at change
        cases change
        exact parent.put (.table keyed.current) key
      · cases change
      · cases change
        exact parent.put (.table keyed.current) key

theorem keyed_lookUp {inner : Table} (keyed : t.Keyed)
    (found : openTable.lookUp t path = some inner) : inner.Keyed := by
  induction path generalizing t with
  | nil =>
    cases found
    exact keyed
  | cons key path ih =>
    rw [openTable.lookUp] at found
    split at found
    · rename_i within
      cases keyed.find? within with
      | table below => exact ih below found
    · rename_i within
      cases keyed.find? within with
      | tables all => exact ih (List.forall_mem_cons.mp all).1 found
    · cases found

theorem keyed_openTable {root : Table} (keyed : root.Keyed)
    (opened : openTable root path = some draft) : draft.Keyed := by
  unfold openTable at opened
  dsimp only at opened
  split at opened
  · cases opened
  · split at opened
    · cases opened
    · rename_i taken held
      -- Only a table that was on the way to others is taken up, with its entries.
      have old : ∀ within, taken = some within → within.Keyed := by
        rintro within rfl
        split at held
        · cases held
        · rename_i parent reached
          split at held
          · cases held
          · rename_i found
            split_ifs at held
            cases held
            cases (keyed_lookUp keyed reached).find? found with
            | table below => exact below
          · cases held
      split at opened
      · cases opened
      · rename_i smaller modified
        cases opened
        refine ⟨Table.Keyed.modifyAt (fun parent change => ?_) keyed modified, ?_⟩
        · cases change
          exact parent.remove _
        · cases taken with
          | none => exact Table.keyed_empty _
          | some within => exact .mk (old within rfl).entries.1 (old within rfl).entries.2

theorem keyed_openElement {root : Table} (keyed : root.Keyed)
    (opened : openElement root path = some draft) : draft.Keyed := by
  unfold openElement at opened
  split at opened
  · cases opened
  · rename_i key _
    obtain ⟨begun, modified, rfl⟩ := Option.map_eq_some_iff.mp opened
    refine ⟨Table.Keyed.modifyAt (fun parent change => ?_) keyed modified, Table.keyed_empty _⟩
    split at change
    · cases change
      exact parent.put (.tables (List.forall_mem_nil _)) key
    · cases change
      exact parent
    · cases change

theorem keyed_begun {isElement : Bool} {root : Table} (keyed : root.Keyed)
    (begun : (if isElement then openElement root path else openTable root path) = some draft) :
    draft.Keyed := by
  split_ifs at begun
  · exact keyed_openElement keyed begun
  · exact keyed_openTable keyed begun

end Draft

theorem lines?_keyed {fuel : Nat} {draft : Draft} {t : Table} (keyed : draft.Keyed)
    (read : lines? fuel draft text = some t) : t.Keyed := by
  induction fuel generalizing draft text with
  | zero =>
    rw [lines?] at read
    cases read
  | succ fuel ih =>
    unfold lines? at read
    dsimp only at read
    split at read
    case h_1 => exact keyed.close read
    case h_2 => exact ih keyed read
    case h_3 => exact ih keyed read
    case h_4 =>
      split at read
      · exact ih keyed read
      · cases read
    case h_5 | h_6 =>
      split at read
      · cases read
      · split at read
        · cases read
        · split at read
          · cases read
          · split at read
            · cases read
            · rename_i root closed
              split at read
              · cases read
              · rename_i next begun
                exact ih (Draft.keyed_begun (keyed.close closed) begun) read
    case h_7 =>
      split at read
      · split_ifs at read
        split at read
        · cases read
        · rename_i new _ given
          split at read
          · rename_i larger _ inserted
            have kept := keyed.current.insert ((readersKeyed _).value given) inserted
            refine ih ?_ read
            exact ⟨keyed.root, kept⟩
          · cases read
      · cases read

/-- In a document that can be read no key stands twice in one table. -/
theorem parse?_keyed {text : String} {entries : List (String × Value)}
    (read : parse? text = some entries) : (Value.table entries).Keyed := by
  unfold parse? at read
  extract_lets chars root at read
  split at read
  · rename_i found
    cases read
    obtain ⟨whole, finished, same⟩ := Option.map_eq_some_iff.mp found
    rw [← same]
    have start : Draft.Keyed ⟨root, root, [], false⟩ :=
      ⟨Table.keyed_empty _, Table.keyed_empty _⟩
    exact (lines?_keyed start finished).toValue
  · cases read

end IssueFeed.Toml
