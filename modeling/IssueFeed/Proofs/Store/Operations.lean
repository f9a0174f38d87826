import IssueFeed.Proofs.Store.Tree

/-! What the operations on a disk do when they succeed, and what they leave as it was. -/
namespace IssueFeed.Store.Disk

variable {disk after : Disk} {place : Location} {path : Path}

/-- Nothing that is on the one disk is lost or changed on the other. -/
structure Grows (disk other : Disk) : Prop where
  working : other.working = disk.working
  kept : ∀ {place entry}, disk.get? place = some entry → other.get? place = some entry

theorem Grows.refl (disk : Disk) : Grows disk disk :=
  ⟨rfl, id⟩

theorem Grows.trans {other third : Disk} (first : Grows disk other) (second : Grows other third) :
    Grows disk third :=
  ⟨second.working.trans first.working, fun h => second.kept (first.kept h)⟩

theorem Grows.directories {other : Disk} (grows : Grows disk other) : DirectoriesStay disk other :=
  ⟨grows.working, fun _ h => isDirectoryAt_iff.mpr (grows.kept (isDirectoryAt_iff.mp h))⟩

theorem makeDirectory_ok (h : disk.makeDirectory path = .ok after) :
    ∃ directory name closed, disk.target path = .ok (.name directory name closed) ∧
      disk.get? (directory ++ [name]) = none ∧
      after = disk.put (directory ++ [name]) .directory := by
  unfold makeDirectory at h
  split at h
  · cases h
  · cases h
  · rename_i directory name closed led
    split at h
    · cases h
    · rename_i nothing
      cases h
      exact ⟨directory, name, closed, led, nothing, rfl⟩

theorem makeDirectory_grows (h : disk.makeDirectory path = .ok after) : Grows disk after := by
  obtain ⟨directory, name, closed, -, nothing, rfl⟩ := makeDirectory_ok h
  refine ⟨rfl, fun {place entry} there => ?_⟩
  have other : place ≠ directory ++ [name] := by
    rintro rfl
    rw [nothing] at there
    cases there
  rw [get?_put _ _ _ (by simp), if_neg other]
  exact there

theorem makeDirectory_isDirectory (h : disk.makeDirectory path = .ok after) :
    after.isDirectory path = true := by
  have stay := (makeDirectory_grows h).directories
  obtain ⟨directory, name, closed, led, -, rfl⟩ := makeDirectory_ok h
  rw [isDirectory_of_target (stay.target led)]
  exact isDirectoryAt_iff.mpr (get?_put_self _ (by simp))

theorem read_ok {bytes : ByteArray} (h : disk.read path = .ok bytes) :
    ∃ directory name, disk.target path = .ok (.name directory name false) ∧
      disk.get? (directory ++ [name]) = some (.file bytes) := by
  unfold read at h
  split at h
  · cases h
  · cases h
  · rename_i directory name closed led
    split at h
    · cases h
    · cases h
    · rename_i held there
      cases closed with
      | true => cases h
      | false =>
        cases h
        exact ⟨directory, name, led, there⟩

theorem read_file {directory : Location} {name : String} {bytes : ByteArray}
    (led : disk.target path = .ok (.name directory name false))
    (there : disk.get? (directory ++ [name]) = some (.file bytes)) :
    disk.read path = .ok bytes := by
  rw [read, led]
  simp only [there, Bool.false_eq_true, if_false]

theorem read_eq_ok_iff {bytes : ByteArray} : disk.read path = .ok bytes ↔
    ∃ directory name, disk.target path = .ok (.name directory name false) ∧
      disk.get? (directory ++ [name]) = some (.file bytes) := by
  constructor
  · exact read_ok
  · rintro ⟨directory, name, led, there⟩
    exact read_file led there

theorem Grows.read {other : Disk} {bytes : ByteArray} (grows : Grows disk other)
    (h : disk.read path = .ok bytes) : other.read path = .ok bytes := by
  obtain ⟨directory, name, led, there⟩ := read_ok h
  exact read_file (grows.directories.target led) (grows.kept there)

/-- A file in place of another file, or where nothing was, hides no directory. -/
theorem isDirectoryAt_put_file (bytes : ByteArray) (inside : place ≠ [])
    (free : disk.isDirectoryAt place = false) (asked : Location) :
    (disk.put place (.file bytes)).isDirectoryAt asked = disk.isDirectoryAt asked := by
  by_cases same : asked = place
  · subst same
    rw [free, isDirectoryAt, get?_put_self _ inside]
    rfl
  · rw [isDirectoryAt, isDirectoryAt, get?_put _ _ _ inside, if_neg same]

theorem put_file_directories (bytes : ByteArray) (inside : place ≠ [])
    (free : disk.isDirectoryAt place = false) :
    DirectoriesStay disk (disk.put place (.file bytes)) :=
  ⟨rfl, fun asked there => (isDirectoryAt_put_file bytes inside free asked).trans there⟩

theorem append_put_file {directory : Location} {name : String} {closed : Bool}
    (led : disk.target path = .ok (.name directory name closed))
    (free : disk.isDirectoryAt (directory ++ [name]) = false) (before bytes : ByteArray) :
    (disk.put (directory ++ [name]) (.file before)).append path bytes =
      .ok (disk.put (directory ++ [name]) (.file (before ++ bytes))) := by
  have inside : directory ++ [name] ≠ [] := by simp
  rw [append, (put_file_directories before inside free).target led]
  simp only [get?_put_self _ inside, put_put]

theorem create_ok (h : disk.create path = .ok after) :
    ∃ directory name, disk.target path = .ok (.name directory name false) ∧
      disk.isDirectoryAt (directory ++ [name]) = false ∧
      after = disk.put (directory ++ [name]) (.file .empty) := by
  unfold create at h
  split at h
  · cases h
  · cases h
  · rename_i directory name closed led
    cases closed with
    | true => cases h
    | false =>
      refine ⟨directory, name, led, ?_⟩
      rw [isDirectoryAt]
      cases found : disk.get? (directory ++ [name]) with
      | none =>
        rw [found] at h
        cases h
        exact ⟨rfl, rfl⟩
      | some entry =>
        rw [found] at h
        cases entry with
        | directory => cases h
        | file before =>
          cases h
          exact ⟨rfl, rfl⟩

theorem create_file {directory : Location} {name : String}
    (led : disk.target path = .ok (.name directory name false))
    (free : disk.isDirectoryAt (directory ++ [name]) = false) :
    disk.create path = .ok (disk.put (directory ++ [name]) (.file .empty)) := by
  rw [create, led]
  rw [isDirectoryAt] at free
  cases found : disk.get? (directory ++ [name]) with
  | none => simp only [found, Bool.false_eq_true, if_false]
  | some entry =>
    cases entry with
    | directory =>
      rw [found] at free
      cases free
    | file before => simp only [found, Bool.false_eq_true, if_false]

theorem rename_ok {source destination : Path} (h : disk.rename source destination = .ok after) :
    ∃ fromDirectory fromName closed toDirectory toName bytes,
      disk.target source = .ok (.name fromDirectory fromName closed) ∧
      disk.target destination = .ok (.name toDirectory toName false) ∧
      disk.get? (fromDirectory ++ [fromName]) = some (.file bytes) ∧
      disk.isDirectoryAt (toDirectory ++ [toName]) = false ∧
      after = (disk.erase (fromDirectory ++ [fromName])).put (toDirectory ++ [toName])
        (.file bytes) := by
  unfold rename at h
  split at h
  · cases h
  · cases h
  · cases h
  · cases h
  · rename_i fromDirectory fromName closed toDirectory toName shut left arrived
    split at h
    · cases h
    · cases h
    · rename_i bytes held
      split_ifs at h with open_ blocked
      cases h
      rw [Bool.not_eq_true] at open_ blocked
      subst open_
      exact ⟨_, _, _, _, _, _, left, arrived, held, blocked, rfl⟩

theorem rename_file {source destination : Path} {fromDirectory toDirectory : Location}
    {fromName toName : String} {closed : Bool} {bytes : ByteArray}
    (left : disk.target source = .ok (.name fromDirectory fromName closed))
    (arrived : disk.target destination = .ok (.name toDirectory toName false))
    (held : disk.get? (fromDirectory ++ [fromName]) = some (.file bytes))
    (room : disk.isDirectoryAt (toDirectory ++ [toName]) = false) :
    disk.rename source destination =
      .ok ((disk.erase (fromDirectory ++ [fromName])).put (toDirectory ++ [toName])
        (.file bytes)) := by
  rw [rename, left, arrived]
  simp only [held, room, Bool.false_eq_true, if_false]

theorem isDirectoryAt_of_file {bytes : ByteArray} (there : disk.get? place = some (.file bytes)) :
    disk.isDirectoryAt place = false := by
  rw [isDirectoryAt, there]
  rfl

theorem isDirectoryAt_erase (inside : place ≠ []) (free : disk.isDirectoryAt place = false)
    (asked : Location) : (disk.erase place).isDirectoryAt asked = disk.isDirectoryAt asked := by
  rw [isDirectoryAt, get?_erase _ _ inside]
  split_ifs with gone
  · rw [gone, free]
    rfl
  · rfl

/-- A renaming moves no directory and puts nothing over one. -/
theorem rename_isDirectoryAt {source destination : Path}
    (h : disk.rename source destination = .ok after) (asked : Location) :
    after.isDirectoryAt asked = disk.isDirectoryAt asked := by
  obtain ⟨fromDirectory, fromName, closed, toDirectory, toName, bytes, -, -, held, room, rfl⟩ :=
    rename_ok h
  have emptied := isDirectoryAt_erase (by simp) (isDirectoryAt_of_file held)
  rw [isDirectoryAt_put_file bytes (by simp) ((emptied _).trans room)]
  exact emptied asked

theorem rename_directories {source destination : Path}
    (h : disk.rename source destination = .ok after) : DirectoriesStay disk after := by
  have same := rename_isDirectoryAt h
  obtain ⟨fromDirectory, fromName, closed, toDirectory, toName, bytes, -, -, -, -, rfl⟩ :=
    rename_ok h
  exact ⟨rfl, fun asked there => (same asked).trans there⟩

theorem rename_read {source destination : Path} {bytes : ByteArray}
    (h : disk.rename source destination = .ok after) (held : disk.read source = .ok bytes) :
    after.read destination = .ok bytes := by
  have stay := rename_directories h
  obtain ⟨directory, name, led, there⟩ := read_ok held
  obtain ⟨fromDirectory, fromName, closed, toDirectory, toName, moved, left, arrived, taken, -,
    rfl⟩ := rename_ok h
  rw [led] at left
  cases left
  rw [there] at taken
  cases taken
  exact read_file (stay.target arrived) (get?_put_self _ (by simp))

/-! ## Places for a file -/

/-- The path leads to this place, and a file can be put there. -/
def Takes (disk : Disk) (path : Path) (place : Location) : Prop :=
  ∃ directory name, disk.target path = .ok (.name directory name false) ∧
    directory ++ [name] = place ∧ disk.isDirectoryAt place = false

theorem Takes.inside (takes : disk.Takes path place) : place ≠ [] := by
  obtain ⟨directory, name, -, rfl, -⟩ := takes
  simp

theorem Takes.free (takes : disk.Takes path place) : disk.isDirectoryAt place = false := by
  obtain ⟨-, -, -, -, free⟩ := takes
  exact free

/-- Where a file can be put depends on the directories alone. -/
theorem Takes.of_same (takes : disk.Takes path place)
    (same : ∀ asked, after.isDirectoryAt asked = disk.isDirectoryAt asked)
    (working : after.working = disk.working) : after.Takes path place := by
  obtain ⟨directory, name, led, rfl, free⟩ := takes
  have stay : DirectoriesStay disk after := ⟨working, fun asked there => (same asked).trans there⟩
  exact ⟨directory, name, stay.target led, rfl, (same _).trans free⟩

theorem erase_put (place : Location) (entry : Entry) :
    (disk.put place entry).erase place = disk.erase place := by
  simp [put, erase]

/-- What is put anew, and what was erased, need not have been there. -/
theorem put_erase_put (gone place : Location) (first second : Entry) :
    (((disk.erase gone).put place first).erase gone).put place second =
      (disk.erase gone).put place second := by
  simp only [put, erase, List.filter_cons, List.filter_filter]
  split_ifs <;> simp [List.filter_filter, Bool.and_comm, Bool.and_left_comm]

end IssueFeed.Store.Disk
