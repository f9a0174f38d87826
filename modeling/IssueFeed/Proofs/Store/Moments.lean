import IssueFeed.Proofs.Store.Content

/-! The moments of a replacement.
While a feed is replaced the disk goes through three stages: directories are made, then the
temporary file is filled, then the feed is in its place. Where the replacement breaks off, the disk
is left as it is at that moment. -/
namespace IssueFeed.Store

open Disk

variable {disk other third after : Disk} {path : Path} {bytes : ByteArray} {fault : FileFault}
  {paths : List Path}

/-- The disks that can be met while effects are carried out: before each of them, after any part of
the bytes has been appended, and at the end. -/
inductive Passes : Disk → List Effect → Disk → Prop where
  | here (disk : Disk) (effects : List Effect) : Passes disk effects disk
  | partly {disk moment : Disk} {path : Path} {bytes : ByteArray} {rest : List Effect}
      (count : Nat) (appended : disk.append path (bytes.extract 0 count) = .ok moment) :
      Passes disk (.append path bytes :: rest) moment
  | later {disk next moment : Disk} {effect : Effect} {rest : List Effect}
      (done : effect.apply disk = .ok next) (passes : Passes next rest moment) :
      Passes disk (effect :: rest) moment

/-- Wherever effects break off, the disk is one that is met on the way. -/
theorem carryOut_passes (disk : Disk) (effects : List Effect) :
    Passes disk effects (carryOut disk effects).1 := by
  induction effects generalizing disk with
  | nil => exact .here disk []
  | cons effect effects ih =>
    rw [carryOut]
    split
    · exact .later ‹_› (ih _)
    · exact .here disk _

theorem Passes.append_cases {moment : Disk} {first second : List Effect}
    (passes : Passes disk (first ++ second) moment) :
    Passes disk first moment ∨
      ∃ next, carryOut disk first = (next, none) ∧ Passes next second moment := by
  induction first generalizing disk with
  | nil => exact .inr ⟨disk, rfl, passes⟩
  | cons effect first ih =>
    cases passes with
    | here => exact .inl (.here _ _)
    | partly count appended => exact .inl (.partly count appended)
    | later done passes =>
      rcases ih passes with early | ⟨next, carried, late⟩
      · exact .inl (.later done early)
      · refine .inr ⟨next, ?_, late⟩
        rw [carryOut, done]
        exact carried

/-! ## Making directories -/

/-- The place where a path ends. -/
def Disk.Target.place : Target → Location
  | .position place => place
  | .name directory text _ => directory ++ [text]

def Disk.place? (disk : Disk) (path : Path) : Option Location :=
  (disk.target path).toOption.map Target.place

theorem Disk.place?_of_target {arrived : Target} (led : disk.target path = .ok arrived) :
    disk.place? path = some arrived.place := by
  rw [place?, led]
  rfl

theorem Disk.DirectoriesStay.place? {place : Location} (stay : DirectoriesStay disk other)
    (h : disk.place? path = some place) : other.place? path = some place := by
  obtain ⟨arrived, led, rfl⟩ := Option.map_eq_some_iff.mp h
  cases found : disk.target path with
  | error fault =>
    rw [found] at led
    cases led
  | ok reached =>
    rw [found] at led
    cases led
    exact place?_of_target (stay.target found)

/-- The other disk has the same things, and directories at the ends of some of these paths where
nothing was. -/
structure Furnished (paths : List Path) (disk other : Disk) : Prop where
  grows : Grows disk other
  made : ∀ place, other.get? place ≠ disk.get? place →
    disk.get? place = none ∧ other.get? place = some .directory ∧
      ∃ path ∈ paths, other.place? path = some place

theorem Furnished.refl (paths : List Path) (disk : Disk) : Furnished paths disk disk :=
  ⟨.refl disk, fun _ differs => absurd rfl differs⟩

theorem Furnished.trans (first : Furnished paths disk other)
    (second : Furnished paths other third) : Furnished paths disk third := by
  refine ⟨first.grows.trans second.grows, fun place differs => ?_⟩
  by_cases same : other.get? place = disk.get? place
  · rw [← same] at differs ⊢
    exact second.made place differs
  · obtain ⟨nothing, there, path, among, leads⟩ := first.made place same
    exact ⟨nothing, second.grows.kept there, path, among,
      second.grows.directories.place? leads⟩

theorem Furnished.fileAt (furnished : Furnished paths disk other) (place : Location) :
    other.fileAt place = disk.fileAt place := by
  by_cases same : other.get? place = disk.get? place
  · rw [Disk.fileAt, same, Disk.fileAt]
  · obtain ⟨nothing, there, -⟩ := furnished.made place same
    rw [Disk.fileAt, there, Disk.fileAt, nothing]

theorem furnished_by_directory (among : path ∈ paths)
    (done : (Effect.directory path).apply disk = .ok after) : Furnished paths disk after := by
  rw [Effect.apply] at done
  split at done
  · rename_i made
    cases done
    have grows := makeDirectory_grows made
    obtain ⟨directory, name, closed, led, nothing, rfl⟩ := makeDirectory_ok made
    refine ⟨grows, fun place differs => ?_⟩
    rw [get?_put _ _ _ (by simp)] at differs ⊢
    split_ifs at differs ⊢ with same
    · subst same
      exact ⟨nothing, rfl, path, among, place?_of_target (grows.directories.target led)⟩
    · exact absurd rfl differs
  · split_ifs at done
    cases done
    exact .refl paths disk

theorem Passes.furnished {moment : Disk} {asked : List Path} (among : ∀ path ∈ asked, path ∈ paths)
    (passes : Passes disk (asked.map .directory) moment) : Furnished paths disk moment := by
  induction asked generalizing disk with
  | nil =>
    cases passes
    exact .refl _ _
  | cons path asked ih =>
    cases passes with
    | here => exact .refl _ _
    | later done passes =>
      have first := furnished_by_directory (among path List.mem_cons_self) done
      exact first.trans (ih (fun next member => among next (List.mem_cons_of_mem _ member)) passes)

theorem directoriesToMake_subset (disk : Disk) (paths : List Path) :
    ∀ path ∈ directoriesToMake disk paths, path ∈ paths := by
  induction paths with
  | nil => exact fun _ member => member
  | cons path shorter ih =>
    intro asked member
    rw [directoriesToMake] at member
    split at member
    · rcases List.mem_append.mp member with above | last
      · exact List.mem_cons_of_mem _ (ih asked above)
      · rw [List.mem_singleton.mp last]
        exact List.mem_cons_self
    · split_ifs at member
      · cases member
      · rw [List.mem_singleton.mp member]
        exact List.mem_cons_self
    · rw [List.mem_singleton.mp member]
      exact List.mem_cons_self

theorem makeAll_furnished (disk : Disk) (paths : List Path) :
    Furnished paths disk (makeAll disk paths).1 :=
  (carryOut_passes disk _).furnished (directoriesToMake_subset disk paths)

/-! ## The stages -/

/-- How the disk stands while a feed is replaced. -/
inductive Stage (disk : Disk) (path : Path) (bytes : ByteArray) : Disk → Prop where
  | preparing {made : Disk} (furnished : Furnished (above path) disk made) :
      Stage disk path bytes made
  | writing {made : Disk} (furnished : Furnished (above path) disk made) {directory : Location}
      {name : String} (led : made.target (temporary path) = .ok (.name directory name false))
      (free : made.isDirectoryAt (directory ++ [name]) = false) (written : ByteArray) :
      Stage disk path bytes (made.put (directory ++ [name]) (.file written))
  | replaced {after : Disk} (stored : after.read path = .ok bytes) : Stage disk path bytes after

theorem Passes.filling {made moment : Disk} (furnished : Furnished (above path) disk made)
    (passes : Passes made (fillEffects path bytes) moment) : Stage disk path bytes moment := by
  rw [fillEffects] at passes
  cases passes with
  | here => exact .preparing furnished
  | later created passes =>
    obtain ⟨directory, name, led, free, rfl⟩ := create_ok created
    cases passes with
    | here => exact .writing furnished led free _
    | partly count appended =>
      rw [append_put_file led free] at appended
      cases appended
      exact .writing furnished led free _
    | later appended passes =>
      rw [Effect.apply, append_put_file led free] at appended
      cases appended
      cases passes with
      | here => exact .writing furnished led free _
      | later synced passes =>
        cases synced
        cases passes with
        | here => exact .writing furnished led free _
        | later renamed passes =>
          have stay := put_file_directories (.empty ++ bytes) (by simp) free
          have held := read_file (stay.target led) (get?_put_self _ (by simp))
          rw [ByteArray.empty_append] at held
          cases passes
          exact .replaced (rename_read renamed held)

theorem Passes.stage {moment : Disk} (passes : Passes disk (writeEffects disk path bytes) moment) :
    Stage disk path bytes moment := by
  have among := directoriesToMake_subset disk (above path)
  rw [writeEffects_eq] at passes
  rcases passes.append_cases with early | ⟨made, carried, late⟩
  · exact .preparing (early.furnished among)
  · have furnished := (carryOut_passes disk _).furnished among
    rw [carried] at furnished
    exact late.filling furnished

/-- Where a replacement fails, directories have been made, and perhaps the temporary file is there
and cannot be renamed. -/
theorem replace_failed (h : replace disk path bytes = (after, some fault)) :
    Furnished (above path) disk after ∨
      ∃ made directory name, Furnished (above path) disk made ∧
        made.target (temporary path) = .ok (.name directory name false) ∧
        made.isDirectoryAt (directory ++ [name]) = false ∧
        after = made.put (directory ++ [name]) (.file bytes) ∧
        after.rename (temporary path) path = .error fault := by
  have furnished := makeAll_furnished disk (above path)
  rw [replace_eq] at h
  split at h
  · rename_i made prepared
    rw [prepared] at furnished
    rcases fill_failed h with ⟨rfl, -⟩ | ⟨directory, name, led, free, same, unmoved⟩
    · exact .inl furnished
    · exact .inr ⟨made, directory, name, furnished, led, free, same, unmoved⟩
  · rename_i made why failed
    cases h
    rw [failed] at furnished
    exact .inl furnished

/-- All that differs is directories above the path, where nothing was, and the temporary file. -/
structure OnlyAside (path : Path) (disk after : Disk) : Prop where
  working : after.working = disk.working
  differs : ∀ place, after.get? place ≠ disk.get? place →
    (disk.get? place = none ∧ after.get? place = some .directory ∧
        ∃ ancestor ∈ above path, after.place? ancestor = some place) ∨
      after.place? (temporary path) = some place

theorem replace_failed_aside (h : replace disk path bytes = (after, some fault)) :
    OnlyAside path disk after := by
  rcases replace_failed h with furnished |
    ⟨made, directory, name, furnished, led, free, rfl, -⟩
  · exact ⟨furnished.grows.directories.working, fun place other =>
      .inl (furnished.made place other)⟩
  · have stay := put_file_directories bytes (by simp) free
    refine ⟨stay.working.trans furnished.grows.directories.working, fun place other => ?_⟩
    by_cases same : place = directory ++ [name]
    · subst same
      exact .inr (Disk.place?_of_target (stay.target led))
    · rw [get?_put _ _ _ (by simp), if_neg same] at other ⊢
      obtain ⟨nothing, there, ancestor, among, leads⟩ := furnished.made place other
      exact .inl ⟨nothing, there, ancestor, among, stay.place? leads⟩

/-- A replacement that fails leaves the feed alone: if the path led to a file's place, the temporary
file could be moved there. -/
theorem replace_failed_content (tree : disk.IsTree)
    (h : replace disk path bytes = (after, some fault)) :
    after.content path = disk.content path ∨ Uncovers disk after path := by
  rcases replace_failed h with furnished |
    ⟨made, directory, name, furnished, led, free, rfl, unmoved⟩
  · exact content_kept tree furnished.grows.directories fun _ _ _ => furnished.fileAt _
  · have stay := put_file_directories bytes (by simp) free
    refine content_kept tree (furnished.grows.directories.trans stay) ?_
    intro toDirectory toName leads
    cases taken : (made.put (directory ++ [name]) (.file bytes)).isDirectoryAt
        (toDirectory ++ [toName]) with
    | true =>
      have before := (isDirectoryAt_put_file bytes (by simp) free _).symm.trans taken
      rw [fileAt_of_directory taken, ← furnished.fileAt, fileAt_of_directory before]
    | false =>
      have moved := rename_file (stay.target led) leads (get?_put_self _ (by simp)) taken
      rw [unmoved] at moved
      cases moved

end IssueFeed.Store
