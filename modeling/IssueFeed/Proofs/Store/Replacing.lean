import IssueFeed.Proofs.Store.Operations
import Mathlib.Data.List.Induction

/-! The replacing of a feed on a disk.
A replacement that succeeds leaves exactly its bytes to be read. One that fails leaves what could be
read before, and fails again however often it is repeated: it fails because of where the paths lead,
not because of the bytes. -/
namespace IssueFeed.Store

open Disk

variable {disk after : Disk} {path : Path} {bytes : ByteArray} {fault : FileFault}

theorem carryOut_append (disk : Disk) (first second : List Effect) :
    carryOut disk (first ++ second) =
      match carryOut disk first with
      | (next, none) => carryOut next second
      | (next, some fault) => (next, some fault) := by
  induction first generalizing disk with
  | nil => rfl
  | cons effect first ih =>
    rw [List.cons_append, carryOut, carryOut]
    cases effect.apply disk with
    | error fault => rfl
    | ok next => exact ih next

/-! ## Filling the file -/

/-- The effects after the directories are made. -/
def fillEffects (path : Path) (bytes : ByteArray) : List Effect :=
  [.create (temporary path), .append (temporary path) bytes, .sync (temporary path),
    .rename (temporary path) path]

def fill (disk : Disk) (path : Path) (bytes : ByteArray) : Disk × Option FileFault :=
  carryOut disk (fillEffects path bytes)

theorem fill_uncreated (h : disk.create (temporary path) = .error fault) :
    fill disk path bytes = (disk, some fault) := by
  rw [fill, fillEffects, carryOut, Effect.apply, h]

/-- Where the temporary file can be created, all depends on the renaming. -/
theorem fill_created {directory : Location} {name : String}
    (led : disk.target (temporary path) = .ok (.name directory name false))
    (free : disk.isDirectoryAt (directory ++ [name]) = false) :
    fill disk path bytes =
      match (disk.put (directory ++ [name]) (.file bytes)).rename (temporary path) path with
      | .ok after => (after, none)
      | .error fault => (disk.put (directory ++ [name]) (.file bytes), some fault) := by
  have created : disk.create (temporary path) =
      .ok (disk.put (directory ++ [name]) (.file .empty)) :=
    create_file led free
  have appended := append_put_file led free .empty bytes
  rw [ByteArray.empty_append] at appended
  rw [fill, fillEffects]
  cases renamed : (disk.put (directory ++ [name]) (.file bytes)).rename (temporary path) path <;>
    simp only [carryOut, Effect.apply, created, appended, renamed]

/-- What is left of filling a file: nothing has changed, or the temporary file is there and the
renaming decides. -/
theorem fill_cases (disk : Disk) (path : Path) (bytes : ByteArray) :
    (∃ fault, disk.create (temporary path) = .error fault ∧
        fill disk path bytes = (disk, some fault)) ∨
      ∃ directory name, disk.target (temporary path) = .ok (.name directory name false) ∧
        disk.isDirectoryAt (directory ++ [name]) = false ∧
        fill disk path bytes =
          match (disk.put (directory ++ [name]) (.file bytes)).rename (temporary path) path with
          | .ok after => (after, none)
          | .error fault => (disk.put (directory ++ [name]) (.file bytes), some fault) := by
  cases created : disk.create (temporary path) with
  | error fault => exact .inl ⟨fault, rfl, fill_uncreated created⟩
  | ok next =>
    obtain ⟨directory, name, led, free, -⟩ := create_ok created
    exact .inr ⟨directory, name, led, free, fill_created led free⟩

theorem fill_written (h : fill disk path bytes = (after, none)) :
    ∃ directory name, disk.target (temporary path) = .ok (.name directory name false) ∧
      disk.isDirectoryAt (directory ++ [name]) = false ∧
      (disk.put (directory ++ [name]) (.file bytes)).rename (temporary path) path = .ok after := by
  rcases fill_cases disk path bytes with ⟨fault, -, failed⟩ | ⟨directory, name, led, free, filled⟩
  · rw [failed] at h
    cases h
  · rw [filled] at h
    split at h
    · cases h
      exact ⟨directory, name, led, free, ‹_›⟩
    · cases h

theorem fill_failed (h : fill disk path bytes = (after, some fault)) :
    (after = disk ∧ disk.create (temporary path) = .error fault) ∨
      ∃ directory name, disk.target (temporary path) = .ok (.name directory name false) ∧
        disk.isDirectoryAt (directory ++ [name]) = false ∧
        after = disk.put (directory ++ [name]) (.file bytes) ∧
        after.rename (temporary path) path = .error fault := by
  rcases fill_cases disk path bytes with ⟨why, uncreated, failed⟩ |
    ⟨directory, name, led, free, filled⟩
  · rw [failed] at h
    cases h
    exact .inl ⟨rfl, uncreated⟩
  · rw [filled] at h
    split at h
    · cases h
    · cases h
      exact .inr ⟨directory, name, led, free, rfl, ‹_›⟩

/-- The temporary file can be moved to where the path leads, unless a directory is there. -/
theorem temporary_moves {aside home : Location} (temporarily : disk.Takes (temporary path) aside)
    (takes : disk.Takes path home) (bytes : ByteArray) :
    (disk.put aside (.file bytes)).rename (temporary path) path =
      .ok ((disk.erase aside).put home (.file bytes)) := by
  have same := isDirectoryAt_put_file bytes temporarily.inside temporarily.free
  obtain ⟨directory, name, led, rfl, -⟩ := temporarily.of_same same rfl
  obtain ⟨toDirectory, toName, reached, rfl, room⟩ := takes.of_same same rfl
  rw [rename_file led reached (get?_put_self _ (by simp)) room, erase_put]

/-- A file that has been filled was put where the path leads, and the temporary file is gone. -/
theorem fill_ok (h : fill disk path bytes = (after, none)) :
    ∃ aside home, disk.Takes (temporary path) aside ∧ disk.Takes path home ∧
      after = (disk.erase aside).put home (.file bytes) := by
  obtain ⟨directory, name, led, free, renamed⟩ := fill_written h
  have temporarily : disk.Takes (temporary path) (directory ++ [name]) :=
    ⟨directory, name, led, rfl, free⟩
  have same := isDirectoryAt_put_file bytes temporarily.inside free
  obtain ⟨-, -, -, toDirectory, toName, -, -, reached, -, room, -⟩ := rename_ok renamed
  have takes : disk.Takes path (toDirectory ++ [toName]) :=
    Takes.of_same ⟨toDirectory, toName, reached, rfl, room⟩ (fun asked => (same asked).symm) rfl
  rw [temporary_moves temporarily takes] at renamed
  exact ⟨_, _, temporarily, takes, (Except.ok.inj renamed).symm⟩

/-- A file is filled if the temporary file and the feed can both be put in their places, whatever
the bytes are. -/
theorem fill_file {aside home : Location} (temporarily : disk.Takes (temporary path) aside)
    (takes : disk.Takes path home) (bytes : ByteArray) :
    fill disk path bytes = ((disk.erase aside).put home (.file bytes), none) := by
  have moved := temporary_moves temporarily takes bytes
  obtain ⟨directory, name, led, rfl, free⟩ := temporarily
  rw [fill_created led free, moved]

/-- Filling a file moves no directory. -/
theorem fill_isDirectoryAt {aside home : Location} (temporarily : disk.Takes (temporary path) aside)
    (takes : disk.Takes path home) (bytes : ByteArray) (asked : Location) :
    ((disk.erase aside).put home (.file bytes)).isDirectoryAt asked = disk.isDirectoryAt asked := by
  have emptied := isDirectoryAt_erase temporarily.inside temporarily.free
  rw [isDirectoryAt_put_file bytes takes.inside ((emptied home).trans takes.free), emptied]

theorem fill_stays {aside home : Location} (temporarily : disk.Takes (temporary path) aside)
    (takes : disk.Takes path home) (bytes : ByteArray) :
    DirectoriesStay disk ((disk.erase aside).put home (.file bytes)) :=
  ⟨rfl, fun asked there => (fill_isDirectoryAt temporarily takes bytes asked).trans there⟩

theorem fill_read (h : fill disk path bytes = (after, none)) : after.read path = .ok bytes := by
  obtain ⟨aside, home, temporarily, takes, rfl⟩ := fill_ok h
  have same := fill_isDirectoryAt temporarily takes bytes
  obtain ⟨directory, name, led, rfl, -⟩ := takes.of_same same rfl
  exact read_file led (get?_put_self _ (by simp))

theorem fill_keeps_read {before : ByteArray} (stored : disk.read path = .ok before)
    (h : fill disk path bytes = (after, some fault)) : after.read path = .ok before := by
  rcases fill_failed h with ⟨rfl, -⟩ | ⟨directory, name, led, free, rfl, unmoved⟩
  · exact stored
  · -- A file that could be read can also be replaced.
    obtain ⟨toDirectory, toName, reached, there⟩ := read_ok stored
    have takes : disk.Takes path (toDirectory ++ [toName]) :=
      ⟨toDirectory, toName, reached, rfl, isDirectoryAt_of_file there⟩
    rw [temporary_moves ⟨directory, name, led, rfl, free⟩ takes] at unmoved
    cases unmoved

theorem fill_failed_isDirectoryAt (h : fill disk path bytes = (after, some fault)) :
    after.working = disk.working ∧
      ∀ asked, after.isDirectoryAt asked = disk.isDirectoryAt asked := by
  rcases fill_failed h with ⟨rfl, -⟩ | ⟨directory, name, -, free, rfl, -⟩
  · exact ⟨rfl, fun _ => rfl⟩
  · exact ⟨rfl, isDirectoryAt_put_file bytes (by simp) free⟩

theorem fill_fails_again (h : fill disk path bytes = (after, some fault)) (again : ByteArray) :
    DirectoriesStay disk after ∧ (fill after path again).2 ≠ none := by
  obtain ⟨working, same⟩ := fill_failed_isDirectoryAt h
  refine ⟨⟨working, fun asked there => (same asked).trans there⟩, ?_⟩
  intro succeeds
  -- Had it been possible now, it would have been possible before.
  obtain ⟨aside, home, temporarily, takes, -⟩ := fill_ok (Prod.ext rfl succeeds)
  have back : ∀ asked, disk.isDirectoryAt asked = after.isDirectoryAt asked :=
    fun asked => (same asked).symm
  have possible :=
    fill_file (temporarily.of_same back working.symm) (takes.of_same back working.symm) bytes
  rw [h] at possible
  cases possible

/-- A file that has been filled can be filled again, and nothing is left of the first time. -/
theorem fill_overwrites (h : fill disk path bytes = (after, none)) (again : ByteArray) :
    DirectoriesStay disk after ∧
      ∃ later, fill after path again = (later, none) ∧ fill disk path again = (later, none) := by
  obtain ⟨aside, home, temporarily, takes, rfl⟩ := fill_ok h
  have same := fill_isDirectoryAt temporarily takes bytes
  refine ⟨fill_stays temporarily takes bytes, (disk.erase aside).put home (.file again), ?_, ?_⟩
  · rw [fill_file (temporarily.of_same same rfl) (takes.of_same same rfl), put_erase_put]
  · exact fill_file temporarily takes again

/-! ## Making the directories -/

/-- The path and those above it, the longest first. -/
def ladder (absolute : Bool) (steps : List Step) : List Path :=
  ((List.range steps.length).map fun n => ⟨absolute, steps.take (n + 1), false⟩).reverse

theorem ladder_concat (absolute : Bool) (steps : List Step) (step : Step) :
    ladder absolute (steps ++ [step]) =
      ⟨absolute, steps ++ [step], false⟩ :: ladder absolute steps := by
  have above : ∀ n ∈ List.range steps.length,
      (⟨absolute, (steps ++ [step]).take (n + 1), false⟩ : Path) =
        ⟨absolute, steps.take (n + 1), false⟩ := by
    intro n inside
    rw [List.take_append_of_le_length (List.mem_range.mp inside)]
  have whole : (steps ++ [step]).take (steps.length + 1) = steps ++ [step] :=
    List.take_of_length_le (by simp)
  rw [ladder, ladder, List.length_append, List.length_singleton, List.range_succ, List.map_append,
    List.map_congr_left above, List.reverse_append, List.map_singleton, whole]
  rfl

/-- The directories on these paths, the longest first, as far as they are missing. -/
def makeAll (disk : Disk) (paths : List Path) : Disk × Option FileFault :=
  carryOut disk ((directoriesToMake disk paths).map .directory)

theorem carryOut_directory_ok (h : carryOut disk [.directory path] = (after, none)) :
    Grows disk after ∧ after.isDirectory path = true ∧
      ∃ arrived, disk.target path = .ok arrived := by
  rw [carryOut, Effect.apply] at h
  cases made : disk.makeDirectory path with
  | ok next =>
    rw [made] at h
    cases h
    obtain ⟨directory, name, closed, led, -⟩ := makeDirectory_ok made
    exact ⟨makeDirectory_grows made, makeDirectory_isDirectory made, _, led⟩
  | error why =>
    simp only [made] at h
    split_ifs at h with there
    · cases h
      obtain ⟨arrived, led, -⟩ := target_of_isDirectory there
      exact ⟨.refl disk, there, arrived, led⟩
    · cases h

theorem carryOut_directory_failed (h : carryOut disk [.directory path] = (after, some fault)) :
    after = disk := by
  rw [carryOut] at h
  split at h
  · cases h
  · cases h
    rfl

theorem makeAll_missing {shorter : List Path} (h : disk.makeDirectory path = .error .notFound) :
    makeAll disk (path :: shorter) =
      match makeAll disk shorter with
      | (next, none) => carryOut next [.directory path]
      | (next, some fault) => (next, some fault) := by
  simp only [makeAll, directoriesToMake, h, List.map_append, carryOut_append]
  rfl

theorem makeAll_found {shorter : List Path} (h : disk.makeDirectory path ≠ .error .notFound) :
    makeAll disk (path :: shorter) = carryOut disk [.directory path] := by
  rw [makeAll, directoriesToMake]
  split
  · contradiction
  · rename_i fault _ failed
    split_ifs with there
    · simp only [List.map_nil, carryOut, Effect.apply, failed, there, if_true]
    · rfl
  · rfl

theorem makeAll_ready {shorter : List Path} (h : disk.isDirectory path = true) :
    makeAll disk (path :: shorter) = (disk, none) := by
  have already := makeDirectory_of_isDirectory h
  rw [makeAll_found (by rw [already]; nofun)]
  simp only [carryOut, Effect.apply, already, h, if_true]

theorem makeAll_isDirectory {shorter : List Path}
    (h : makeAll disk (path :: shorter) = (after, none)) : after.isDirectory path = true := by
  by_cases missing : disk.makeDirectory path = .error .notFound
  · rw [makeAll_missing missing] at h
    split at h
    · exact (carryOut_directory_ok h).2.1
    · cases h
  · rw [makeAll_found missing] at h
    exact (carryOut_directory_ok h).2.1

/-- What was on the disk stays there, also where not all directories could be made. -/
theorem makeAll_grows (disk : Disk) (paths : List Path) : Grows disk (makeAll disk paths).1 := by
  rw [makeAll]
  generalize directoriesToMake disk paths = missing
  induction missing generalizing disk with
  | nil => exact .refl disk
  | cons path missing ih =>
    have first := carryOut_append disk [.directory path] (missing.map .directory)
    rw [List.map_cons, ← List.singleton_append, first]
    split
    · rename_i next made
      exact (carryOut_directory_ok made).1.trans (ih next)
    · rename_i next fault failed
      rw [carryOut_directory_failed failed]
      exact .refl disk

/-! ## Directories one below the other -/

variable {absolute : Bool} {steps : List Step}

theorem makeAll_ladder_ready (h : disk.isDirectory ⟨absolute, steps, false⟩ = true) :
    makeAll disk (ladder absolute steps) = (disk, none) := by
  cases steps using List.reverseRec with
  | nil => rfl
  | append_singleton steps step =>
    rw [ladder_concat]
    exact makeAll_ready h

theorem makeAll_above {step : Step} {closed : Bool} {arrived : Target}
    (led : disk.target ⟨absolute, steps ++ [step], closed⟩ = .ok arrived) :
    makeAll disk (ladder absolute steps) = (disk, none) := by
  by_cases none_ : steps = []
  · subst none_
    rfl
  · exact makeAll_ladder_ready (isDirectory_above led none_)

theorem makeAll_below (step : Step)
    (made : makeAll disk (ladder absolute steps) = (after, none)) :
    after.makeDirectory ⟨absolute, steps ++ [step], false⟩ ≠ .error .notFound := by
  cases steps using List.reverseRec with
  | nil => exact makeDirectory_ne_notFound rfl rfl
  | append_singleton steps last =>
    rw [ladder_concat] at made
    exact makeDirectory_below step (makeAll_isDirectory made)

theorem makeAll_stays {later : Disk} (made : makeAll disk (ladder absolute steps) = (after, none))
    (stay : DirectoriesStay after later) :
    makeAll later (ladder absolute steps) = (later, none) := by
  cases steps using List.reverseRec with
  | nil => rfl
  | append_singleton steps step =>
    rw [ladder_concat] at made
    exact makeAll_ladder_ready (stay.isDirectory (makeAll_isDirectory made))

theorem makeAll_fails_again (h : makeAll disk (ladder absolute steps) = (after, some fault)) :
    (makeAll after (ladder absolute steps)).2 ≠ none := by
  -- The induction is on the steps of the longest path. Shorter ones are tried only while a path
  -- leads nowhere, and it leads somewhere once those above it are directories.
  induction steps using List.reverseRec with
  | nil => cases h
  | append_singleton steps step ih =>
    rw [ladder_concat] at h ⊢
    by_cases missing : disk.makeDirectory ⟨absolute, steps ++ [step], false⟩ = .error .notFound
    · rw [makeAll_missing missing] at h
      split at h
      · rename_i next made
        have same := carryOut_directory_failed h
        subst same
        rw [makeAll_found (makeAll_below step made), h]
        nofun
      · rename_i next why failed
        cases h
        have stuck := ih failed
        intro succeeds
        by_cases again : after.makeDirectory ⟨absolute, steps ++ [step], false⟩ = .error .notFound
        · rw [makeAll_missing again] at succeeds
          split at succeeds
          · rename_i next made
            exact stuck (congrArg Prod.snd made)
          · cases succeeds
        · rw [makeAll_found again] at succeeds
          obtain ⟨-, -, arrived, led⟩ := carryOut_directory_ok (Prod.ext rfl succeeds)
          exact stuck (congrArg Prod.snd (makeAll_above led))
    · rw [makeAll_found missing] at h
      have same := carryOut_directory_failed h
      subst same
      rw [makeAll_found missing, h]
      nofun

/-! ## The whole replacement -/

/-- The paths above a feed on which directories are made. -/
def above (path : Path) : List Path :=
  match path.parent? with
  | some parent => ladder parent.absolute parent.components
  | none => []

theorem above_eq (path : Path) : ∃ absolute steps, above path = ladder absolute steps := by
  unfold above
  cases path.parent? with
  | none => exact ⟨false, [], rfl⟩
  | some parent => exact ⟨_, _, rfl⟩

theorem writeEffects_eq (disk : Disk) (path : Path) (bytes : ByteArray) :
    writeEffects disk path bytes =
      (directoriesToMake disk (above path)).map .directory ++ fillEffects path bytes := by
  unfold writeEffects prepareEffects above
  cases path.parent? <;> rfl

theorem replace_eq (disk : Disk) (path : Path) (bytes : ByteArray) :
    replace disk path bytes =
      match makeAll disk (above path) with
      | (next, none) => fill next path bytes
      | (next, some fault) => (next, some fault) := by
  rw [replace, writeEffects_eq, carryOut_append]
  rfl

theorem replace_read (h : replace disk path bytes = (after, none)) :
    after.read path = .ok bytes := by
  rw [replace_eq] at h
  split at h
  · exact fill_read h
  · cases h

theorem replace_keeps_read {before : ByteArray} (stored : disk.read path = .ok before)
    (h : replace disk path bytes = (after, some fault)) : after.read path = .ok before := by
  have grows := makeAll_grows disk (above path)
  rw [replace_eq] at h
  split at h
  · rename_i next made
    rw [made] at grows
    exact fill_keeps_read (grows.read stored) h
  · rename_i next why made
    cases h
    rw [made] at grows
    exact grows.read stored

/-- Where a feed has been written once it can be written again, whatever the bytes, and nothing is
left of the first time. -/
theorem replace_overwrites (h : replace disk path bytes = (after, none)) (again : ByteArray) :
    ∃ later, replace after path again = (later, none) ∧
      replace disk path again = (later, none) := by
  obtain ⟨absolute, steps, same⟩ := above_eq path
  simp only [replace_eq, same] at h ⊢
  split at h
  · rename_i next made
    obtain ⟨stay, overwritten⟩ := fill_overwrites h again
    rw [makeAll_stays made stay]
    exact overwritten
  · cases h

theorem replace_again (h : replace disk path bytes = (after, none)) (again : ByteArray) :
    ∃ later, replace after path again = (later, none) := by
  obtain ⟨later, written, -⟩ := replace_overwrites h again
  exact ⟨later, written⟩

/-- What a replacement leaves: directories are made, the temporary file is gone, the feed is there.
-/
theorem replace_written (h : replace disk path bytes = (after, none)) :
    ∃ made aside home, makeAll disk (above path) = (made, none) ∧
      made.Takes (temporary path) aside ∧ made.Takes path home ∧
      after = (made.erase aside).put home (.file bytes) := by
  rw [replace_eq] at h
  split at h
  · rename_i made prepared
    obtain ⟨aside, home, placed⟩ := fill_ok h
    exact ⟨made, aside, home, prepared, placed⟩
  · cases h

/-- Once a replacement has failed on a disk, the same path can never be written to, whatever the
bytes. -/
theorem replace_fails_again (h : replace disk path bytes = (after, some fault))
    (again : ByteArray) : (replace after path again).2 ≠ none := by
  obtain ⟨absolute, steps, same⟩ := above_eq path
  rw [replace_eq, same] at h ⊢
  split at h
  · rename_i next made
    obtain ⟨stay, stuck⟩ := fill_fails_again h again
    rw [makeAll_stays made stay]
    exact stuck
  · rename_i next why failed
    cases h
    have stuck := makeAll_fails_again failed
    split
    · rename_i next made
      exact absurd (congrArg Prod.snd made) stuck
    · nofun

end IssueFeed.Store
