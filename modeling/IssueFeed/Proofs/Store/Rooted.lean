import IssueFeed.Proofs.Store.Replacing

/-! Disks whose files and directories form a tree.
A system keeps a disk so that whatever there is lies in a directory, and the operations leave it so.
On such a disk a path that never goes up leads to what is there whatever may be on other disks. -/
namespace IssueFeed.Store

namespace Disk

variable {disk after other : Disk} {place : Location} {path : Path}

/-- Whatever is on the disk is in a directory. -/
def IsTree (disk : Disk) : Prop :=
  ∀ place name, (disk.get? (place ++ [name])).isSome = true → disk.isDirectoryAt place = true

theorem isTree_fresh : (fresh []).IsTree := by
  intro place name there
  simp [fresh, get?] at there

/-- What is put into a directory, and hides no directory, leaves a tree. -/
theorem IsTree.put (tree : disk.IsTree) {name : String} (entry : Entry)
    (inside : disk.isDirectoryAt place = true)
    (hides : entry = .directory ∨ disk.isDirectoryAt (place ++ [name]) = false) :
    (disk.put (place ++ [name]) entry).IsTree := by
  have stays : ∀ asked, disk.isDirectoryAt asked = true →
      (disk.put (place ++ [name]) entry).isDirectoryAt asked = true := by
    intro asked there
    rw [isDirectoryAt_iff, get?_put _ _ _ (by simp)]
    split_ifs with same
    · rcases hides with rfl | free
      · rfl
      · rw [← same, there] at free
        cases free
    · exact isDirectoryAt_iff.mp there
  intro asked step there
  apply stays
  rw [get?_put _ _ _ (by simp)] at there
  split_ifs at there with same
  · obtain ⟨rfl, -⟩ := List.append_inj' same rfl
    exact inside
  · exact tree asked step there

theorem IsTree.erase (tree : disk.IsTree) (inside : place ≠ [])
    (free : disk.isDirectoryAt place = false) : (disk.erase place).IsTree := by
  intro asked step there
  rw [get?_erase _ _ inside] at there
  split_ifs at there with same
  · cases there
  · have above := tree asked step there
    have other : asked ≠ place := by
      rintro rfl
      rw [free] at above
      cases above
    rw [isDirectoryAt_iff, get?_erase _ _ inside, if_neg other]
    exact isDirectoryAt_iff.mp above

/-! ## The operations -/

/-- A path that leads to a name ends with it, and leads there from a directory. -/
theorem target_name {directory : Location} {name : String} {closed : Bool}
    (h : disk.target path = .ok (.name directory name closed)) :
    disk.walk (disk.start path) path.steps.dropLast = .ok directory ∧
      disk.isDirectoryAt directory = true ∧ path.steps.getLast? = some (.name name) ∧
      path.closed = closed := by
  obtain ⟨-, place, walked, stepped⟩ := target_ok h
  cases last : path.steps.getLast? with
  | none =>
    rw [last] at stepped
    cases stepped
  | some step =>
    rw [last] at stepped
    have stands := endStep_from stepped
    cases step with
    | here => simp [endStep, walkStep, stands] at stepped
    | up => simp [endStep, walkStep, stands] at stepped
    | name text =>
      simp only [endStep, stands, Bool.not_true, Bool.false_eq_true, if_false] at stepped
      split_ifs at stepped
      cases stepped
      exact ⟨walked, stands, rfl, rfl⟩

theorem IsTree.makeDirectory (tree : disk.IsTree) (h : disk.makeDirectory path = .ok after) :
    after.IsTree := by
  obtain ⟨directory, name, closed, led, -, rfl⟩ := makeDirectory_ok h
  exact tree.put _ (target_name led).2.1 (.inl rfl)

theorem IsTree.create (tree : disk.IsTree) (h : disk.create path = .ok after) : after.IsTree := by
  obtain ⟨directory, name, led, free, rfl⟩ := create_ok h
  exact tree.put _ (target_name led).2.1 (.inr free)

theorem IsTree.append (tree : disk.IsTree) {bytes : ByteArray}
    (h : disk.append path bytes = .ok after) : after.IsTree := by
  unfold Disk.append at h
  split at h
  · cases h
  · cases h
  · rename_i directory name closed led
    split at h
    · cases h
    · cases h
    · rename_i before there
      cases h
      exact tree.put _ (target_name led).2.1 (.inr (isDirectoryAt_of_file there))

theorem IsTree.rename (tree : disk.IsTree) {source destination : Path}
    (h : disk.rename source destination = .ok after) : after.IsTree := by
  obtain ⟨fromDirectory, fromName, closed, toDirectory, toName, bytes, -, arrived, held, room,
    rfl⟩ := rename_ok h
  have moved := isDirectoryAt_of_file held
  have same := isDirectoryAt_erase (by simp) moved
  refine (tree.erase (by simp) moved).put _ ?_ (.inr ((same _).trans room))
  exact (same _).trans (target_name arrived).2.1

end Disk

open Disk

variable {disk after : Disk}

theorem Effect.apply_isTree (tree : disk.IsTree) {effect : Effect}
    (h : effect.apply disk = .ok after) : after.IsTree := by
  cases effect with
  | directory path =>
    rw [Effect.apply] at h
    split at h
    · cases h
      exact tree.makeDirectory ‹_›
    · split_ifs at h
      cases h
      exact tree
  | create path => exact tree.create h
  | append path bytes => exact tree.append h
  | sync path =>
    cases h
    exact tree
  | rename source destination => exact tree.rename h

/-- Effects keep a disk a tree, as far as they are carried out. -/
theorem carryOut_isTree (tree : disk.IsTree) (effects : List Effect) :
    (carryOut disk effects).1.IsTree := by
  induction effects generalizing disk with
  | nil => exact tree
  | cons effect effects ih =>
    rw [carryOut]
    split
    · exact ih (Effect.apply_isTree tree ‹_›)
    · exact tree

/-- The disk that effects leave of an empty one. -/
def builtBy (effects : List Effect) : Disk :=
  (carryOut (fresh []) effects).1

theorem builtBy_isTree (effects : List Effect) : (builtBy effects).IsTree :=
  carryOut_isTree isTree_fresh effects

/-- A file that holds an old feed. -/
def oldFeed (location : String) : List Effect :=
  [.create (Path.ofText location), .append (Path.ofText location) "old".toUTF8]

end IssueFeed.Store
