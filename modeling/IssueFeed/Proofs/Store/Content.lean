import IssueFeed.Proofs.Store.Rooted

/-! What can be read at a path while other things on the disk change.
As long as no directory is lost and the file at the path's end stays, so does what is read there.
Only a path that goes up out of a directory that was missing shows more once that directory is made:
the file that stood in its place all along. -/
namespace IssueFeed.Store.Disk

variable {disk after : Disk} {place : Location} {path : Path} {bytes : ByteArray}

/-- The bytes of the file to which a path leads, if it leads to one. -/
def content (disk : Disk) (path : Path) : Option ByteArray :=
  (disk.read path).toOption

/-- The bytes of the file at a place, if there is one. -/
def fileAt (disk : Disk) (place : Location) : Option ByteArray :=
  match disk.get? place with
  | some (.file bytes) => some bytes
  | _ => none

theorem content_eq_some_iff : disk.content path = some bytes ↔ disk.read path = .ok bytes := by
  rw [content]
  cases disk.read path <;> simp [Except.toOption]

theorem fileAt_eq_some_iff : disk.fileAt place = some bytes ↔
    disk.get? place = some (.file bytes) := by
  unfold fileAt
  cases disk.get? place with
  | none => simp
  | some entry => cases entry <;> simp

theorem fileAt_of_directory (there : disk.isDirectoryAt place = true) :
    disk.fileAt place = none := by
  rw [fileAt, isDirectoryAt_iff.mp there]

theorem content_eq_some_iff_fileAt : disk.content path = some bytes ↔
    ∃ directory name, disk.target path = .ok (.name directory name false) ∧
      disk.fileAt (directory ++ [name]) = some bytes := by
  simp only [content_eq_some_iff, read_eq_ok_iff, fileAt_eq_some_iff]

theorem fileAt_put_other {entry : Entry} {asked : Location} (inside : place ≠ [])
    (other : asked ≠ place) : (disk.put place entry).fileAt asked = disk.fileAt asked := by
  rw [fileAt, fileAt, get?_put _ _ _ inside, if_neg other]

/-! ## Paths that do not go up -/

/-- Where a walk that never goes up ends in a directory of a tree, the same walk is possible in the
tree. -/
theorem IsTree.walk (tree : disk.IsTree) {steps : List Step} (level : Step.up ∉ steps)
    {last : Location} (walked : after.walk place steps = .ok last)
    (ends : disk.isDirectoryAt last = true) :
    disk.isDirectoryAt place = true ∧ disk.walk place steps = .ok last := by
  -- The induction is on the steps, and each is taken in a directory because the next is.
  induction steps generalizing place with
  | nil =>
    cases walked
    exact ⟨ends, rfl⟩
  | cons step steps ih =>
    obtain ⟨first, others⟩ := not_or.mp (mt List.mem_cons.mpr level)
    rw [Disk.walk] at walked
    split at walked
    · rename_i next stepped
      obtain ⟨passes, onward⟩ := ih others walked
      have taken : disk.isDirectoryAt place = true ∧ disk.walkStep place step = .ok next := by
        simp only [walkStep, walkStep_from stepped, Bool.not_true, Bool.false_eq_true,
          if_false] at stepped ⊢
        cases step with
        | here =>
          cases stepped
          exact ⟨passes, by simp [passes]⟩
        | up => exact absurd rfl first
        | name name =>
          simp only at stepped
          split_ifs at stepped with long missing
          cases stepped
          have there := isDirectoryAt_iff.mp passes
          have stands := tree place name (by rw [there]; rfl)
          exact ⟨stands, by simp [stands, long, there]⟩
      refine ⟨taken.1, ?_⟩
      rw [Disk.walk, taken.2]
      exact onward
    · cases walked

theorem IsTree.target (tree : disk.IsTree) (level : Step.up ∉ path.steps)
    (working : after.working = disk.working) {directory : Location} {name : String}
    {closed : Bool} (led : after.target path = .ok (.name directory name closed))
    (there : (disk.get? (directory ++ [name])).isSome = true) :
    disk.target path = .ok (.name directory name closed) := by
  obtain ⟨accepted, place, walked, stepped⟩ := target_ok led
  obtain ⟨again, -, last, -⟩ := target_name led
  rw [walked] at again
  cases again
  have stands := tree directory name there
  have starts : after.start path = disk.start path := by
    rw [start, start, working]
  rw [starts] at walked
  have below : Step.up ∉ path.steps.dropLast :=
    mt (fun up => (List.dropLast_sublist _).subset up) level
  rw [target_accepted accepted, (tree.walk below walked stands).2, last]
  rw [last] at stepped
  simp only [endStep, endStep_from stepped, stands] at stepped ⊢
  exact stepped

/-! ## What comes to light -/

/-- The path goes up out of a directory that was missing, so nothing could be read there before; it
now leads to a file that stood in its place already. -/
structure Uncovers (disk after : Disk) (path : Path) : Prop where
  climbs : Step.up ∈ path.steps
  hidden : disk.content path = none
  stood : ∃ directory name bytes, after.target path = .ok (.name directory name false) ∧
    disk.fileAt (directory ++ [name]) = some bytes ∧ after.content path = some bytes

/-- If no directory is lost and the file at the end of a path is as before, then what is read there
is as before, or comes to light. -/
theorem content_kept (tree : disk.IsTree) (stay : DirectoriesStay disk after)
    (same : ∀ directory name, after.target path = .ok (.name directory name false) →
      after.fileAt (directory ++ [name]) = disk.fileAt (directory ++ [name])) :
    after.content path = disk.content path ∨ Uncovers disk after path := by
  cases before : disk.content path with
  | some bytes =>
    obtain ⟨directory, name, led, there⟩ := content_eq_some_iff_fileAt.mp before
    have leads := stay.target led
    exact .inl (content_eq_some_iff_fileAt.mpr
      ⟨directory, name, leads, (same directory name leads).trans there⟩)
  | none =>
    cases now : after.content path with
    | none => exact .inl rfl
    | some bytes =>
      obtain ⟨directory, name, leads, there⟩ := content_eq_some_iff_fileAt.mp now
      have stood := (same directory name leads).symm.trans there
      refine .inr ⟨?_, before, directory, name, bytes, leads, stood, now⟩
      by_contra level
      have led := tree.target level stay.working leads
        (by rw [fileAt_eq_some_iff.mp stood]; rfl)
      have readable := content_eq_some_iff_fileAt.mpr ⟨directory, name, led, stood⟩
      rw [before] at readable
      cases readable

end IssueFeed.Store.Disk
