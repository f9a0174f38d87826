import IssueFeed.Proofs.Store.Above

/-! A feed's file as a cell.
A replacement that succeeds puts the bytes in the feed's place and leaves the rest of the disk as it
was, but for directories on the way there and the temporary file, which is gone. Nothing is left of
what an earlier replacement has put there, so the last one wins. -/
namespace IssueFeed.Store

open Disk

variable {disk made after : Disk} {path : Path} {location : String} {bytes : ByteArray}
  {aside home : Location}

/-! ## What one replacement leaves -/

theorem Disk.Takes.place? (takes : disk.Takes path home) : disk.place? path = some home := by
  obtain ⟨directory, name, led, rfl, -⟩ := takes
  exact Disk.place?_of_target led

/-- A temporary file with a path of its own has a place of its own. -/
theorem temporary_beside (other : (temporary path).components ≠ path.components)
    (temporarily : disk.Takes (temporary path) aside) (takes : disk.Takes path home) :
    aside ≠ home := by
  rintro rfl
  obtain ⟨directory, name, led, rfl, -⟩ := temporarily
  obtain ⟨toDirectory, toName, leads, same, -⟩ := takes
  obtain ⟨ends, renamed⟩ := temporary_same led leads same
  apply other
  have whole := List.dropLast_append_getLast? _ (Path.getLast?_components ends)
  rw [temporary_eq ends, renamed, whole, Path.components_of_clean (Path.components_clean path)]

theorem get?_written (temporarily : made.Takes (temporary path) aside)
    (takes : made.Takes path home) (bytes : ByteArray) (asked : Location) :
    ((made.erase aside).put home (.file bytes)).get? asked =
      if asked = home then some (.file bytes)
      else if asked = aside then none
      else made.get? asked := by
  rw [get?_put _ _ _ takes.inside, get?_erase _ _ temporarily.inside]

/-- What a replacement leaves on the disk. -/
structure Replaced (path : Path) (bytes : ByteArray) (disk after : Disk) : Prop where
  stored : after.read path = .ok bytes
  ancestors : ∀ ancestor : Path, ancestor.IsAbove path → after.isDirectory ancestor = true
  cleared : (temporary path).components ≠ path.components →
    after.read (temporary path) = .error .notFound
  working : after.working = disk.working
  differs : ∀ place, after.get? place ≠ disk.get? place →
    after.place? path = some place ∨ after.place? (temporary path) = some place ∨
      (disk.get? place = none ∧ after.get? place = some .directory ∧
        ∃ ancestor : Path, ancestor.IsAbove path ∧ after.place? ancestor = some place)

theorem replace_replaced (h : replace disk path bytes = (after, none)) :
    Replaced path bytes disk after := by
  have stored := replace_read h
  obtain ⟨made, aside, home, prepared, temporarily, takes, rfl⟩ := replace_written h
  have same := fill_isDirectoryAt temporarily takes bytes
  have stay := fill_stays temporarily takes bytes
  have furnished := makeAll_furnished disk (above path)
  rw [prepared] at furnished
  refine ⟨stored, ?_, ?_, furnished.grows.working, ?_⟩
  · intro ancestor isAbove
    exact stay.isDirectory (makeAll_above_isDirectory prepared isAbove)
  · intro other
    have apart := temporary_beside other temporarily takes
    have emptied := get?_written temporarily takes bytes aside
    rw [if_neg apart, if_pos rfl] at emptied
    obtain ⟨directory, name, led, rfl, -⟩ := temporarily
    simp only [Disk.read, stay.target led, emptied]
  · intro place differs
    have found := get?_written temporarily takes bytes place
    by_cases atHome : place = home
    · subst atHome
      exact .inl (takes.of_same same rfl).place?
    by_cases atAside : place = aside
    · subst atAside
      exact .inr (.inl (temporarily.of_same same rfl).place?)
    rw [if_neg atHome, if_neg atAside] at found
    rw [found] at differs ⊢
    obtain ⟨nothing, there, ancestor, among, leads⟩ := furnished.made place differs
    exact .inr (.inr ⟨nothing, there, ancestor, (mem_above_iff.mp among).1, stay.place? leads⟩)

/-! ## Replacements in turn -/

theorem writeFeed_written (written : replace disk (Path.ofText location) bytes = (after, none)) :
    (writeFeed disk location bytes).1 = .ok ⟨bytes.size, location⟩ ∧
      (writeFeed disk location bytes).2.2 = after := by
  simp only [writeFeed, written, and_self]

theorem readFeed_written (written : replace disk (Path.ofText location) bytes = (after, none)) :
    readFeed after location = (.ok (some bytes), []) := by
  simp only [readFeed, replace_read written]

/-- The disk after feeds have been written to one place in turn. -/
def writeAll (disk : Disk) (location : String) (feeds : List ByteArray) : Disk :=
  feeds.foldl (fun disk bytes => (writeFeed disk location bytes).2.2) disk

/-- Whatever has been written before, the next replacement does what it would have done at first. -/
theorem replace_writeAll (written : replace disk (Path.ofText location) bytes = (after, none))
    (earlier : List ByteArray) (last : ByteArray) :
    ∃ later, replace (writeAll disk location earlier) (Path.ofText location) last = (later, none) ∧
      replace disk (Path.ofText location) last = (later, none) := by
  induction earlier generalizing disk bytes after with
  | nil =>
    obtain ⟨later, -, once⟩ := replace_overwrites written last
    exact ⟨later, once, once⟩
  | cons first earlier ih =>
    obtain ⟨next, -, begun⟩ := replace_overwrites written first
    obtain ⟨later, twice, once⟩ := replace_overwrites begun last
    obtain ⟨again, inTurn, alone⟩ := ih twice
    rw [twice] at alone
    cases alone
    refine ⟨later, ?_, once⟩
    rw [writeAll, List.foldl_cons, (writeFeed_written begun).2]
    exact inTurn

/-- A feed that is written can be read again as it is, the directories on the way to it are there,
its temporary file is gone, and nothing else has changed. Any number of feeds can be written there
in turn, and each does to the disk what it would have done without those before it. -/
theorem feed_cell (accepted : (writeFeed disk location bytes).1.isOk = true) :
    let written := writeFeed disk location bytes
    written.1 = .ok ⟨bytes.size, location⟩ ∧
      readFeed written.2.2 location = (.ok (some bytes), []) ∧
      Replaced (Path.ofText location) bytes disk written.2.2 ∧
      ∀ (earlier : List ByteArray) (last : ByteArray),
        let again := writeFeed (writeAll disk location earlier) location last
        again = writeFeed disk location last ∧ again.1 = .ok ⟨last.size, location⟩ ∧
          readFeed again.2.2 location = (.ok (some last), []) := by
  have possible := (writeFeed_eq disk location bytes).2 accepted
  obtain ⟨after, replaced⟩ : ∃ after, replace disk (Path.ofText location) bytes = (after, none) :=
    ⟨_, Prod.ext rfl possible⟩
  obtain ⟨result, ends⟩ := writeFeed_written replaced
  intro written
  rw [ends]
  refine ⟨result, readFeed_written replaced, replace_replaced replaced, ?_⟩
  intro earlier last again
  obtain ⟨later, inTurn, alone⟩ := replace_writeAll replaced earlier last
  obtain ⟨result, ends⟩ := writeFeed_written inTurn
  refine ⟨?_, result, ?_⟩
  · simp only [again, writeFeed, inTurn, alone]
  · rw [ends]
    exact readFeed_written inTurn

/-- A feed under a path that goes up out of a directory which is still to be made, with a point in
its name. -/
theorem feed_cell_below_missing :
    let disk := builtBy (oldFeed "feed.xml")
    let location := "new/sub/../feed.v1.xml"
    let written := writeFeed disk location "one".toUTF8
    written.1.isOk = true ∧ readFeed written.2.2 location = (.ok (some "one".toUTF8), []) ∧
      written.2.2.isDirectory (Path.ofText "new/sub") = true ∧
      written.2.2.read (Path.ofText "new/sub/../feed.v1.tmp") = .error .notFound ∧
      written.2.2.get? ["feed.xml"] = disk.get? ["feed.xml"] ∧
      readFeed (writeAll disk location ["two".toUTF8, "three".toUTF8]) location =
        (.ok (some "three".toUTF8), []) := by
  intro disk location written
  have accepted : written.1.isOk = true := by decide
  obtain ⟨-, stored, replaced, inTurn⟩ := feed_cell accepted
  have above : (Path.ofText "new/sub").IsAbove (Path.ofText location) :=
    ⟨by decide, by decide, by decide, by decide, by decide⟩
  have beside : temporary (Path.ofText location) = Path.ofText "new/sub/../feed.v1.tmp" := by
    decide
  refine ⟨accepted, stored, replaced.ancestors _ above, ?_, ?_, (inTurn ["two".toUTF8] _).2.2⟩
  · rw [← beside]
    exact replaced.cleared (by decide)
  · by_contra other
    rcases replaced.differs _ other with home | aside | ⟨nothing, -⟩
    · exact absurd home (by decide)
    · exact absurd aside (by decide)
    · exact absurd nothing (by decide)

end IssueFeed.Store
