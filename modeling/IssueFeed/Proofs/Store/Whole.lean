import IssueFeed.Config.Check
import IssueFeed.Proofs.Store.Moments

/-! A feed is never seen in part.
The temporary file has another name than the feed unless the feed's own name ends in the same
extension. So whatever moment of a replacement one looks at, the feed is the old one or the new
one; only the making of a directory can bring to light a file that stood behind it. -/
namespace IssueFeed.Store

namespace Path

/-- What stands after the last point of a name, unless nothing stands before that. -/
def extensionOf? (name : List Char) : Option (List Char) :=
  match name.reverse.dropWhile (· != '.') with
  | '.' :: before =>
    if before.isEmpty then none else some (name.reverse.takeWhile (· != '.')).reverse
  | _ => none

def extension? (path : Path) : Option String :=
  match path.components.getLast? with
  | some (.name name) => (extensionOf? name.toList).map String.ofList
  | _ => none

/-- A name that a change of its extension leaves as it is has that extension. -/
theorem extensionOf?_of_stem {name extension : List Char} (pointless : '.' ∉ extension)
    (same : stem name ++ '.' :: extension = name) : extensionOf? name = some extension := by
  have reversed : name.reverse = extension.reverse ++ '.' :: (stem name).reverse := by
    conv_lhs => rw [← same]
    simp
  have goesOn : ∀ c ∈ extension.reverse, (c != '.') = true := by
    intro c member
    simp only [bne_iff_ne, ne_eq]
    rintro rfl
    exact pointless (List.mem_reverse.mp member)
  have dropped : name.reverse.dropWhile (· != '.') = '.' :: (stem name).reverse := by
    rw [reversed, List.dropWhile_append_of_pos goesOn]
    rfl
  have taken : name.reverse.takeWhile (· != '.') = extension.reverse := by
    rw [reversed, List.takeWhile_append_of_pos goesOn]
    exact List.append_nil _
  have filled : (stem name).reverse.isEmpty = false := by
    cases empty : (stem name).reverse.isEmpty with
    | false => rfl
    | true =>
      have whole : stem name = name := by
        rw [stem, dropped]
        simp only [empty, if_true]
      have lengths := congrArg List.length same
      rw [whole, List.length_append, List.length_cons] at lengths
      omega
  simp only [extensionOf?, dropped, taken, filled, Bool.false_eq_true, if_false,
    List.reverse_reverse]

theorem getLast?_components {path : Path} {name : String}
    (last : path.steps.getLast? = some (.name name)) :
    path.components.getLast? = some (.name name) := by
  obtain ⟨before, split⟩ := List.getLast?_eq_some_iff.mp last
  have kept : ∀ steps : List Step,
      ((steps ++ [Step.name name]).filter (· ≠ Step.here)).getLast? = some (Step.name name) := by
    intro steps
    rw [List.filter_append, List.filter_cons_of_pos (by simp), List.filter_nil,
      List.getLast?_concat]
  cases before with
  | nil =>
    rw [components, split]
    exact kept []
  | cons first before =>
    cases first with
    | here =>
      rw [components, split]
      simp only [List.cons_append]
      split_ifs
      · exact kept before
      · rw [List.getLast?_cons, kept before]
        rfl
    | up =>
      rw [components, split]
      exact kept (.up :: before)
    | name text =>
      rw [components, split]
      exact kept (.name text :: before)

end Path

open Disk

variable {disk moment : Disk} {path : Path} {bytes : ByteArray}

/-- The temporary file lies beside the feed, under a name that the feed's own name gives it. -/
theorem temporary_eq {name : String} (ends : path.steps.getLast? = some (.name name)) :
    temporary path = ⟨path.absolute, path.components.dropLast ++
      [.name (String.ofList (Path.stem name.toList ++ '.' :: "tmp".toList))], false⟩ := by
  rw [temporary, Path.withExtension, Path.getLast?_components ends]

/-- Where the feed and the temporary file have one place, they have one name. -/
theorem temporary_same {directory toDirectory : Location} {name toName : String} {closed : Bool}
    (led : disk.target (temporary path) = .ok (.name directory name false))
    (leads : disk.target path = .ok (.name toDirectory toName closed))
    (same : toDirectory ++ [toName] = directory ++ [name]) :
    path.steps.getLast? = some (.name toName) ∧
      String.ofList (Path.stem toName.toList ++ '.' :: "tmp".toList) = toName := by
  obtain ⟨-, one⟩ := List.append_inj' same rfl
  obtain ⟨-, -, ends, -⟩ := target_name leads
  obtain ⟨-, -, tempEnds, -⟩ := target_name led
  rw [temporary_eq ends, List.getLast?_concat] at tempEnds
  have renamed := Step.name.inj (Option.some.inj tempEnds)
  exact ⟨ends, renamed.trans (List.singleton_inj.mp one).symm⟩

/-- The temporary file is another than the feed, wherever the two lead. -/
theorem temporary_apart (distinct : path.extension? ≠ some "tmp")
    {directory toDirectory : Location} {name toName : String} {closed : Bool}
    (led : disk.target (temporary path) = .ok (.name directory name false))
    (leads : disk.target path = .ok (.name toDirectory toName closed)) :
    toDirectory ++ [toName] ≠ directory ++ [name] := by
  intro same
  obtain ⟨ends, renamed⟩ := temporary_same led leads same
  have unchanged : Path.stem toName.toList ++ '.' :: "tmp".toList = toName.toList :=
    String.toList_ofList.symm.trans (congrArg String.toList renamed)
  apply distinct
  rw [Path.extension?, Path.getLast?_components ends]
  simp only [Path.extensionOf?_of_stem (by decide) unchanged]
  rfl

theorem Stage.sight (tree : disk.IsTree) (distinct : path.extension? ≠ some "tmp")
    (stage : Stage disk path bytes moment) :
    moment.content path = some bytes ∨ moment.content path = disk.content path ∨
      Uncovers disk moment path := by
  cases stage with
  | preparing furnished =>
    exact .inr (content_kept tree furnished.grows.directories fun _ _ _ => furnished.fileAt _)
  | @writing made furnished directory name led free written =>
    have stay := put_file_directories written (by simp) free
    refine .inr (content_kept tree (furnished.grows.directories.trans stay) ?_)
    intro toDirectory toName leads
    have apart := temporary_apart distinct (stay.target led) leads
    rw [fileAt_put_other (by simp) apart, furnished.fileAt]
  | replaced stored => exact .inl (content_eq_some_iff.mpr stored)

theorem writeFeed_eq (disk : Disk) (location : String) (bytes : ByteArray) :
    (writeFeed disk location bytes).2.2 = (replace disk (Path.ofText location) bytes).1 ∧
      ((writeFeed disk location bytes).1.isOk = true →
        (replace disk (Path.ofText location) bytes).2 = none) := by
  rw [writeFeed]
  split <;> rename_i replaced <;> rw [replaced]
  · exact ⟨rfl, fun _ => rfl⟩
  · exact ⟨rfl, nofun⟩

/-- Whatever moment of a replacement is looked at, and also where it breaks off, the feed is the new
one or what it was before, or it is a file that was there already and is now uncovered. If the
replacement succeeds, the feed is the new one at its end. -/
theorem replacement_never_partial (tree : disk.IsTree) (location : String) (bytes : ByteArray)
    (distinct : (Path.ofText location).extension? ≠ some "tmp") :
    let path := Path.ofText location
    let written := writeFeed disk location bytes
    Passes disk (writeEffects disk path bytes) written.2.2 ∧
      (∀ moment, Passes disk (writeEffects disk path bytes) moment →
        moment.content path = some bytes ∨ moment.content path = disk.content path ∨
          Uncovers disk moment path) ∧
      (written.1.isOk = true → written.2.2.content path = some bytes) := by
  intro path written
  obtain ⟨ends, succeeds⟩ := writeFeed_eq disk location bytes
  refine ⟨?_, fun moment passes => passes.stage.sight tree distinct, fun accepted => ?_⟩
  · rw [ends]
    exact carryOut_passes disk _
  · rw [ends]
    exact content_eq_some_iff.mpr (replace_read (Prod.ext rfl (succeeds accepted)))

/-- While the temporary file holds a part of a new feed the old feed is read, and the new one at the
end. -/
theorem replacement_half_written :
    let disk := builtBy (oldFeed "feed.xml")
    let path := Path.ofText "feed.xml"
    (∃ moment, Passes disk (writeEffects disk path "new".toUTF8) moment ∧
      moment.content (temporary path) = some "ne".toUTF8 ∧
      moment.content path = some "old".toUTF8) ∧
      (writeFeed disk "feed.xml" "new".toUTF8).2.2.content path = some "new".toUTF8 := by
  intro disk path
  obtain ⟨-, whole, ends⟩ := replacement_never_partial (builtBy_isTree (oldFeed "feed.xml")) "feed.xml"
    "new".toUTF8 (by decide)
  let emptied := oldFeed "feed.xml" ++ [.create (temporary path)]
  let begun := emptied ++ [.append (temporary path) "ne".toUTF8]
  have ready : directoriesToMake disk (above path) = [] := by decide
  have created : disk.create (temporary path) = .ok (builtBy emptied) := by decide
  have passes : Passes disk (writeEffects disk path "new".toUTF8) (builtBy begun) := by
    rw [writeEffects_eq, ready]
    exact .later created (.partly 2 (by decide))
  refine ⟨⟨builtBy begun, passes, by decide, ?_⟩, ends (by decide)⟩
  rcases whole _ passes with full | kept | shown
  · exact absurd full (by decide)
  · rw [kept]
    decide
  · exact absurd shown.climbs (by decide)

/-- At some moment of the replacement the path holds neither what it held before nor the bytes. -/
def ShowsOther (disk : Disk) (location : String) (bytes : ByteArray) : Prop :=
  ∃ moment, Passes disk (writeEffects disk (Path.ofText location) bytes) moment ∧
    moment.content (Path.ofText location) ≠ some bytes ∧
    moment.content (Path.ofText location) ≠ disk.content (Path.ofText location)

/-- Both exceptions occur with configurations that are in order: a path that goes up out of a
missing directory, and a feed that bears the name of its temporary file. -/
theorem replacement_shows_other :
    let config (location : String) : Config :=
      { source := { pageUrl := "http://[::]", origin := "http://[::]" }
        feed := { outputPath := location } }
    (config "sub/../feed.xml").fault? = none ∧
      ShowsOther (builtBy (oldFeed "feed.xml" ++ [.directory (Path.ofText "feed.tmp")]))
        "sub/../feed.xml" "new".toUTF8 ∧
      (config "feed.tmp").fault? = none ∧
      ShowsOther (builtBy (oldFeed "feed.tmp")) "feed.tmp" "new".toUTF8 := by
  refine ⟨by decide +kernel, ?_, by decide +kernel, ?_⟩
  · exact ⟨_, carryOut_passes _ _, by decide, by decide⟩
  · let disk := builtBy (oldFeed "feed.tmp")
    let path := Path.ofText "feed.tmp"
    let emptied := oldFeed "feed.tmp" ++ [.create (temporary path)]
    have ready : directoriesToMake disk (above path) = [] := by decide
    have created : disk.create (temporary path) = .ok (builtBy emptied) := by decide
    have passes : Passes disk (writeEffects disk path "new".toUTF8) (builtBy emptied) := by
      rw [writeEffects_eq, ready]
      exact .later created (.here _ _)
    exact ⟨_, passes, by decide, by decide⟩

end IssueFeed.Store
