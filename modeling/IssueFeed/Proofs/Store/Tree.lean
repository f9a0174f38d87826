import IssueFeed.Store.FeedFile
import Mathlib.Data.List.Basic

/-! What a disk has at a place, and where a path leads.
A path leads where it leads by the directories on its way alone. So it still leads there on any disk
that has these directories, whatever else has changed. -/
namespace IssueFeed.Store.Disk

variable {disk other : Disk} {place : Location} {path : Path}

theorem lookup_filter_ne (entries : List (Location × Entry)) (gone place : Location) :
    (entries.filter (·.1 ≠ gone)).lookup place =
      if place = gone then none else entries.lookup place := by
  induction entries with
  | nil => simp
  | cons entry entries ih =>
    obtain ⟨here, content⟩ := entry
    by_cases same : here = gone
    · subst same
      rw [List.filter_cons_of_neg (by simp), ih]
      by_cases asked : place = here
      · rw [if_pos asked, if_pos asked]
      · rw [if_neg asked, if_neg asked, List.lookup_cons, beq_eq_false_iff_ne.mpr asked]
    · rw [List.filter_cons_of_pos (by simpa using same), List.lookup_cons, List.lookup_cons, ih]
      by_cases asked : place = here
      · subst asked
        rw [beq_self_eq_true]
        exact (if_neg same).symm
      · rw [beq_eq_false_iff_ne.mpr asked]

theorem get?_erase (gone asked : Location) (inside : gone ≠ []) :
    (disk.erase gone).get? asked = if asked = gone then none else disk.get? asked := by
  by_cases root : asked = []
  · subst root
    rw [if_neg (Ne.symm inside)]
    rfl
  · have named : asked.isEmpty = false := by simpa using root
    rw [get?, get?, named, erase, if_neg Bool.false_ne_true, if_neg Bool.false_ne_true]
    exact lookup_filter_ne _ gone asked

theorem get?_put (place : Location) (entry : Entry) (asked : Location) (inside : place ≠ []) :
    (disk.put place entry).get? asked = if asked = place then some entry else disk.get? asked := by
  by_cases same : asked = place
  · subst same
    have named : asked.isEmpty = false := by simpa using inside
    rw [if_pos rfl, get?, named, put, if_neg Bool.false_ne_true]
    exact List.lookup_cons_self
  · have erased : (disk.erase place).get? asked = _ := get?_erase place asked inside
    rw [if_neg same] at erased ⊢
    rw [← erased, get?, get?, put, List.lookup_cons, beq_eq_false_iff_ne.mpr same]

theorem put_put (place : Location) (first second : Entry) :
    (disk.put place first).put place second = disk.put place second := by
  have twice : ∀ entries : List (Location × Entry),
      (entries.filter (·.1 ≠ place)).filter (·.1 ≠ place) = entries.filter (·.1 ≠ place) :=
    fun entries => by simp
  simp only [put, erase, List.filter_cons, ne_eq, not_true_eq_false, decide_false,
    Bool.false_eq_true, if_false] at twice ⊢
  rw [twice]

theorem get?_put_self (entry : Entry) (inside : place ≠ []) :
    (disk.put place entry).get? place = some entry := by
  rw [get?_put place entry place inside, if_pos rfl]

theorem isDirectoryAt_iff :
    disk.isDirectoryAt place = true ↔ disk.get? place = some .directory := by
  rw [isDirectoryAt, decide_eq_true_iff]

/-! ## Where a path leads -/

/-- Where the walk along a path starts. -/
def start (disk : Disk) (path : Path) : Location :=
  if path.absolute then [] else disk.working

def hasNul (path : Path) : Bool :=
  path.steps.any fun step =>
    match step with
    | .name name => name.toList.contains '\x00'
    | _ => false

/-- Why a path is refused, whatever is on the disk. -/
def refusal? (path : Path) : Option FileFault :=
  if hasNul path then some .nulCharacter
  else if longestPath < pathLength path then some .nameTooLong
  else if path.isEmpty then some .notFound
  else none

/-- Where a path leads by its last step, once the walk along the others is over. -/
def endStep (disk : Disk) (place : Location) (closed : Bool) :
    Option Step → Except FileFault Target
  | none => .ok (.position place)
  | some (.name name) =>
    if !disk.isDirectoryAt place then .error .notADirectory
    else if longestName < name.utf8ByteSize then .error .nameTooLong
    else .ok (.name place name closed)
  | some step =>
    match disk.walkStep place step with
    | .ok place => .ok (.position place)
    | .error fault => .error fault

theorem target_refused {fault : FileFault} (refused : refusal? path = some fault) :
    disk.target path = .error fault := by
  unfold refusal? at refused
  by_cases nul : hasNul path = true
  · rw [if_pos nul] at refused
    cases refused
    exact if_pos nul
  by_cases long : longestPath < pathLength path
  · rw [if_neg nul, if_pos long] at refused
    cases refused
    exact (if_neg nul).trans (if_pos long)
  by_cases empty : path.isEmpty = true
  · rw [if_neg nul, if_neg long, if_pos empty] at refused
    cases refused
    exact (if_neg nul).trans ((if_neg long).trans (if_pos empty))
  · rw [if_neg nul, if_neg long, if_neg empty] at refused
    cases refused

theorem refusal?_eq_none_iff : refusal? path = none ↔
    ¬ hasNul path = true ∧ ¬ longestPath < pathLength path ∧ ¬ path.isEmpty = true := by
  unfold refusal?
  split_ifs <;> simp_all

theorem target_accepted (accepted : refusal? path = none) :
    disk.target path =
      match disk.walk (disk.start path) path.steps.dropLast with
      | .error fault => .error fault
      | .ok place => disk.endStep place path.closed path.steps.getLast? := by
  rw [refusal?_eq_none_iff] at accepted
  obtain ⟨nul, long, empty⟩ := accepted
  refine (if_neg nul).trans ((if_neg long).trans ((if_neg empty).trans ?_))
  unfold start
  cases disk.walk (if path.absolute then [] else disk.working) path.steps.dropLast with
  | error fault => rfl
  | ok place =>
    rcases path.steps.getLast? with _ | _ | _ | _ <;> rfl

theorem target_ok {end_ : Target} (h : disk.target path = .ok end_) :
    refusal? path = none ∧ ∃ place,
      disk.walk (disk.start path) path.steps.dropLast = .ok place ∧
        disk.endStep place path.closed path.steps.getLast? = .ok end_ := by
  have accepted : refusal? path = none := by
    cases refused : refusal? path with
    | none => rfl
    | some fault => rw [target_refused refused] at h; cases h
  rw [target_accepted accepted] at h
  split at h
  · cases h
  · rename_i place walked
    exact ⟨accepted, place, walked, h⟩

theorem walk_append (disk : Disk) (place : Location) (steps : List Step) (step : Step) :
    disk.walk place (steps ++ [step]) =
      match disk.walk place steps with
      | .error fault => .error fault
      | .ok next => disk.walkStep next step := by
  induction steps generalizing place with
  | nil =>
    change disk.walk place [step] = disk.walkStep place step
    rw [walk]
    cases disk.walkStep place step <;> rfl
  | cons first steps ih =>
    rw [List.cons_append, walk, walk]
    cases disk.walkStep place first with
    | error fault => rfl
    | ok next => exact ih next

theorem walkStep_from {step : Step} {next : Location} (h : disk.walkStep place step = .ok next) :
    disk.isDirectoryAt place = true := by
  unfold walkStep at h
  split at h
  · cases h
  · rename_i standing
    simpa using standing

theorem endStep_from {step : Step} {closed : Bool} {end_ : Target}
    (h : disk.endStep place closed (some step) = .ok end_) : disk.isDirectoryAt place = true := by
  unfold endStep at h
  split at h
  · contradiction
  · split_ifs at h with outside
    simpa using outside
  · split at h
    · exact walkStep_from ‹_›
    · cases h

/-! ## Directories that stay -/

/-- All directories of the one disk are on the other. -/
structure DirectoriesStay (disk other : Disk) : Prop where
  working : other.working = disk.working
  directory : ∀ place, disk.isDirectoryAt place = true → other.isDirectoryAt place = true

theorem DirectoriesStay.refl (disk : Disk) : DirectoriesStay disk disk :=
  ⟨rfl, fun _ h => h⟩

theorem DirectoriesStay.trans {third : Disk} (first : DirectoriesStay disk other)
    (second : DirectoriesStay other third) : DirectoriesStay disk third :=
  ⟨second.working.trans first.working, fun place h => second.directory place
    (first.directory place h)⟩

theorem DirectoriesStay.walkStep (stay : DirectoriesStay disk other) {step : Step}
    {next : Location} (h : disk.walkStep place step = .ok next)
    (ends : disk.isDirectoryAt next = true) : other.walkStep place step = .ok next := by
  have stands := stay.directory place (walkStep_from h)
  have arrives := isDirectoryAt_iff.mp (stay.directory next ends)
  simp only [Disk.walkStep, walkStep_from h, stands, Bool.not_true, Bool.false_eq_true,
    if_false] at h ⊢
  cases step with
  | here => exact h
  | up => exact h
  | name name =>
    simp only at h ⊢
    split_ifs at h with long missing
    cases h
    simp [long, arrives]

theorem DirectoriesStay.walk (stay : DirectoriesStay disk other) {steps : List Step}
    {last : Location} (h : disk.walk place steps = .ok last)
    (ends : disk.isDirectoryAt last = true) :
    disk.isDirectoryAt place = true ∧ other.walk place steps = .ok last := by
  -- The induction is on the steps; that each leads to a directory is known from the next.
  induction steps generalizing place with
  | nil =>
    cases h
    exact ⟨ends, rfl⟩
  | cons step steps ih =>
    rw [Disk.walk] at h
    split at h
    · rename_i next stepped
      obtain ⟨passes, walked⟩ := ih h
      refine ⟨walkStep_from stepped, ?_⟩
      rw [Disk.walk, stay.walkStep stepped passes]
      exact walked
    · cases h

theorem DirectoriesStay.endStep (stay : DirectoriesStay disk other) {step : Step} {closed : Bool}
    {arrived : Target} (h : disk.endStep place closed (some step) = .ok arrived) :
    other.endStep place closed (some step) = .ok arrived := by
  have stands := endStep_from h
  have still := stay.directory place stands
  cases step <;>
    simp only [Disk.endStep, Disk.walkStep, stands, still, Bool.not_true, Bool.false_eq_true,
      if_false] at h ⊢ <;>
    exact h

/-- A path that leads somewhere leads there on every disk that has the same directories. -/
theorem DirectoriesStay.target (stay : DirectoriesStay disk other) {arrived : Target}
    (h : disk.target path = .ok arrived) : other.target path = .ok arrived := by
  obtain ⟨accepted, place, walked, stepped⟩ := target_ok h
  have starts : other.start path = disk.start path := by
    rw [Disk.start, Disk.start, stay.working]
  rw [target_accepted accepted, starts]
  cases last : path.steps.getLast? with
  | none =>
    rw [List.getLast?_eq_none_iff.mp last] at walked ⊢
    rw [last] at stepped
    cases walked
    exact stepped
  | some step =>
    rw [last] at stepped
    rw [(stay.walk walked (endStep_from stepped)).2]
    exact stay.endStep stepped

/-! ## Paths that lead to directories -/

/-- Whether there is a directory at the end of a path. -/
def endsInDirectory (disk : Disk) : Target → Bool
  | .position place => disk.isDirectoryAt place
  | .name directory name _ => disk.isDirectoryAt (directory ++ [name])

theorem isDirectory_of_target {arrived : Target} (led : disk.target path = .ok arrived) :
    disk.isDirectory path = disk.endsInDirectory arrived := by
  rw [isDirectory, led]
  cases arrived <;> rfl

theorem target_of_isDirectory (h : disk.isDirectory path = true) :
    ∃ arrived, disk.target path = .ok arrived ∧ disk.endsInDirectory arrived = true := by
  cases led : disk.target path with
  | error fault =>
    rw [isDirectory, led] at h
    cases h
  | ok arrived => exact ⟨arrived, rfl, (isDirectory_of_target led).symm.trans h⟩

theorem endStep_directory_iff (place : Location) (closed : Bool) (step : Step) :
    (∃ arrived, disk.endStep place closed (some step) = .ok arrived ∧
        disk.endsInDirectory arrived = true) ↔
      ∃ next, disk.walkStep place step = .ok next ∧ disk.isDirectoryAt next = true := by
  by_cases stands : disk.isDirectoryAt place = true
  · cases step with
    | here => simp [endStep, walkStep, stands, endsInDirectory]
    | up => simp [endStep, walkStep, stands, endsInDirectory]
    | name name =>
      by_cases long : longestName < name.utf8ByteSize
      · simp [endStep, walkStep, stands, long]
      · simp only [endStep, walkStep, stands, long, isDirectoryAt_iff, Bool.not_true,
          Bool.false_eq_true, if_false, Except.ok.injEq, exists_eq_left', endsInDirectory]
        constructor
        · intro there
          exact ⟨place ++ [name], by rw [there]; rfl, there⟩
        · rintro ⟨next, stepped, there⟩
          split_ifs at stepped
          cases stepped
          exact there
  · cases step <;> simp [endStep, walkStep, stands]

/-- A path leads to a directory if the walk along all of it does. -/
theorem isDirectory_iff :
    disk.isDirectory path = true ↔
      refusal? path = none ∧ ∃ place, disk.walk (disk.start path) path.steps = .ok place ∧
        disk.isDirectoryAt place = true := by
  have arrives : disk.isDirectory path = true ↔
      ∃ arrived, disk.target path = .ok arrived ∧ disk.endsInDirectory arrived = true := by
    constructor
    · exact target_of_isDirectory
    · rintro ⟨arrived, led, there⟩
      exact (isDirectory_of_target led).trans there
  rw [arrives]
  cases refused : refusal? path with
  | some fault => simp [target_refused refused]
  | none =>
    rw [target_accepted refused]
    cases last : path.steps.getLast? with
    | none =>
      rw [List.getLast?_eq_none_iff.mp last]
      simp [walk, endStep, endsInDirectory]
    | some step =>
      have whole := List.dropLast_append_getLast? step last
      have walked := disk.walk_append (disk.start path) path.steps.dropLast step
      rw [whole] at walked
      rw [walked]
      cases disk.walk (disk.start path) path.steps.dropLast with
      | error fault => simp
      | ok place => simpa using endStep_directory_iff place path.closed step

theorem pathLength_le (absolute closed : Bool) (steps : List Step) (step : Step) :
    pathLength ⟨absolute, steps, false⟩ ≤ pathLength ⟨absolute, steps ++ [step], closed⟩ := by
  simp only [pathLength, List.map_append, List.foldl_append, List.map_cons, List.map_nil,
    List.foldl_cons, List.foldl_nil, List.length_append, List.length_map, List.length_cons,
    List.length_nil, Bool.false_eq_true, if_false]
  omega

theorem accepted_above {absolute closed : Bool} {steps : List Step} {step : Step}
    (accepted : refusal? ⟨absolute, steps ++ [step], closed⟩ = none) (some_ : steps ≠ []) :
    refusal? ⟨absolute, steps, false⟩ = none := by
  rw [refusal?_eq_none_iff] at accepted ⊢
  obtain ⟨nul, long, -⟩ := accepted
  refine ⟨fun inside => nul ?_, fun longer => long ?_, ?_⟩
  · rw [hasNul, List.any_append]
    exact Bool.or_eq_true_iff.mpr (.inl inside)
  · exact Nat.lt_of_lt_of_le longer (pathLength_le absolute closed steps step)
  · simp [Path.isEmpty, some_]

/-- What leads somewhere leads through a directory. -/
theorem isDirectory_above {absolute closed : Bool} {steps : List Step} {step : Step}
    {arrived : Target} (h : disk.target ⟨absolute, steps ++ [step], closed⟩ = .ok arrived)
    (some_ : steps ≠ []) : disk.isDirectory ⟨absolute, steps, false⟩ = true := by
  obtain ⟨accepted, place, walked, stepped⟩ := target_ok h
  rw [List.dropLast_concat] at walked
  rw [List.getLast?_concat] at stepped
  rw [isDirectory_iff]
  exact ⟨accepted_above accepted some_, place, walked, endStep_from stepped⟩

theorem endStep_ne_notFound (place : Location) (closed : Bool) (last : Option Step) :
    disk.endStep place closed last ≠ .error .notFound := by
  cases last with
  | none => simp [endStep]
  | some step =>
    cases step <;> simp only [endStep, walkStep]
    · split_ifs <;> simp
    · cases disk.isDirectoryAt place <;> simp
    · cases disk.isDirectoryAt place <;> simp

theorem refusal?_ne_notFound (named : path.isEmpty = false) : refusal? path ≠ some .notFound := by
  unfold refusal?
  rw [named]
  split_ifs <;> simp_all

/-- A path whose last step is taken from a place that is there can fail for many reasons, but not
because something on its way is missing. -/
theorem makeDirectory_ne_notFound (named : path.isEmpty = false)
    (walked : disk.walk (disk.start path) path.steps.dropLast = .ok place) :
    disk.makeDirectory path ≠ .error .notFound := by
  have reached : disk.target path ≠ .error .notFound := by
    cases refused : refusal? path with
    | some fault =>
      rw [target_refused refused]
      rintro ⟨⟩
      exact refusal?_ne_notFound named refused
    | none =>
      rw [target_accepted refused, walked]
      exact endStep_ne_notFound place path.closed _
  unfold makeDirectory
  split
  · simpa [*] using reached
  · simp
  · split <;> simp

theorem makeDirectory_of_isDirectory (h : disk.isDirectory path = true) :
    disk.makeDirectory path = .error .alreadyExists := by
  obtain ⟨arrived, led, there⟩ := target_of_isDirectory h
  rw [makeDirectory, led]
  cases arrived with
  | position place => rfl
  | name directory name closed =>
    rw [endsInDirectory, isDirectoryAt_iff] at there
    simp only [there]

theorem DirectoriesStay.isDirectory (stay : DirectoriesStay disk other)
    (h : disk.isDirectory path = true) : other.isDirectory path = true := by
  obtain ⟨arrived, led, there⟩ := target_of_isDirectory h
  rw [isDirectory_of_target (stay.target led)]
  cases arrived <;> exact stay.directory _ there

/-- Below a directory there is nothing to look for on the way. -/
theorem makeDirectory_below {absolute closed : Bool} {steps : List Step} (step : Step)
    (h : disk.isDirectory ⟨absolute, steps, false⟩ = true) :
    disk.makeDirectory ⟨absolute, steps ++ [step], closed⟩ ≠ .error .notFound := by
  rw [isDirectory_iff] at h
  obtain ⟨-, place, walked, -⟩ := h
  have along : (steps ++ [step]).dropLast = steps := List.dropLast_concat
  exact makeDirectory_ne_notFound (by simp [Path.isEmpty]) (along.symm ▸ walked)

end IssueFeed.Store.Disk
