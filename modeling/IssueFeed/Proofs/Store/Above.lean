import IssueFeed.Proofs.Store.Whole

/-! The directories above a path.
They are the paths that begin it, and a replacement makes all of them. Steps that stay where they
are do not count, so a path that is put together of another one's components has these
components. -/
namespace IssueFeed.Store

namespace Path

variable {path : Path} {absolute : Bool} {steps front : List Step}

/-! ## Components -/

/-- No step stays where it is, save the first of a path that starts in the working directory. -/
def Clean (absolute : Bool) (steps : List Step) : Prop :=
  Step.here ∉ steps.drop (if absolute then 0 else 1)

theorem components_clean (path : Path) : Clean path.absolute path.components := by
  have filtered : ∀ count (steps : List Step),
      Step.here ∉ (steps.filter (· ≠ Step.here)).drop count := by
    intro count steps member
    have kept := List.mem_of_mem_drop member
    simp at kept
  obtain ⟨absolute, steps, closed⟩ := path
  cases steps with
  | nil => exact filtered _ []
  | cons first rest =>
    cases first with
    | here => cases absolute <;> exact filtered 0 rest
    | up => exact filtered _ (.up :: rest)
    | name text => exact filtered _ (.name text :: rest)

theorem components_of_clean (clean : Clean absolute steps) (closed : Bool) :
    components ⟨absolute, steps, closed⟩ = steps := by
  have kept : ∀ {steps : List Step}, Step.here ∉ steps → steps.filter (· ≠ Step.here) = steps := by
    intro steps free
    apply List.filter_eq_self.mpr
    intro step member
    rw [decide_eq_true_iff]
    rintro rfl
    exact free member
  unfold Clean at clean
  cases steps with
  | nil => rfl
  | cons first rest =>
    cases absolute with
    | true =>
      have free : Step.here ∉ first :: rest := clean
      cases first with
      | here => exact absurd List.mem_cons_self free
      | up => exact kept free
      | name text => exact kept free
    | false =>
      have free : Step.here ∉ rest := clean
      cases first with
      | here => exact congrArg _ (kept free)
      | up => exact kept (by simpa using free)
      | name text => exact kept (by simpa using free)

theorem Clean.beginning (clean : Clean absolute steps) (begins : front <+: steps) :
    Clean absolute front := by
  obtain ⟨rest, rfl⟩ := begins
  intro member
  apply clean
  rw [List.drop_append]
  exact List.mem_append_left _ member

/-! ## Paths above -/

/-- The path is one of those through which the other one leads. -/
structure IsAbove (ancestor path : Path) : Prop where
  absolute : ancestor.absolute = path.absolute
  closed : ancestor.closed = false
  named : ancestor.isEmpty = false
  begins : ancestor.steps <+: path.components
  shorter : ancestor.steps ≠ path.components

end Path

open Disk

variable {disk made : Disk} {path ancestor : Path} {absolute : Bool} {steps : List Step}

theorem mem_ladder_iff : ancestor ∈ ladder absolute steps ↔
    ∃ front, front <+: steps ∧ front ≠ [] ∧ ancestor = ⟨absolute, front, false⟩ := by
  simp only [ladder, List.mem_reverse, List.mem_map, List.mem_range]
  constructor
  · rintro ⟨count, inside, rfl⟩
    refine ⟨_, List.take_prefix _ _, ?_, rfl⟩
    rw [ne_eq, List.take_eq_nil_iff, not_or]
    exact ⟨by omega, List.ne_nil_of_length_pos (by omega)⟩
  · rintro ⟨front, begins, some_, rfl⟩
    have length := begins.length_le
    have positive := List.length_pos_iff.mpr some_
    refine ⟨front.length - 1, by omega, ?_⟩
    rw [Nat.sub_add_cancel positive, ← List.prefix_iff_eq_take.mp begins]

theorem above_ladder (path : Path) : above path = ladder path.absolute path.components.dropLast := by
  unfold above Path.parent?
  by_cases none_ : path.components.isEmpty = true
  · rw [if_pos none_, List.isEmpty_iff.mp none_]
    rfl
  · rw [if_neg none_]
    have clean := (Path.components_clean path).beginning (List.dropLast_prefix _)
    exact congrArg (ladder path.absolute) (Path.components_of_clean clean false)

theorem mem_above_iff : ancestor ∈ above path ↔ ancestor.IsAbove path ∧ ancestor.steps ≠ [] := by
  rw [above_ladder, mem_ladder_iff]
  constructor
  · rintro ⟨front, begins, some_, rfl⟩
    refine ⟨⟨rfl, rfl, ?_, begins.trans (List.dropLast_prefix _), ?_⟩, some_⟩
    · simp [Path.isEmpty, some_]
    · rintro rfl
      have lengths := begins.length_le
      have positive := List.length_pos_iff.mpr some_
      rw [List.length_dropLast] at lengths
      omega
  · rintro ⟨⟨here, opened, -, begins, shorter⟩, some_⟩
    refine ⟨ancestor.steps, ?_, some_, ?_⟩
    · obtain ⟨rest, whole⟩ := begins
      cases rest using List.reverseRec with
      | nil => exact absurd ((List.append_nil _).symm.trans whole) shorter
      | append_singleton rest last =>
        rw [← whole, ← List.append_assoc, List.dropLast_concat]
        exact List.prefix_append _ _
    · rw [← here, ← opened]

theorem ladder_isDirectory (there : disk.isDirectory ⟨absolute, steps, false⟩ = true)
    (among : ancestor ∈ ladder absolute steps) : disk.isDirectory ancestor = true := by
  induction steps using List.reverseRec with
  | nil => cases among
  | append_singleton steps step ih =>
    rw [ladder_concat] at among
    rcases List.mem_cons.mp among with rfl | shorter
    · exact there
    · apply ih _ shorter
      obtain ⟨arrived, led, -⟩ := target_of_isDirectory there
      apply isDirectory_above led
      rintro rfl
      cases shorter

theorem root_isDirectory (disk : Disk) : disk.isDirectory ⟨true, [], false⟩ = true :=
  isDirectory_iff.mpr ⟨by decide, [], rfl, rfl⟩

/-- Once the directories are made there is one at the end of every path above. -/
theorem makeAll_above_isDirectory (prepared : makeAll disk (above path) = (made, none))
    (isAbove : ancestor.IsAbove path) : made.isDirectory ancestor = true := by
  by_cases root : ancestor.steps = []
  · obtain ⟨absolute, steps, closed⟩ := ancestor
    obtain ⟨-, rfl, named, -, -⟩ := isAbove
    cases root
    cases absolute with
    | true => exact root_isDirectory made
    | false => cases named
  · have among := mem_above_iff.mpr ⟨isAbove, root⟩
    rw [above_ladder] at prepared among
    cases steps : path.components.dropLast using List.reverseRec with
    | nil =>
      rw [steps] at among
      cases among
    | append_singleton front step =>
      rw [steps, ladder_concat] at prepared
      rw [steps] at among
      exact ladder_isDirectory (makeAll_isDirectory prepared) among

end IssueFeed.Store
