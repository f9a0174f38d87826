import Mathlib.Data.List.Nodup

/-! Entries under keys.
Where no key stands twice, looking a key up is asking for a member, so the order of the entries does
not matter. Entries are overwritten by others key by key; keys that only the others have are left
out. -/
namespace IssueFeed

variable {β γ : Type} {key : String} {b : β}

theorem lookup_eq_some_iff_mem {entries : List (String × β)}
    (once : (entries.map Prod.fst).Nodup) :
    entries.lookup key = some b ↔ (key, b) ∈ entries := by
  induction entries with
  | nil => simp
  | cons entry entries ih =>
    obtain ⟨first, value⟩ := entry
    rw [List.map_cons, List.nodup_cons] at once
    by_cases same : key = first
    · subst same
      have absent : (key, b) ∉ entries := fun member =>
        once.1 (List.mem_map.mpr ⟨_, member, rfl⟩)
      simp [absent, eq_comm]
    · rw [List.lookup_cons, beq_false_of_ne same, ih once.2]
      simp [same]

theorem lookup_eq_none_iff_not_mem {entries : List (String × β)} :
    entries.lookup key = none ↔ ∀ b, (key, b) ∉ entries := by
  rw [List.lookup_eq_none_iff]
  constructor
  · intro others b member
    simpa using others (key, b) member
  · rintro absent ⟨other, b⟩ member
    have different : key ≠ other := fun same => absent b (same ▸ member)
    simpa using different

/-- Two records of values other than `default` that agree give the same value where one is needed.
-/
theorem lookup_getD_eq {entries others : List (String × β)} (default : β)
    (once : (entries.map Prod.fst).Nodup) (otherOnce : (others.map Prod.fst).Nodup)
    (agree : ∀ b, b ≠ default → ((key, b) ∈ entries ↔ (key, b) ∈ others)) :
    (entries.lookup key).getD default = (others.lookup key).getD default := by
  have known {b : β} (other : b ≠ default) :
      entries.lookup key = some b ↔ others.lookup key = some b := by
    rw [lookup_eq_some_iff_mem once, lookup_eq_some_iff_mem otherOnce, agree b other]
  by_cases given : (entries.lookup key).getD default = default
  · by_cases alsoGiven : (others.lookup key).getD default = default
    · rw [given, alsoGiven]
    · cases found : others.lookup key with
      | none => simp [found] at alsoGiven
      | some b =>
        rw [found, Option.getD_some] at alsoGiven
        rw [(known alsoGiven).mpr found]
  · cases found : entries.lookup key with
    | none => simp [found] at given
    | some b =>
      rw [found, Option.getD_some] at given
      rw [(known given).mp found]

/-- The entries with `b` under the key. -/
def replaced (key : String) (b : β) (entries : List (String × β)) : List (String × β) :=
  entries.map fun entry => if entry.1 = key then (entry.1, b) else entry

/-- The entries with what is made of the given ones under their keys. -/
def overwritten (image : String → γ → β) (given : List (String × γ))
    (entries : List (String × β)) : List (String × β) :=
  entries.map fun entry => (entry.1, ((given.lookup entry.1).map (image entry.1)).getD entry.2)

variable {image : String → γ → β} {given : List (String × γ)} {entries : List (String × β)} {v : γ}

theorem overwritten_nil : overwritten image [] entries = entries := by
  simp [overwritten]

theorem overwritten_cons_of_not_mem (absent : ∀ b, (key, b) ∉ entries) :
    overwritten image ((key, v) :: given) entries = overwritten image given entries := by
  refine List.map_congr_left fun entry member => ?_
  have different : entry.1 ≠ key := by
    rintro rfl
    exact absent entry.2 member
  rw [List.lookup_cons, beq_false_of_ne different]

theorem overwritten_replaced (absent : ∀ u, (key, u) ∉ given) :
    overwritten image given (replaced key (image key v) entries) =
      overwritten image ((key, v) :: given) entries := by
  rw [overwritten, replaced, List.map_map]
  refine List.map_congr_left fun entry _ => ?_
  rw [Function.comp_apply, List.lookup_cons]
  split_ifs with same
  · subst same
    rw [lookup_eq_none_iff_not_mem.mpr absent, beq_self_eq_true]
    rfl
  · rw [beq_false_of_ne same]

theorem mem_overwritten (once : (given.map Prod.fst).Nodup) :
    (key, b) ∈ overwritten image given entries ↔
      ∃ default, (key, default) ∈ entries ∧
        ((∃ v, (key, v) ∈ given ∧ b = image key v) ∨ b = default ∧ ∀ v, (key, v) ∉ given) := by
  rw [overwritten, List.mem_map]
  constructor
  · rintro ⟨⟨_, default⟩, member, same⟩
    obtain ⟨rfl, rfl⟩ := Prod.mk.inj same
    refine ⟨default, member, ?_⟩
    dsimp only
    cases found : given.lookup _ with
    | none => exact .inr ⟨rfl, lookup_eq_none_iff_not_mem.mp found⟩
    | some v => exact .inl ⟨v, (lookup_eq_some_iff_mem once).mp found, rfl⟩
  · rintro ⟨default, member, ⟨v, overwrites, rfl⟩ | ⟨rfl, absent⟩⟩
    · refine ⟨_, member, ?_⟩
      rw [(lookup_eq_some_iff_mem once).mpr overwrites]
      rfl
    · refine ⟨_, member, ?_⟩
      rw [lookup_eq_none_iff_not_mem.mpr absent]
      rfl

end IssueFeed
