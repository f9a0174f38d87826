import IssueFeed.Proofs.Feed.Reload
import IssueFeed.Proofs.Page.Links

/-! When two links are the same.
A link is known by its key, and two links have the same key exactly if they differ in blanks only.
So an anchor has one key however its target is padded and however many slashes end the origin, and
that key is still known after any merges and reloads. -/
namespace IssueFeed

open Text (isBlank)

namespace Text

/-- Two texts are the same but for characters of a class. -/
inductive Respaced (p : Char → Bool) : List Char → List Char → Prop
  | nil : Respaced p [] []
  | same (c : Char) {cs ds : List Char} : Respaced p cs ds → Respaced p (c :: cs) (c :: ds)
  | left {c : Char} {cs ds : List Char} :
      p c = true → Respaced p cs ds → Respaced p (c :: cs) ds
  | right {d : Char} {cs ds : List Char} :
      p d = true → Respaced p cs ds → Respaced p cs (d :: ds)

variable {p : Char → Bool} {cs ds : List Char}

theorem Respaced.filter_eq (respaced : Respaced p cs ds) :
    cs.filter (!p ·) = ds.filter (!p ·) := by
  induction respaced with
  | nil => rfl
  | same c _ ih => rw [List.filter_cons, List.filter_cons, ih]
  | left inside _ ih => rw [List.filter_cons_of_neg (by simp [inside]), ih]
  | right inside _ ih => rw [List.filter_cons_of_neg (by simp [inside]), ih]

theorem respaced_of_filter_eq (same : cs.filter (!p ·) = ds.filter (!p ·)) :
    Respaced p cs ds := by
  -- The induction is on the first text, and within each case on the second: whichever begins with
  -- a character of the class gives it up, and where neither does they begin with the same one.
  induction cs generalizing ds with
  | nil =>
    induction ds with
    | nil => exact .nil
    | cons d ds ih =>
      have none := List.filter_eq_nil_iff.mp same.symm
      have inside : p d = true := by simpa using none d List.mem_cons_self
      apply Respaced.right inside
      apply ih
      rw [same, List.filter_cons_of_neg (by simp [inside])]
  | cons c cs ih =>
    cases kind : p c with
    | true =>
      apply Respaced.left kind
      apply ih
      rwa [List.filter_cons_of_neg (by simp [kind])] at same
    | false =>
      rw [List.filter_cons_of_pos (by simp [kind])] at same
      induction ds with
      | nil => cases same
      | cons d ds later =>
        cases other : p d with
        | true =>
          apply Respaced.right other
          apply later
          rwa [List.filter_cons_of_neg (by simp [other])] at same
        | false =>
          rw [List.filter_cons_of_pos (by simp [other])] at same
          obtain ⟨rfl, rest⟩ := List.cons.inj same
          exact .same c (ih rest)

theorem respaced_iff : Respaced p cs ds ↔ cs.filter (!p ·) = ds.filter (!p ·) :=
  ⟨Respaced.filter_eq, respaced_of_filter_eq⟩

end Text

open Text (Respaced)

/-! ## Keys -/

theorem linkKey_linkKey (link : String) : linkKey (linkKey link) = linkKey link := by
  simp only [linkKey, String.toList_ofList, List.filter_filter, Bool.and_self]

theorem linkKey_append (front back : String) :
    linkKey (front ++ back) = linkKey front ++ linkKey back := by
  simp only [linkKey, String.toList_append, List.filter_append, String.ofList_append]

/-- Links are told apart by what is not blank in them, and by nothing else. -/
theorem linkKey_eq_iff {link other : String} :
    linkKey link = linkKey other ↔ Respaced isBlank link.toList other.toList := by
  rw [linkKey, linkKey, String.ofList_inj, Text.respaced_iff]

/-- An anchor stands for one link whatever blanks surround its target and however many slashes end
the origin. The link ends with the target, and on a site of the web it is resolved once and for all,
which is so of exactly the links that are absolute and trimmed. A link has the key of its parts one
after the other, the key is its own key, and trimming the link in either way does not change it: two
links have the same key exactly if they differ in blanks only. -/
theorem link_identity_stable (origin href link other : String) :
    (∀ slashes before after : String, (∀ c ∈ slashes.toList, c = '/') →
        (∀ c ∈ before.toList, isBlank c = true) → (∀ c ∈ after.toList, isBlank c = true) →
        resolve (origin ++ slashes) (before ++ href ++ after) = resolve origin href) ∧
      (Text.trim href).toList <:+ (resolve origin href).toList ∧
      (NamesSite origin →
        resolve origin (resolve origin href) = resolve origin href ∧
          (resolve origin link = link ↔ IsResolved link.toList)) ∧
      linkKey (linkKey link) = linkKey link ∧
      linkKey (link ++ other) = linkKey link ++ linkKey other ∧
      linkKey (Text.trim link) = linkKey link ∧
      linkKey (withoutOuterBlanks link) = linkKey link ∧
      (linkKey link = linkKey other ↔ Respaced isBlank link.toList other.toList) := by
  refine ⟨?_, resolve_suffix origin href, ?_, linkKey_linkKey link, linkKey_append link other,
    Merge.linkKey_trim link, linkKey_withoutOuterBlanks link, linkKey_eq_iff⟩
  · intro slashes before after all front back
    exact resolve_surrounded all front back origin href
  · intro named
    exact ⟨named.resolve_resolve href, named.resolve_eq_self_iff⟩

/-- A site behind more slashes than usual, and a target with blanks around and within it. -/
theorem padded_target_one_link :
    NamesSite "https:///goslar.de" ∧
      resolve ("https:///goslar.de" ++ "//") ("\u00a0\n" ++ "heft 1.pdf" ++ "\t ") =
        "https:///goslar.de/heft 1.pdf" ∧
      resolve "https:///goslar.de" "https:///goslar.de/heft 1.pdf" =
        "https:///goslar.de/heft 1.pdf" ∧
      linkKey "https:///goslar.de/heft 1.pdf" = linkKey "https:///goslar.de/heft1.pdf\r\n" := by
  have named : NamesSite "https:///goslar.de" :=
    ⟨"https://", by decide, "/goslar.de", by decide, 'g', by decide, by decide⟩
  have resolved : resolve "https:///goslar.de" "heft 1.pdf" = "https:///goslar.de/heft 1.pdf" := by
    decide
  obtain ⟨padded, -, onSite, -, -, -, -, told⟩ :=
    link_identity_stable "https:///goslar.de" "heft 1.pdf" "https:///goslar.de/heft 1.pdf"
      "https:///goslar.de/heft1.pdf\r\n"
  have slashes : ∀ c ∈ "//".toList, c = '/' := by simp
  have front : ∀ c ∈ "\u00a0\n".toList, isBlank c = true := List.all_eq_true.mp (by decide)
  have back : ∀ c ∈ "\t ".toList, isBlank c = true := List.all_eq_true.mp (by decide)
  refine ⟨named, ?_, ?_, told.mpr ?_⟩
  · rw [padded "//" "\u00a0\n" "\t " slashes front back, resolved]
  · rw [← resolved]
    exact (onSite named).1
  · exact Text.respaced_iff.mpr (by decide)

/-! ## Recorded links -/

theorem Trail.linkKeys_next (trail : Trail) (step : Step) :
    trail.channel.linkKeys <+: (trail.next step).channel.linkKeys := by
  cases step with
  | merge config now candidates =>
    simp only [next, merge_linkKeys]
    exact List.prefix_append _ _
  | reload config now =>
    rw [next_reload, Channel.linkKeys_settled]

theorem Trail.linkKeys_follow (trail : Trail) (steps : List Step) :
    trail.channel.linkKeys <+: (trail.follow steps).channel.linkKeys := by
  induction steps generalizing trail with
  | nil => exact List.prefix_refl _
  | cons step steps ih => exact (trail.linkKeys_next step).trans (ih (trail.next step))

/-- A page begins with nothing new exactly if its first link and a recorded one differ in blanks
only. -/
theorem merge_adds_nothing_iff (config : Config) (now : Instant) (channel : Channel)
    (candidate : Candidate) (rest : List Candidate) :
    (merge config now channel (candidate :: rest)).added = 0 ↔
      ∃ item ∈ channel.items, Respaced isBlank item.link.toList candidate.link.toList := by
  have known : linkKey candidate.link ∈ channel.linkKeys ↔
      ∃ item ∈ channel.items, Respaced isBlank item.link.toList candidate.link.toList := by
    simp only [Channel.linkKeys, List.mem_map, linkKey_eq_iff]
  rw [merge_added, List.length_eq_zero_iff, Channel.unrecorded, Merge.unrecorded, ← known]
  by_cases recorded : linkKey candidate.link ∈ channel.linkKeys
  · simp [recorded]
  · simp [recorded]

/-- An issue that is recorded stays known: after any merges and reloads its anchor is nothing new,
however its target is padded by then and however many slashes end the origin. -/
theorem recorded_anchor_stays_known {channel : Channel} {item : Item} {origin href : String}
    (recorded : item ∈ channel.items)
    (found : Respaced isBlank item.link.toList (resolve origin href).toList)
    (steps : List Step) (config : Config) (now : Instant) (candidate : Candidate)
    (rest : List Candidate) {slashes before after : String} (all : ∀ c ∈ slashes.toList, c = '/')
    (front : ∀ c ∈ before.toList, isBlank c = true) (back : ∀ c ∈ after.toList, isBlank c = true)
    (again : candidate.link = resolve (origin ++ slashes) (before ++ href ++ after)) :
    (merge config now (Trail.follow ⟨channel, []⟩ steps).channel (candidate :: rest)).added =
      0 := by
  rw [resolve_surrounded all front back] at again
  have held : linkKey candidate.link ∈ channel.linkKeys := by
    rw [again, ← linkKey_eq_iff.mpr found]
    exact List.mem_map_of_mem recorded
  have kept := (Trail.linkKeys_follow ⟨channel, []⟩ steps).subset held
  obtain ⟨later, member, same⟩ := List.mem_map.mp kept
  rw [merge_adds_nothing_iff]
  exact ⟨later, member, linkKey_eq_iff.mp same⟩

end IssueFeed
