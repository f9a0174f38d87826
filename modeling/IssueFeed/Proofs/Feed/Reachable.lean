import IssueFeed.Proofs.Feed.Reload

/-! The channels that a feed can reach.
Every feed begins fresh and goes on by merges and reloads. On the way its links stay distinct, and
its thumbnail, its date and its items stay in step. -/
namespace IssueFeed

/-- What holds of a channel after any history. -/
structure Channel.Consistent (channel : Channel) : Prop where
  distinct : channel.linkKeys.Nodup
  pictured : channel.image = none ↔ channel.items = []
  dated : channel.lastBuildDate = channel.items.getLast?.map (·.pubDate)

theorem fresh_consistent (feed : FeedConfig) (pageUrl : String) (year : Int) :
    (Channel.fresh feed pageUrl year).Consistent :=
  ⟨List.nodup_nil, ⟨fun _ => rfl, fun _ => rfl⟩, rfl⟩

variable {channel : Channel} (config : Config) (now : Instant)

theorem record_pictured_dated (candidate : Candidate) :
    let next := Merge.record config now channel candidate
    (next.image = none ↔ next.items = []) ∧
      next.lastBuildDate = next.items.getLast?.map (·.pubDate) := by
  simp [Merge.record, Merge.itemOf]

theorem records_pictured_dated (new : List Candidate)
    (pictured : channel.image = none ↔ channel.items = [])
    (dated : channel.lastBuildDate = channel.items.getLast?.map (·.pubDate)) :
    let next := new.foldl (Merge.record config now) channel
    (next.image = none ↔ next.items = []) ∧
      next.lastBuildDate = next.items.getLast?.map (·.pubDate) := by
  induction new generalizing channel with
  | nil => exact ⟨pictured, dated⟩
  | cons candidate rest ih =>
    obtain ⟨picturedOne, datedOne⟩ := @record_pictured_dated channel config now candidate
    exact ih picturedOne datedOne

theorem merge_linkKeys_nodup (distinct : channel.linkKeys.Nodup) (candidates : List Candidate) :
    (merge config now channel candidates).channel.linkKeys.Nodup := by
  obtain ⟨among, apart⟩ := @Merge.unrecorded_distinct channel.linkKeys candidates
  rw [merge_linkKeys]
  refine List.nodup_append.mpr ⟨distinct, among, ?_⟩
  intro key old other new same
  exact apart other new (same ▸ old)

theorem Channel.Consistent.merge (h : channel.Consistent) (candidates : List Candidate) :
    (merge config now channel candidates).channel.Consistent := by
  obtain ⟨pictured, dated⟩ :=
    records_pictured_dated config now (channel.unrecorded candidates) h.pictured h.dated
  rw [← merge_channel] at pictured dated
  exact ⟨merge_linkKeys_nodup config now h.distinct candidates, pictured, dated⟩

theorem Channel.Consistent.settled (h : channel.Consistent) : channel.settled.Consistent where
  distinct := by
    rw [channel.linkKeys_settled]
    exact h.distinct
  pictured := by
    simp only [Channel.settled, Channel.mapTexts, Option.map_eq_none_iff, List.map_eq_nil_iff]
    exact h.pictured
  dated := by
    simp only [Channel.settled, Channel.mapTexts, h.dated, List.getLast?_map, Option.map_map]
    rfl

theorem Channel.Consistent.follow (h : channel.Consistent) (added : List Nat)
    (steps : List Step) : (Trail.follow ⟨channel, added⟩ steps).channel.Consistent := by
  induction steps generalizing channel added with
  | nil => exact h
  | cons step steps ih =>
    rw [Trail.follow_cons]
    cases step with
    | merge config now candidates => exact ih (h.merge config now candidates) _
    | reload config now =>
      rw [Trail.next_reload]
      exact ih h.settled _

theorem eraseDups_of_nodup {keys : List String} (distinct : keys.Nodup) :
    keys.eraseDups = keys := by
  induction keys with
  | nil => rfl
  | cons key keys ih =>
    obtain ⟨new, others⟩ := List.nodup_cons.mp distinct
    have kept : keys.filter (fun k => !k == key) = keys := by
      rw [List.filter_eq_self]
      intro k member
      have differs : k ≠ key := fun same => new (same ▸ member)
      simpa using differs
    rw [List.eraseDups_cons, kept, ih others]

/-- After any merges and reloads the links are distinct, and the channel has a thumbnail and a date
when it has items, the date being that of its last item. -/
theorem reachable_consistent (steps : List Step) :
    let channel := (Trail.follow ⟨(Channel.load config now none).1, []⟩ steps).channel
    channel.linkKeys.Nodup ∧
      channel.knownLinks.length = channel.items.length ∧
      (channel.items = [] ↔ channel.image = none) ∧
      (channel.items = [] ↔ channel.lastBuildDate = none) ∧
      ∀ item, channel.items.getLast? = some item → channel.lastBuildDate = some item.pubDate := by
  have start : (Channel.load config now none).1.Consistent := fresh_consistent _ _ _
  have h := start.follow [] steps
  refine ⟨h.distinct, ?_, h.pictured.symm, ?_, ?_⟩
  · rw [Channel.knownLinks, eraseDups_of_nodup h.distinct, Channel.linkKeys, List.length_map]
  · rw [h.dated, Option.map_eq_none_iff, List.getLast?_eq_none_iff]
  · intro item last
    rw [h.dated, last]
    rfl

end IssueFeed
