import IssueFeed.Feed.Merge
import IssueFeed.Proofs.Feed.Settled

/-! A merge as the recording of the candidates that are new.
The loop is a fold: what it records is the longest beginning of the page without a link that is
known or repeated, and each recording is the same step. -/
namespace IssueFeed

open Text (trim)

namespace Merge

/-- The candidates before the first whose key is known or stands before it on the page. -/
def unrecorded (known : List String) : List Candidate → List Candidate
  | [] => []
  | candidate :: rest =>
    if linkKey candidate.link ∈ known then []
    else candidate :: unrecorded (linkKey candidate.link :: known) rest

variable {config : Config} {now : Instant} {known : List String}

theorem run_eq (channel : Channel) (candidates : List Candidate) :
    (run config now known channel candidates).channel =
        (unrecorded known candidates).foldl (record config now) channel ∧
      (run config now known channel candidates).added = (unrecorded known candidates).length := by
  induction candidates generalizing known channel with
  | nil => exact ⟨rfl, rfl⟩
  | cons candidate rest ih =>
    by_cases recorded : linkKey candidate.link ∈ known
    · simp only [run, unrecorded, if_pos recorded, List.foldl_nil, List.length_nil, and_self]
    · have others := @ih (linkKey candidate.link :: known) (record config now channel candidate)
      simp only [run, unrecorded, if_neg recorded, List.foldl_cons, List.length_cons, others.1,
        others.2, and_self]

theorem unrecorded_distinct (candidates : List Candidate) :
    ((unrecorded known candidates).map fun c => linkKey c.link).Nodup ∧
      ∀ key ∈ (unrecorded known candidates).map fun c => linkKey c.link, key ∉ known := by
  -- The induction is on the page; each key that is passed joins the known ones.
  induction candidates generalizing known with
  | nil => exact ⟨List.nodup_nil, nofun⟩
  | cons candidate rest ih =>
    by_cases recorded : linkKey candidate.link ∈ known
    · rw [unrecorded, if_pos recorded]
      exact ⟨List.nodup_nil, nofun⟩
    · obtain ⟨distinct, apart⟩ := @ih (linkKey candidate.link :: known)
      rw [unrecorded, if_neg recorded, List.map_cons]
      constructor
      · refine List.nodup_cons.mpr ⟨fun again => ?_, distinct⟩
        exact apart _ again List.mem_cons_self
      · intro key member
        rcases List.mem_cons.mp member with first | later
        · exact first ▸ recorded
        · exact fun old => apart key later (List.mem_cons_of_mem _ old)

theorem unrecorded_prefix (known : List String) (candidates : List Candidate) :
    unrecorded known candidates <+: candidates := by
  induction candidates generalizing known with
  | nil => exact List.prefix_refl _
  | cons candidate rest ih =>
    rw [unrecorded]
    split_ifs
    · exact List.nil_prefix
    · exact (List.prefix_cons_inj candidate).mpr (ih _)

/-- On a page whose first issues are new and whose next one is known, the new ones are recorded. -/
theorem unrecorded_append {new kept : List Candidate}
    (distinct : (new.map fun c => linkKey c.link).Nodup)
    (unknown : ∀ key ∈ new.map fun c => linkKey c.link, key ∉ known)
    (reached : ∀ candidate ∈ kept.head?, linkKey candidate.link ∈ known) :
    unrecorded known (new ++ kept) = new := by
  induction new generalizing known with
  | nil =>
    cases kept with
    | nil => rfl
    | cons candidate rest => exact if_pos (reached candidate rfl)
  | cons candidate new ih =>
    obtain ⟨once, others⟩ := List.nodup_cons.mp distinct
    have fresh : linkKey candidate.link ∉ known := unknown _ List.mem_cons_self
    rw [List.cons_append, unrecorded, if_neg fresh, ih others]
    · intro key member old
      rcases List.mem_cons.mp old with rfl | old
      · exact once member
      · exact unknown key (List.mem_cons_of_mem _ member) old
    · exact fun next first => List.mem_cons_of_mem _ (reached next first)

/-! ## One recording -/

/-- What a recording makes of the channel's items. -/
def itemFor (config : Config) (now : Instant) (candidate : Candidate) : Item :=
  itemOf config (stamp config.feed now).1 candidate

theorem linkKey_trim (link : String) : linkKey (trim link) = linkKey link :=
  linkKey_trimBoth (fun _ blank => blank) link

theorem linkKey_itemFor (candidate : Candidate) :
    linkKey (itemFor config now candidate).link = linkKey candidate.link :=
  linkKey_trim candidate.link

theorem record_settled (channel : Channel) (candidate : Candidate) :
    (record config now channel.settled candidate).settled =
      (record config now channel candidate).settled := by
  have image : (imageAfter config channel.settled candidate).mapTexts settled =
      (imageAfter config channel candidate).mapTexts settled := by
    rw [imageAfter, imageAfter]
    cases candidate.imageUrl with
    | some url => rfl
    | none =>
      simp only [Channel.settled, Channel.mapTexts, List.isEmpty_map]
      split_ifs
      · rfl
      · cases channel.image with
        | none => rfl
        | some image => simp [Image.mapTexts, settled_settled]
  have items : channel.settled.items.map (Item.mapTexts settled) =
      channel.items.map (Item.mapTexts settled) :=
    congrArg Channel.items channel.settled_settled
  simp only [record, Channel.settled, Channel.mapTexts, Option.map_some, List.map_append,
    settled_settled] at image items ⊢
  rw [image, items]

end Merge

variable (config : Config) (now : Instant) (channel : Channel) (candidates : List Candidate)

/-- The candidates of a page that a merge records. -/
def Channel.unrecorded : List Candidate :=
  Merge.unrecorded channel.linkKeys candidates

theorem Channel.unrecorded_settled :
    channel.settled.unrecorded candidates = channel.unrecorded candidates := by
  rw [unrecorded, channel.linkKeys_settled, unrecorded]

theorem merge_channel :
    (merge config now channel candidates).channel =
      (channel.unrecorded candidates).foldl (Merge.record config now) channel :=
  (Merge.run_eq channel candidates).1

theorem merge_added :
    (merge config now channel candidates).added = (channel.unrecorded candidates).length :=
  (Merge.run_eq channel candidates).2

/-! ## What a merge leaves as it was -/

/-- The later channel carries the earlier one on: same envelope, the same items first, and no
thumbnail lost. -/
structure Channel.Continues (later earlier : Channel) : Prop where
  title : later.title = earlier.title
  link : later.link = earlier.link
  description : later.description = earlier.description
  copyright : later.copyright = earlier.copyright
  language : later.language = earlier.language
  items : earlier.items <+: later.items
  image : earlier.image.isSome = true → later.image.isSome = true

namespace Channel.Continues

variable {a b c : Channel}

theorem refl (a : Channel) : a.Continues a :=
  ⟨rfl, rfl, rfl, rfl, rfl, List.prefix_refl _, id⟩

theorem trans (second : c.Continues b) (first : b.Continues a) : c.Continues a where
  title := second.title.trans first.title
  link := second.link.trans first.link
  description := second.description.trans first.description
  copyright := second.copyright.trans first.copyright
  language := second.language.trans first.language
  items := first.items.trans second.items
  image := second.image ∘ first.image

theorem settled (h : b.Continues a) : b.settled.Continues a.settled where
  title := congrArg IssueFeed.settled h.title
  link := congrArg IssueFeed.settled h.link
  description := congrArg IssueFeed.settled h.description
  copyright := congrArg IssueFeed.settled h.copyright
  language := congrArg IssueFeed.settled h.language
  items := h.items.map (Item.mapTexts IssueFeed.settled)
  image := by
    simp only [Channel.settled, Channel.mapTexts, Option.isSome_map]
    exact h.image

end Channel.Continues

theorem record_continues (candidate : Candidate) :
    (Merge.record config now channel candidate).Continues channel :=
  ⟨rfl, rfl, rfl, rfl, rfl, List.prefix_append _ _, fun _ => rfl⟩

theorem merge_continues : (merge config now channel candidates).channel.Continues channel := by
  rw [merge_channel]
  induction channel.unrecorded candidates generalizing channel with
  | nil => exact .refl channel
  | cons candidate rest ih => exact (ih _).trans (record_continues config now channel candidate)

theorem merge_items :
    (merge config now channel candidates).channel.items =
      channel.items ++ (channel.unrecorded candidates).map (Merge.itemFor config now) := by
  rw [merge_channel]
  induction channel.unrecorded candidates generalizing channel with
  | nil => simp
  | cons candidate rest ih =>
    rw [List.foldl_cons, ih]
    simp [Merge.record, Merge.itemFor]

theorem merge_linkKeys :
    (merge config now channel candidates).channel.linkKeys =
      channel.linkKeys ++ (channel.unrecorded candidates).map fun c => linkKey c.link := by
  simp [Channel.linkKeys, merge_items, Merge.linkKey_itemFor]

/-- What a merge has recorded it finds known when it comes again. -/
theorem unrecorded_merge :
    (merge config now channel candidates).channel.unrecorded candidates = [] := by
  cases candidates with
  | nil => rfl
  | cons candidate rest =>
    rw [Channel.unrecorded, merge_linkKeys, Channel.unrecorded, Merge.unrecorded,
      Merge.unrecorded]
    by_cases recorded : linkKey candidate.link ∈ channel.linkKeys
    · simp [recorded]
    · simp [recorded]

theorem Merge.records_settled {a b : Channel} (new : List Candidate)
    (alike : a.settled = b.settled) :
    (new.foldl (record config now) a).settled = (new.foldl (record config now) b).settled := by
  induction new generalizing a b with
  | nil => exact alike
  | cons candidate rest ih =>
    apply ih
    rw [← record_settled a, ← record_settled b, alike]

/-- A merge sees the same in a channel and in what storing makes of it. -/
theorem merge_settled :
    (merge config now channel.settled candidates).channel.settled =
        (merge config now channel candidates).channel.settled ∧
      (merge config now channel.settled candidates).added =
        (merge config now channel candidates).added := by
  rw [merge_added, merge_added, merge_channel, merge_channel, channel.unrecorded_settled]
  exact ⟨Merge.records_settled config now _ channel.settled_settled, rfl⟩

end IssueFeed
