import IssueFeed.Proofs.Feed.Merging

/-! What a merge makes of a channel, all of it.
A merge records the longest beginning of the page whose links are new. What it gives is a function
of the channel, of these candidates and of the one at which it stops; of the rest of the page it
sees nothing. -/
namespace IssueFeed

namespace Channel

/-- The links of these candidates are distinct, and none of them is known. -/
structure AllNew (channel : Channel) (candidates : List Candidate) : Prop where
  distinct : (candidates.map fun candidate => linkKey candidate.link).Nodup
  unknown : ∀ candidate ∈ candidates, linkKey candidate.link ∉ channel.knownLinks

/-- The longest beginning of a page whose links are new. -/
structure LongestNew (channel : Channel) (page new : List Candidate) : Prop where
  begins : new <+: page
  allNew : channel.AllNew new
  longest : ∀ other, other <+: page → channel.AllNew other → other <+: new

variable {channel : Channel} {page new : List Candidate}

theorem LongestNew.unique {other : List Candidate} (one : channel.LongestNew page new)
    (two : channel.LongestNew page other) : other = new := by
  have shorter := one.longest other two.begins two.allNew
  have longer := two.longest new one.begins one.allNew
  exact shorter.eq_of_length_le longer.length_le

theorem mem_knownLinks {key : String} : key ∈ channel.knownLinks ↔ key ∈ channel.linkKeys := by
  rw [knownLinks, List.mem_eraseDups]

end Channel

namespace Merge

variable (config : Config) (now : Instant) {known : List String}

/-- A beginning of the page with new links is recorded as a whole. -/
theorem prefix_unrecorded {new page : List Candidate} (begins : new <+: page)
    (distinct : (new.map fun candidate => linkKey candidate.link).Nodup)
    (unknown : ∀ candidate ∈ new, linkKey candidate.link ∉ known) :
    new <+: unrecorded known page := by
  -- The induction is on the beginning; each link that is passed joins the known ones.
  induction new generalizing known page with
  | nil => exact List.nil_prefix
  | cons candidate new ih =>
    obtain ⟨rest, rfl⟩ := begins
    obtain ⟨once, others⟩ := List.nodup_cons.mp distinct
    obtain ⟨first, later⟩ := List.forall_mem_cons.mp unknown
    rw [List.cons_append, unrecorded, if_neg first]
    apply (List.prefix_cons_inj candidate).mpr
    apply ih (List.prefix_append new rest) others
    intro other member recorded
    rcases List.mem_cons.mp recorded with same | old
    · exact once (List.mem_map.mpr ⟨other, member, same⟩)
    · exact later other member old

theorem unrecorded_longest (channel : Channel) (page : List Candidate) :
    channel.LongestNew page (channel.unrecorded page) := by
  obtain ⟨distinct, apart⟩ := @unrecorded_distinct channel.linkKeys page
  constructor
  · exact unrecorded_prefix _ page
  · constructor
    · exact distinct
    · intro candidate member old
      exact apart _ (List.mem_map.mpr ⟨candidate, member, rfl⟩) (Channel.mem_knownLinks.mp old)
  · intro other begins allNew
    apply prefix_unrecorded begins allNew.distinct
    intro candidate member old
    exact allNew.unknown candidate member (Channel.mem_knownLinks.mpr old)

/-! ## The thumbnail -/

/-- The address of the last thumbnail among these candidates. -/
def lastPicture? (candidates : List Candidate) : Option String :=
  (candidates.filterMap (·.imageUrl)).getLast?

theorem lastPicture?_cons (candidate : Candidate) (rest : List Candidate) :
    lastPicture? (candidate :: rest) = (lastPicture? rest).or candidate.imageUrl := by
  cases pictured : candidate.imageUrl with
  | none => simp [lastPicture?, pictured]
  | some url =>
    simp only [lastPicture?, List.filterMap_cons, pictured, List.getLast?_cons]
    cases (rest.filterMap (·.imageUrl)).getLast? <;> rfl

/-- The thumbnail of a channel once these candidates have been recorded in it. -/
def imageAfterAll (config : Config) (channel : Channel) (new : List Candidate) : Option Image :=
  if new = [] then channel.image
  else
    match lastPicture? new with
    | some url => some ⟨url, config.feed.imageTitle, config.source.pageUrl⟩
    | none => if channel.items = [] then some {} else some (channel.image.getD {})

theorem records_image (channel : Channel) (new : List Candidate) :
    (new.foldl (record config now) channel).image = imageAfterAll config channel new := by
  induction new generalizing channel with
  | nil => rfl
  | cons candidate rest ih =>
    rw [List.foldl_cons, ih, imageAfterAll, imageAfterAll, lastPicture?_cons]
    by_cases last : rest = []
    · subst last
      cases pictured : candidate.imageUrl with
      | some url => simp [record, imageAfter, lastPicture?, pictured]
      | none =>
        by_cases first : channel.items = [] <;>
          simp [record, imageAfter, lastPicture?, pictured, first]
    · -- Where a later candidate has no thumbnail, the one before it is kept.
      cases lastPicture? rest with
      | some url => simp [last]
      | none =>
        cases pictured : candidate.imageUrl with
        | some url => simp [record, imageAfter, last, pictured]
        | none =>
          by_cases first : channel.items = [] <;>
            simp [record, imageAfter, last, pictured, first]

theorem records_date (channel : Channel) (new : List Candidate) :
    (new.foldl (record config now) channel).lastBuildDate =
      if new = [] then channel.lastBuildDate else some (stamp config.feed now).1 := by
  induction new generalizing channel with
  | nil => rfl
  | cons candidate rest ih =>
    rw [List.foldl_cons, ih]
    simp [record]

/-! ## The reports -/

/-- What is reported when a candidate is recorded. -/
def newReport (config : Config) (now : Instant) (candidate : Candidate) : Log :=
  (stamp config.feed now).2 ++ [⟨.info, s!"New issue: {Text.trim candidate.link}"⟩]

/-- What is reported when a candidate ends the merge. -/
def stopReport (candidate : Candidate) : Log :=
  [⟨.debug, s!"Reached already recorded issue {candidate.link}, stopping"⟩]

theorem run_reports (known : List String) (channel : Channel) (page : List Candidate) :
    let new := unrecorded known page
    (run config now known channel page).reports =
      new.map (newReport config now) ++ (page.drop new.length).head?.toList.map stopReport := by
  induction page generalizing known channel with
  | nil => rfl
  | cons candidate rest ih =>
    by_cases recorded : linkKey candidate.link ∈ known
    · simp [run, unrecorded, recorded, stopReport]
    · simp [run, unrecorded, recorded, ih, newReport]

/-- What stands behind the candidate at which a merge stops makes no difference. -/
theorem run_stops {new : List Candidate} {stopper : Candidate} {rest : List Candidate}
    (stops : unrecorded known (new ++ stopper :: rest) = new) (channel : Channel)
    (other : List Candidate) :
    run config now known channel (new ++ stopper :: other) =
      run config now known channel (new ++ stopper :: rest) := by
  induction new generalizing known channel with
  | nil =>
    have reached : linkKey stopper.link ∈ known := by
      by_contra passed
      simp [unrecorded, passed] at stops
    simp [run, reached]
  | cons candidate new ih =>
    have passed : linkKey candidate.link ∉ known := by
      intro reached
      simp [unrecorded, reached] at stops
    simp only [List.cons_append, unrecorded, if_neg passed, List.cons.injEq, true_and] at stops
    simp only [List.cons_append, run, if_neg passed, ih stops]

end Merge

/-- A merge records the longest beginning of the page whose links are new, one item a candidate and
in the order of the page, and sets the date and the thumbnail by them. Where nothing is new it
changes nothing. What stands behind the candidate at which it stops is not looked at. -/
theorem merge_exact (config : Config) (now : Instant) (channel : Channel)
    (page : List Candidate) :
    ∃ new, (∀ other, channel.LongestNew page other ↔ other = new) ∧
      (merge config now channel page).added = new.length ∧
      (let stamp := (Merge.stamp config.feed now).1
       (merge config now channel page).channel =
        { channel with
          lastBuildDate := if new = [] then channel.lastBuildDate else some stamp
          image := Merge.imageAfterAll config channel new
          items := channel.items ++ new.map fun candidate =>
            { link := Text.trim candidate.link
              title := config.feed.itemTitle
              description := (candidate.description.map Text.plain).getD ""
              pubDate := stamp } }) ∧
      (merge config now channel page).reports =
        new.map (Merge.newReport config now) ++
          (page.drop new.length).head?.toList.map Merge.stopReport ∧
      ∀ stopper rest other, page = new ++ stopper :: rest →
        merge config now channel (new ++ stopper :: other) = merge config now channel page := by
  have longest := Merge.unrecorded_longest channel page
  refine ⟨channel.unrecorded page, ?_, merge_added config now channel page, ?_, ?_, ?_⟩
  · intro other
    constructor
    · exact longest.unique
    · rintro rfl
      exact longest
  · have kept := merge_continues config now channel page
    have items := merge_items config now channel page
    have date := Merge.records_date config now channel (channel.unrecorded page)
    have image := Merge.records_image config now channel (channel.unrecorded page)
    rw [← merge_channel] at date image
    obtain ⟨title, link, description, copyright, language, -, -⟩ := kept
    generalize (merge config now channel page).channel = after at *
    cases after
    simp_all [Merge.itemFor, Merge.itemOf]
  · exact Merge.run_reports config now channel.linkKeys channel page
  · intro stopper rest other whole
    have stops : Merge.unrecorded channel.linkKeys page = channel.unrecorded page := rfl
    generalize channel.unrecorded page = new at *
    subst whole
    exact Merge.run_stops config now stops channel other

end IssueFeed
