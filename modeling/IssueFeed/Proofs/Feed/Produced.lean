import IssueFeed.Proofs.Feed.Reachable
import IssueFeed.Proofs.Text.Plain
import IssueFeed.Run.Validate

/-! Channels as they are produced, stored and read again.
What a page gives to an item cannot be lost: links are trimmed and descriptions are plain. The texts
that come from the configuration, the clock and the thumbnails are stored as they are, and one of
them that loses blanks is altered. -/
namespace IssueFeed

theorem trim_kept (text : String) : ¬ LosesBlanks (Text.trim text) := by
  rintro ⟨-, padded⟩
  apply padded
  exact (Text.trimmed_trim text).mono fun _ => Text.isBlank_of_isXmlBlank

theorem plain_kept (text : String) : ¬ LosesBlanks (Text.plain text) := by
  rintro ⟨marked, -⟩
  have bracket := Text.plain_isPlain text ']' (marked.subset (by simp))
  exact absurd bracket (by decide)

theorem description_kept (description : Option String) :
    ¬ LosesBlanks ((description.map Text.plain).getD "") := by
  cases description with
  | none => decide
  | some text => exact plain_kept text

variable (config : Config) (begun : Instant)

/-- A channel begun under a configuration and carried on under it by merges at these times. -/
def Channel.produced (merges : List (Instant × List Candidate)) : Channel :=
  merges.foldl (fun channel made => (merge config made.1 channel made.2).channel)
    (Channel.load config begun none).1

/-- What a channel has from its configuration, and what its items cannot lose. -/
structure Channel.ProducedUnder (channel : Channel) : Prop where
  envelope : channel.Continues (Channel.fresh config.feed config.source.pageUrl begun.year)
  consistent : channel.Consistent
  titled : ∀ item ∈ channel.items, item.title = config.feed.itemTitle
  kept : ∀ item ∈ channel.items, ¬ LosesBlanks item.link ∧ ¬ LosesBlanks item.description

variable {config begun}

theorem Channel.ProducedUnder.merge {channel : Channel} (h : channel.ProducedUnder config begun)
    (now : Instant) (candidates : List Candidate) :
    (merge config now channel candidates).channel.ProducedUnder config begun where
  envelope := (merge_continues config now channel candidates).trans h.envelope
  consistent := h.consistent.merge config now candidates
  titled := by
    intro item member
    rw [merge_items] at member
    rcases List.mem_append.mp member with old | new
    · exact h.titled item old
    · obtain ⟨candidate, -, rfl⟩ := List.mem_map.mp new
      rfl
  kept := by
    intro item member
    rw [merge_items] at member
    rcases List.mem_append.mp member with old | new
    · exact h.kept item old
    · obtain ⟨candidate, -, rfl⟩ := List.mem_map.mp new
      exact ⟨trim_kept _, description_kept _⟩

theorem Channel.producedUnder (merges : List (Instant × List Candidate)) :
    (Channel.produced config begun merges).ProducedUnder config begun := by
  have start : (Channel.load config begun none).1.ProducedUnder config begun :=
    ⟨.refl _, fresh_consistent _ _ _, nofun, nofun⟩
  rw [Channel.produced]
  generalize (Channel.load config begun none).1 = channel at start ⊢
  induction merges generalizing channel with
  | nil => exact start
  | cons made merges ih => exact ih _ (start.merge made.1 made.2)

theorem Channel.Consistent.date_mem {channel : Channel} (h : channel.Consistent) {date : String}
    (dated : date ∈ channel.lastBuildDate) : ∃ item ∈ channel.items, item.pubDate = date := by
  rw [h.dated, Option.mem_def, Option.map_eq_some_iff] at dated
  obtain ⟨item, last, same⟩ := dated
  exact ⟨item, List.mem_of_getLast? last, same⟩

/-- The texts of a channel are those that begin it, its date, its thumbnail's and its items'. -/
theorem Channel.ProducedUnder.texts {channel : Channel}
    (made : channel.ProducedUnder config begun) :
    channel.texts = (Channel.fresh config.feed config.source.pageUrl begun.year).texts ++
      (channel.lastBuildDate.toList ++
        (channel.image.toList.flatMap Image.texts ++ channel.items.flatMap Item.texts)) := by
  rw [Channel.texts, made.envelope.title, made.envelope.link, made.envelope.description,
    made.envelope.copyright, made.envelope.language]
  rfl

/-- A text of a produced channel that loses blanks is one that begins it, or the title or the date
of an item, or its thumbnail's. -/
theorem Channel.ProducedUnder.kept_iff {channel : Channel}
    (made : channel.ProducedUnder config begun) :
    (∀ text ∈ channel.texts, ¬ LosesBlanks text) ↔
      (∀ text ∈ (Channel.fresh config.feed config.source.pageUrl begun.year).texts,
        ¬ LosesBlanks text) ∧
      (∀ item ∈ channel.items,
        ¬ LosesBlanks config.feed.itemTitle ∧ ¬ LosesBlanks item.pubDate) ∧
      ∀ image ∈ channel.image, ∀ text ∈ image.texts, ¬ LosesBlanks text := by
  rw [made.texts]
  simp only [List.forall_mem_append, List.forall_mem_flatMap, Option.mem_toList]
  refine and_congr_right fun _ => ?_
  constructor
  · rintro ⟨-, images, items⟩
    refine ⟨fun item member => ⟨?_, ?_⟩, images⟩
    · rw [← made.titled item member]
      exact items item member _ (by simp [Item.texts])
    · exact items item member _ (by simp [Item.texts])
  · rintro ⟨items, images⟩
    -- The channel's own date is that of an item, so it adds no condition.
    refine ⟨fun date dated => ?_, images, fun item member text among => ?_⟩
    · obtain ⟨item, member, rfl⟩ := made.consistent.date_mem dated
      exact (items item member).2
    · obtain ⟨title, date⟩ := items item member
      obtain ⟨link, description⟩ := made.kept item member
      rw [← made.titled item member] at title
      simp only [Item.texts, List.mem_cons, List.not_mem_nil, or_false] at among
      rcases among with rfl | rfl | rfl | rfl <;> assumption

/-- Whatever is produced and under whatever configuration, links and descriptions come back from the
feed's file as they were. The whole channel does exactly when no text loses blanks among those that
begin it, the titles and dates of its items, and its thumbnail's. -/
theorem produced_kept_iff (config : Config) (begun later : Instant)
    (merges : List (Instant × List Candidate)) :
    let channel := Channel.produced config begun merges
    let again := channel.reload config later
    (again.items.map fun item => (item.link, item.description)) =
        (channel.items.map fun item => (item.link, item.description)) ∧
      (again = channel ↔
        (∀ text ∈ (Channel.fresh config.feed config.source.pageUrl begun.year).texts,
          ¬ LosesBlanks text) ∧
        (∀ item ∈ channel.items,
          ¬ LosesBlanks config.feed.itemTitle ∧ ¬ LosesBlanks item.pubDate) ∧
        ∀ image ∈ channel.image, ∀ text ∈ image.texts, ¬ LosesBlanks text) := by
  intro channel again
  have made : channel.ProducedUnder config begun := Channel.producedUnder merges
  have settles : again = channel.settled := reload_eq config later channel
  rw [settles]
  constructor
  · rw [Channel.settled, Channel.mapTexts, List.map_map]
    refine List.map_congr_left fun item member => ?_
    obtain ⟨link, description⟩ := made.kept item member
    exact Prod.ext ((settled_eq_self_iff _).mpr link) ((settled_eq_self_iff _).mpr description)
  · rw [← made.kept_iff, Channel.settled, Channel.mapTexts_eq_self_iff]
    exact forall₂_congr fun text _ => settled_eq_self_iff text

/-- A configuration that is in order, and a feed begun under it whose title is altered by storing
and loading it. -/
theorem produced_title_altered :
    let config : Config :=
      { source := { pageUrl := "http://[::]", origin := "http://[::]" }
        feed := { title := " ]]>" } }
    let now : Instant := ⟨2024, 1, 1, 12, 0, 0, 0, 0⟩
    let channel := Channel.produced config now []
    config.validate = .ok () ∧ channel.title = " ]]>" ∧
      (channel.reload config now).title = "]]>" ∧ channel.reload config now ≠ channel := by
  intro config now channel
  have inOrder : config.fault? = none := by decide +kernel
  rw [Config.validate, inOrder, reload_eq]
  exact ⟨rfl, rfl, by decide, by decide⟩

end IssueFeed
