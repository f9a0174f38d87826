import IssueFeed.Proofs.Feed.Produced
import IssueFeed.Proofs.Run.Listing
import IssueFeed.Run.Info
import Mathlib.Data.List.Nodup

/-! The order in which the feed shows its issues.
A page has its newest issue at the top, and a feed shows the one that was recorded last. An update
records the new issues of a page from the top downwards, so where it finds several at once the
lowest of them is shown as the newest. -/
namespace IssueFeed

open Store (Disk Path)

/-- Pages each of which lists some new issues and below them the whole page before it, together with
what is new on each. -/
inductive Grown : List (List Candidate) → List (List Candidate) → Prop where
  | start : Grown [] []
  | next {pages batches : List (List Candidate)} {new : List Candidate}
      (earlier : Grown pages batches)
      (distinct : (linkKeysOf (new ++ pages.getLast?.getD [])).Nodup) :
      Grown (pages ++ [new ++ pages.getLast?.getD []]) (batches ++ [new])

variable {pages batches : List (List Candidate)} {page : List Candidate}

theorem Grown.last (grown : Grown (pages ++ [page]) batches) :
    ∃ earlier new, batches = earlier ++ [new] ∧ page = new ++ pages.getLast?.getD [] ∧
      (linkKeysOf page).Nodup ∧ Grown pages earlier := by
  generalize whole : pages ++ [page] = history at grown
  cases grown with
  | start => simp at whole
  | @next before earlier new grown distinct =>
    obtain ⟨rfl, same⟩ := List.append_inj' whole rfl
    cases List.singleton_inj.mp same
    exact ⟨earlier, new, rfl, rfl, distinct, grown⟩

theorem Grown.unlisted (grown : Grown [] batches) : batches = [] := by
  generalize whole : [] = history at grown
  cases grown with
  | start => rfl
  | next => simp at whole

/-- The last page lists all batches, the latest at the top. -/
theorem Grown.lastPage (grown : Grown pages batches) :
    pages.getLast?.getD [] = batches.reverse.flatten := by
  induction grown with
  | start => rfl
  | next _ _ ih => simp [ih]

theorem Grown.distinct (grown : Grown pages batches) :
    (linkKeysOf (pages.getLast?.getD [])).Nodup := by
  cases grown with
  | start => exact List.nodup_nil
  | next _ distinct => simpa using distinct

/-- All that was ever listed is on the last page. -/
theorem Grown.within (grown : Grown pages batches) :
    ∀ page ∈ pages, page <:+ pages.getLast?.getD [] := by
  induction grown with
  | start => exact nofun
  | next _ _ ih =>
    intro page member
    rw [List.getLast?_concat, Option.getD_some]
    rcases List.mem_append.mp member with earlier | last
    · exact (ih page earlier).trans (List.suffix_append _ _)
    · rw [List.mem_singleton.mp last]

theorem linkKeysOf_append (front back : List Candidate) :
    linkKeysOf (front ++ back) = linkKeysOf front ++ linkKeysOf back :=
  List.map_append

theorem Grown.follows {new : List Candidate} (grown : Grown pages batches)
    (distinct : (linkKeysOf (new ++ pages.getLast?.getD [])).Nodup) :
    Follows pages new (pages.getLast?.getD []) := by
  refine ⟨distinct, List.prefix_refl _, ?_⟩
  intro page member key added listed
  have again : key ∈ linkKeysOf (pages.getLast?.getD []) :=
    ((grown.within page member).map _).subset listed
  rw [linkKeysOf_append, List.nodup_append] at distinct
  exact distinct.2.2 key added key again rfl

theorem Grown.newestFirst (grown : Grown pages batches) : NewestFirst pages := by
  induction grown with
  | start => exact .start
  | next earlier distinct ih => exact .next ih (earlier.follows distinct)

/-! ## What is recorded -/

/-- The thumbnail is that of the issue recorded last, if it has one. -/
theorem records_thumbnail (config : Config) (now : Instant) (channel : Channel)
    (earlier : List Candidate) {candidate : Candidate} {url : String}
    (pictured : candidate.imageUrl = some url) :
    ((earlier ++ [candidate]).foldl (Merge.record config now) channel).image.map (·.url) =
      some url := by
  rw [List.foldl_append]
  simp [Merge.record, Merge.imageAfter, pictured]

/-- What the stored feed shows of the batches. -/
structure Displays (batches : List (List Candidate)) (held : Option Channel) : Prop where
  links : ((held.map Channel.items).getD []).map (·.link) =
    batches.flatten.map fun candidate => Text.trim candidate.link
  thumbnail : ∀ newest ∈ batches.flatten.getLast?, ∀ url ∈ newest.imageUrl,
    (held.bind Channel.image).map (·.url) = some (settled url)

variable {location : String} {disk : Disk} {held : Option Channel} {new kept : List Candidate}

theorem links_itemFor (config : Config) (now : Instant) (new : List Candidate) :
    ((new.map (Merge.itemFor config now)).map (Item.mapTexts settled)).map (·.link) =
      new.map fun candidate => Text.trim candidate.link := by
  rw [List.map_map, List.map_map]
  exact List.map_congr_left fun candidate _ => (settled_eq_self_iff _).mpr (trim_kept _)

/-- An update that succeeds on the next page puts what is new below the rest. -/
theorem Displays.update {call : Call location} {summary : Summary}
    (displays : Displays batches held) (standing : Standing location disk held)
    (recorded : Recorded pages ((held.map Channel.linkKeys).getD []))
    (page : call.listed = new ++ kept) (follows : Follows pages new kept)
    (accepted : (call.update disk).result = .ok summary) :
    ∃ later, Standing location (call.update disk).disk (some later) ∧
      later.linkKeys = (held.map Channel.linkKeys).getD [] ++ linkKeysOf new ∧
      Displays (batches ++ [new]) (some later) := by
  obtain ⟨loaded, carried, before, keys, onlyNew, -, stands⟩ :=
    update_merges_new standing recorded page follows accepted
  refine ⟨_, stands, ?_, ?_, ?_⟩
  · rw [Channel.linkKeys_settled, merge_linkKeys, keys, onlyNew]
    rfl
  · rw [Option.map_some, Option.getD_some, Channel.settled, Channel.mapTexts, merge_items,
      List.map_append, List.map_append, onlyNew, links_itemFor, List.flatten_concat,
      List.map_append, ← displays.links, ← before]
    rfl
  · intro newest last url pictured
    rw [List.flatten_concat] at last
    -- With nothing new the thumbnail stays; otherwise the lowest of the new issues sets it.
    rcases List.eq_nil_or_concat' new with rfl | ⟨earlier, candidate, rfl⟩
    · rw [List.append_nil] at last
      cases held with
      | none =>
        have none : batches.flatten = [] := by simpa using displays.links.symm
        rw [none] at last
        cases last
      | some earlier =>
        rw [merge_channel, onlyNew, List.foldl_nil, carried earlier rfl]
        exact displays.thumbnail newest last url pictured
    · rw [← List.append_assoc, List.getLast?_concat] at last
      cases last
      have latest := records_thumbnail call.config call.now loaded earlier pictured
      rw [← onlyNew, ← merge_channel] at latest
      have stored := congrArg (Option.map settled) latest
      rw [Option.map_map, Option.map_some] at stored
      rw [Option.bind_some, Channel.settled, Channel.mapTexts, Option.map_map]
      exact stored

theorem listings_displayed (absent : (Store.readFeed disk location).1 = .ok none)
    (calls : List (Call location)) (grown : Grown (listings disk calls) batches) :
    ∃ held, Standing location (diskAfter disk calls) held ∧
      held.isSome = anySucceeded disk calls ∧
      Recorded (listings disk calls) ((held.map Channel.linkKeys).getD []) ∧
      Displays batches held := by
  -- The induction is on the calls, the last one apart; one that fails leaves the feed as it is.
  induction calls using List.reverseRec generalizing batches with
  | nil =>
    cases Grown.unlisted grown
    exact ⟨none, .absent absent, rfl, ⟨List.nodup_nil, by simp [listings]⟩, rfl, nofun⟩
  | append_singleton calls call ih =>
    rw [listings_append] at grown ⊢
    rw [anySucceeded_append, diskAfter_append]
    cases result : (call.update (diskAfter disk calls)).result with
    | error failure =>
      rw [result] at grown
      obtain ⟨held, stands, any, recorded, displays⟩ := ih grown
      rcases update_standing stands call with ⟨_, -, still⟩ | ⟨_, _, succeeded, -⟩
      · exact ⟨held, still, any.trans (Bool.or_false _).symm, recorded, displays⟩
      · rw [result] at succeeded
        cases succeeded
    | ok summary =>
      rw [result] at grown
      obtain ⟨earlier, new, rfl, page, distinct, before⟩ := Grown.last grown
      obtain ⟨held, stands, any, recorded, displays⟩ := ih before
      have follows := before.follows (page ▸ distinct)
      obtain ⟨later, arrives, keys, shown⟩ :=
        displays.update stands recorded page follows result
      refine ⟨some later, arrives, (Bool.or_true _).symm, ?_, shown⟩
      have next := recorded.next follows
      rw [← page, ← keys] at next
      exact next

/-! ## The order -/

theorem reverse_eq_self_iff {A : Type} {as : List A} (distinct : as.Nodup) :
    as.reverse = as ↔ as.length ≤ 1 := by
  constructor
  · intro same
    cases as with
    | nil => exact Nat.zero_le 1
    | cons a rest =>
      rcases List.eq_nil_or_concat' rest with rfl | ⟨front, b, rfl⟩
      · exact Nat.le_refl 1
      · rw [List.reverse_cons, List.reverse_append] at same
        have ends : b = a := List.head_eq_of_cons_eq same
        exact absurd (ends ▸ List.mem_append_right front List.mem_cons_self)
          (List.nodup_cons.mp distinct).1
  · intro short
    match as, short with
    | [], _ => rfl
    | [_], _ => rfl

/-- Batches put one above the other are all of them reversed only if none has more than one. -/
theorem reverse_flatten_eq_iff {A : Type} {batches : List (List A)}
    (distinct : batches.flatten.Nodup) :
    batches.flatten.reverse = batches.reverse.flatten ↔ ∀ batch ∈ batches, batch.length ≤ 1 := by
  induction batches with
  | nil => simp
  | cons batch rest ih =>
    rw [List.flatten_cons, List.nodup_append] at distinct
    rw [List.flatten_cons, List.reverse_append, List.reverse_cons, List.flatten_concat,
      List.forall_mem_cons, ← ih distinct.2.1, ← reverse_eq_self_iff distinct.1]
    constructor
    · intro same
      exact (List.append_inj' same List.length_reverse).symm
    · rintro ⟨one, others⟩
      rw [one, others]

def linksOf (page : List Candidate) : List String :=
  page.map fun candidate => Text.trim candidate.link

theorem linkKeys_linksOf (page : List Candidate) :
    (linksOf page).map linkKey = linkKeysOf page := by
  rw [linksOf, List.map_map]
  exact List.map_congr_left fun candidate _ => Merge.linkKey_trim candidate.link

theorem linkKeysOf_flatten (batches : List (List Candidate)) :
    linkKeysOf batches.flatten = (batches.map linkKeysOf).flatten :=
  List.map_flatten ..

/-- The feed shows the issues in the order of the page only if no batch has more than one. -/
theorem Grown.ordered_iff (grown : Grown pages batches) :
    linksOf batches.flatten.reverse = linksOf (pages.getLast?.getD []) ↔
      ∀ batch ∈ batches, batch.length ≤ 1 := by
  have distinct := grown.distinct
  rw [grown.lastPage] at distinct ⊢
  have keysDistinct : (batches.map linkKeysOf).flatten.Nodup := by
    rw [← linkKeysOf_flatten]
    exact (((List.reverse_perm batches).flatten.map _).nodup_iff).mp distinct
  -- Only the keys are known to be distinct, so the two orders are compared by them.
  constructor
  · intro same
    have keys := congrArg (List.map linkKey) same
    rw [linkKeys_linksOf, linkKeys_linksOf, linkKeysOf_flatten, List.map_reverse, linkKeysOf,
      List.map_reverse, ← linkKeysOf, linkKeysOf_flatten] at keys
    have short := (reverse_flatten_eq_iff keysDistinct).mp keys
    intro batch member
    simpa [linkKeysOf] using short _ (List.mem_map_of_mem member)
  · intro short
    have once : batches.flatten.Nodup := by
      rw [← linkKeysOf_flatten] at keysDistinct
      exact List.Nodup.of_map _ keysDistinct
    rw [(reverse_flatten_eq_iff once).mpr short]

theorem Standing.reported {channel : Channel} (standing : Standing location disk (some channel))
    {config : Config} (kept : config.feed.outputPath = location) (now : Instant) :
    ∃ info, (runInfo config now disk).1 = .ok info ∧
      info.latestLink = channel.newestFirst.head?.map (·.link) := by
  cases standing with
  | holding channel there =>
    subst kept
    have found := readFeed_eq_some_iff.mpr there
    rcases read : Store.readFeed disk config.feed.outputPath with ⟨failure | stored, log⟩
    · rw [read] at found
      cases found
    · rw [read] at found
      cases found
      refine ⟨FeedInfo.ofStored config now (some channel.serialize), ?_, ?_⟩
      · rw [runInfo, read]
      · have loaded : (Channel.load config now (some channel.serialize)).1 = channel.settled :=
          reload_eq config now channel
        rw [FeedInfo.ofStored, loaded]

/-- From where no feed is found, on pages that each list new issues above the whole page before:
what is shown are the batches of new issues, the latest first, but each upside down. So the order is
that of the page exactly when no update finds more than one issue, and what is reported as the
latest issue, and has its thumbnail shown, is the lowest of those found last. -/
theorem shown_order (absent : (Store.readFeed disk location).1 = .ok none)
    {calls : List (Call location)} (grown : Grown (listings disk calls) batches)
    (any : anySucceeded disk calls = true) :
    let page := (listings disk calls).getLast?.getD []
    page = batches.reverse.flatten ∧
      ∃ channel, storedChannel location (diskAfter disk calls) = some channel ∧
        channel.newestFirst.map (·.link) = linksOf batches.flatten.reverse ∧
        (channel.newestFirst.map (·.link) = linksOf page ↔
          ∀ batch ∈ batches, batch.length ≤ 1) ∧
        (∀ config : Config, config.feed.outputPath = location → ∀ now, ∃ info,
          (runInfo config now (diskAfter disk calls)).1 = .ok info ∧
          info.latestLink = (linksOf batches.flatten.reverse).head?) ∧
        ∀ newest ∈ batches.flatten.reverse.head?, ∀ url ∈ newest.imageUrl,
          channel.image.map (·.url) = some (settled url) := by
  obtain ⟨held, stands, there, -, displays⟩ := listings_displayed absent calls grown
  rw [any] at there
  obtain ⟨channel, rfl⟩ := Option.isSome_iff_exists.mp there
  have links : channel.newestFirst.map (·.link) = linksOf batches.flatten.reverse := by
    rw [Channel.newestFirst, List.map_reverse, linksOf, List.map_reverse]
    exact congrArg List.reverse displays.links
  refine ⟨grown.lastPage, channel, stands.storedChannel, links, ?_, ?_, ?_⟩
  · rw [links]
    exact grown.ordered_iff
  · intro config kept now
    obtain ⟨info, reported, latest⟩ := stands.reported kept now
    refine ⟨info, reported, ?_⟩
    rw [latest, ← List.head?_map, links]
  · rw [List.head?_reverse]
    exact displays.thumbnail

/-! ## One issue at a time, and two at once -/

section Example

open Html (Builder elements_built markupTokens page_built)

theorem twoPages_listed :
    listings (Disk.fresh []) [pageCall firstPage, pageCall secondPage] =
      [[firstIssue], [secondIssue, firstIssue]] := by
  have fetched : ∀ call ∈ [pageCall firstPage, pageCall secondPage], ∃ page,
      (fetchPage call.network call.client call.config.source.pageUrl).result = .ok page := by
    rw [List.forall_mem_cons, List.forall_mem_singleton]
    exact ⟨⟨_, firstPage_fetched⟩, _, pageCall_fetched (by decide)⟩
  rw [fresh_ready.listings_eq fetched, List.map_cons, List.map_singleton, firstPage_listed,
    secondPage_listed]

theorem one_at_a_time_in_order :
    let calls := [pageCall firstPage, pageCall secondPage]
    ∃ channel, storedChannel "feed.xml" (diskAfter (Disk.fresh []) calls) = some channel ∧
      channel.newestFirst.map (·.link) = linksOf [secondIssue, firstIssue] := by
  intro calls
  have any : anySucceeded (Disk.fresh []) calls = true := by
    obtain ⟨⟨_, starts⟩, -⟩ := fresh_ready.update firstPage_fetched
    rw [anySucceeded, starts]
    rfl
  have grown : Grown (listings (Disk.fresh []) calls) [[firstIssue], [secondIssue]] := by
    rw [twoPages_listed]
    have first := @Grown.next [] [] [firstIssue] .start (by decide)
    exact @Grown.next [[firstIssue]] [[firstIssue]] [secondIssue] first (by decide)
  obtain ⟨-, channel, stored, -, ordered, -⟩ := shown_order fresh_absent grown any
  have short : ∀ batch ∈ [[firstIssue], [secondIssue]], batch.length ≤ 1 := by decide
  refine ⟨channel, stored, (ordered.mpr short).trans ?_⟩
  rw [twoPages_listed]
  rfl

def picturedPage : String :=
  "<a href=/seniorenzeitung/2.pdf><b class=image><img src=/2.jpg></b></a>" ++
    "<a href=/seniorenzeitung/1.pdf><b class=image><img src=/1.jpg>"

def imageBlock : Html.Token := .opening ⟨"b", [("class", "image")], false⟩

def pictureAt (source : String) : Html.Token := .opening ⟨"img", [("src", source)], false⟩

theorem picturedPage_built :
    ({} : Builder).run (Html.withLineFeeds (Html.withoutMark picturedPage.toList)) =
      [anchorTo "/seniorenzeitung/2.pdf", imageBlock, pictureAt "/2.jpg", .closing "b",
        .closing "a", anchorTo "/seniorenzeitung/1.pdf", imageBlock, pictureAt "/1.jpg",
        .finish].foldl Builder.take {} := by
  have tokens : markupTokens 9 picturedPage.toList = [[anchorTo "/seniorenzeitung/2.pdf"],
      [imageBlock], [pictureAt "/2.jpg"], [.closing "b"], [.closing "a"],
      [anchorTo "/seniorenzeitung/1.pdf"], [imageBlock], [pictureAt "/1.jpg"]] := by cbv
  exact page_built (by cbv) tokens (by decide) (by decide)

def picturedFirst : Candidate :=
  { firstIssue with imageUrl := some "https://goslar.de/1.jpg" }

def picturedSecond : Candidate :=
  { secondIssue with imageUrl := some "https://goslar.de/2.jpg" }

theorem picturedPage_shows : picturedPage.toList.all Text.isBlank = false := by cbv

theorem picturedPage_listed :
    (pageCall picturedPage).listed = [picturedSecond, picturedFirst] := by
  rw [pageCall_listed picturedPage_shows, candidatesOn, findings,
    elements_built picturedPage_built (by decide)]
  decide

/-- A page with two issues, both with a thumbnail: the lower one is shown above the other, reported
as the latest, and it is its thumbnail that is shown. -/
theorem two_at_once_upside_down :
    let call := pageCall picturedPage
    let disk := diskAfter (Disk.fresh []) [call]
    listings (Disk.fresh []) [call] = [[picturedSecond, picturedFirst]] ∧
      ∃ channel info, storedChannel "feed.xml" disk = some channel ∧
        channel.newestFirst.map (·.link) = [firstIssue.link, secondIssue.link] ∧
        channel.newestFirst.map (·.link) ≠ linksOf [picturedSecond, picturedFirst] ∧
        (runInfo call.config call.now disk).1 = .ok info ∧
        info.latestLink = some firstIssue.link ∧
        channel.image.map (·.url) = picturedFirst.imageUrl := by
  intro call disk
  obtain ⟨⟨_, succeeds⟩, -⟩ := fresh_ready.update (pageCall_fetched picturedPage_shows)
  have listed : listings (Disk.fresh []) [call] = [[picturedSecond, picturedFirst]] := by
    rw [listings, succeeds, picturedPage_listed]
    rfl
  have grown : Grown (listings (Disk.fresh []) [call]) [[picturedSecond, picturedFirst]] := by
    rw [listed]
    exact @Grown.next [] [] [picturedSecond, picturedFirst] .start (by decide)
  obtain ⟨held, stands, there, -, displays⟩ := listings_displayed fresh_absent [call] grown
  rw [anySucceeded, succeeds] at there
  obtain ⟨channel, rfl⟩ := Option.isSome_iff_exists.mp there
  obtain ⟨info, reported, latest⟩ := stands.reported call.stored call.now
  have links : channel.newestFirst.map (·.link) = [firstIssue.link, secondIssue.link] := by
    rw [Channel.newestFirst, List.map_reverse]
    exact (congrArg List.reverse displays.links).trans (by decide)
  refine ⟨listed, channel, info, stands.storedChannel, links, ?_, reported, ?_, ?_⟩
  · rw [links]
    decide
  · rw [latest, ← List.head?_map, links]
    rfl
  · exact (displays.thumbnail picturedFirst rfl _ rfl).trans (by decide)

end Example

end IssueFeed
