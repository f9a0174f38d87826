import IssueFeed.Proofs.Html.Built
import IssueFeed.Proofs.Web.Pages

/-! Pages that list their newest issues first.
Such a page begins with what is new and goes on as the page before it began. A merge stops at the
first issue it knows, and nothing is lost by that: what follows there was listed before, and all
that was ever listed is recorded. -/
namespace IssueFeed

open Store (Disk Path)

/-- The keys of the issues on a page. -/
def linkKeysOf (page : List Candidate) : List String :=
  page.map fun candidate => linkKey candidate.link

/-- After these pages comes one with new issues before a beginning of the page before it. -/
structure Follows (pages : List (List Candidate)) (new kept : List Candidate) : Prop where
  distinct : (linkKeysOf (new ++ kept)).Nodup
  kept : linkKeysOf kept <+: linkKeysOf (pages.getLast?.getD [])
  unseen : ∀ page ∈ pages, ∀ key ∈ linkKeysOf new, key ∉ linkKeysOf page

/-- Pages each of which follows those before it; on the first all is new. -/
inductive NewestFirst : List (List Candidate) → Prop where
  | start : NewestFirst []
  | next {pages : List (List Candidate)} {new kept : List Candidate} (earlier : NewestFirst pages)
      (follows : Follows pages new kept) : NewestFirst (pages ++ [new ++ kept])

theorem NewestFirst.last {pages : List (List Candidate)} {page : List Candidate}
    (h : NewestFirst (pages ++ [page])) :
    NewestFirst pages ∧ ∃ new kept, page = new ++ kept ∧ Follows pages new kept := by
  generalize whole : pages ++ [page] = history at h
  cases h with
  | start => simp at whole
  | @next before new kept earlier follows =>
    obtain ⟨rfl, same⟩ := List.append_inj' whole rfl
    exact ⟨earlier, new, kept, List.singleton_inj.mp same, follows⟩

/-- The keys are those of all issues on the pages, each once. -/
structure Recorded (pages : List (List Candidate)) (keys : List String) : Prop where
  distinct : keys.Nodup
  exact : ∀ key, key ∈ keys ↔ ∃ page ∈ pages, key ∈ linkKeysOf page

variable {pages : List (List Candidate)} {keys : List String} {new kept : List Candidate}

theorem Follows.known (follows : Follows pages new kept) (recorded : Recorded pages keys)
    {key : String} (member : key ∈ linkKeysOf kept) : key ∈ keys := by
  have listed := follows.kept.subset member
  cases last : pages.getLast? with
  | none =>
    rw [last] at listed
    cases listed
  | some page =>
    rw [last] at listed
    exact (recorded.exact key).mpr ⟨page, List.mem_of_getLast? last, listed⟩

theorem Follows.unknown (follows : Follows pages new kept) (recorded : Recorded pages keys)
    {key : String} (member : key ∈ linkKeysOf new) : key ∉ keys := by
  intro old
  obtain ⟨page, among, listed⟩ := (recorded.exact key).mp old
  exact follows.unseen page among key member listed

theorem Follows.distinct_new (follows : Follows pages new kept) : (linkKeysOf new).Nodup := by
  have both := follows.distinct
  rw [linkKeysOf, List.map_append] at both
  exact (List.nodup_append.mp both).1

/-- What a merge records of the next page is what is new on it. -/
theorem Recorded.unrecorded (recorded : Recorded pages keys) (follows : Follows pages new kept) :
    Merge.unrecorded keys (new ++ kept) = new := by
  apply Merge.unrecorded_append follows.distinct_new
  · exact fun key member => follows.unknown recorded member
  · intro candidate first
    exact follows.known recorded (List.mem_map_of_mem (List.mem_of_mem_head? first))

theorem Recorded.next (recorded : Recorded pages keys) (follows : Follows pages new kept) :
    Recorded (pages ++ [new ++ kept]) (keys ++ linkKeysOf new) where
  distinct := by
    refine List.nodup_append.mpr ⟨recorded.distinct, follows.distinct_new, ?_⟩
    rintro key old other member rfl
    exact follows.unknown recorded member old
  exact key := by
    constructor
    · intro member
      rcases List.mem_append.mp member with old | added
      · obtain ⟨page, among, listed⟩ := (recorded.exact key).mp old
        exact ⟨page, List.mem_append_left _ among, listed⟩
      · refine ⟨new ++ kept, List.mem_append_right _ (List.mem_singleton.mpr rfl), ?_⟩
        rw [linkKeysOf, List.map_append]
        exact List.mem_append_left _ added
    · rintro ⟨page, among, listed⟩
      rcases List.mem_append.mp among with earlier | last
      · exact List.mem_append_left _ ((recorded.exact key).mpr ⟨page, earlier, listed⟩)
      · rw [List.mem_singleton.mp last, linkKeysOf, List.map_append] at listed
        rcases List.mem_append.mp listed with added | again
        · exact List.mem_append_right _ added
        · exact List.mem_append_left _ (follows.known recorded again)

/-! ## The pages of a number of updates -/

variable {location : String} {disk : Disk} {held : Option Channel}

/-- What is listed on the page that a call gets. -/
def Call.listed (call : Call location) : List Candidate :=
  match (fetchPage call.network call.client call.config.source.pageUrl).result with
  | .ok page => candidatesOn call.config page
  | .error _ => []

/-- What the pages of the calls that succeed list. -/
def listings (disk : Disk) : List (Call location) → List (List Candidate)
  | [] => []
  | call :: rest =>
    let later := listings (call.update disk).disk rest
    if (call.update disk).result.isOk then call.listed :: later else later

theorem listings_append (disk : Disk) (calls : List (Call location)) (call : Call location) :
    listings disk (calls ++ [call]) =
      if (call.update (diskAfter disk calls)).result.isOk then listings disk calls ++ [call.listed]
      else listings disk calls := by
  induction calls generalizing disk with
  | nil => rfl
  | cons first calls ih =>
    rw [List.cons_append, listings, listings, ih]
    change _ = if (call.update (diskAfter (first.update disk).disk calls)).result.isOk then _ else _
    split_ifs <;> rfl

/-- Where all pages are fetched, all of them are listed. -/
theorem Ready.listings_eq (ready : Ready location disk) {calls : List (Call location)}
    (fetched : ∀ call ∈ calls, ∃ page,
      (fetchPage call.network call.client call.config.source.pageUrl).result = .ok page) :
    listings disk calls = calls.map Call.listed := by
  induction calls generalizing disk with
  | nil => rfl
  | cons call calls ih =>
    obtain ⟨⟨page, first⟩, others⟩ := List.forall_mem_cons.mp fetched
    obtain ⟨⟨summary, succeeds⟩, next⟩ := ready.update first
    rw [listings, succeeds, ih next others]
    rfl

/-- An update that succeeds stores a merge of what its page lists. -/
theorem update_merges {call : Call location} {summary : Summary}
    (standing : Standing location disk held) (accepted : (call.update disk).result = .ok summary) :
    ∃ loaded : Channel, (∀ earlier, held = some earlier → loaded.settled = earlier) ∧
      loaded.settled.items = (held.map Channel.items).getD [] ∧
      summary.added = (merge call.config call.now loaded call.listed).added ∧
      Standing location (call.update disk).disk
        (some (merge call.config call.now loaded call.listed).channel.settled) := by
  obtain ⟨config, rfl, now, client, network⟩ := call
  have course := runUpdate_course config now client network disk
  simp only [Call.update, Call.listed] at accepted ⊢
  rw [accepted] at course
  generalize (runUpdate config now client network disk).disk = after at course ⊢
  cases course with
  | recorded page fetched stored found _ _ added total written =>
    have possible := congrArg Prod.snd written
    obtain ⟨carried, before⟩ := standing.load found ⟨_, possible⟩ config now
    rw [fetched]
    exact ⟨_, carried, before, added, .holding _ (Store.replace_read written)⟩

/-- Of the next page an update that succeeds merges what is new, and no more. -/
theorem update_merges_new {call : Call location} {summary : Summary}
    (standing : Standing location disk held)
    (recorded : Recorded pages ((held.map Channel.linkKeys).getD []))
    (page : call.listed = new ++ kept) (follows : Follows pages new kept)
    (accepted : (call.update disk).result = .ok summary) :
    ∃ loaded : Channel, (∀ earlier, held = some earlier → loaded.settled = earlier) ∧
      loaded.settled.items = (held.map Channel.items).getD [] ∧
      loaded.linkKeys = (held.map Channel.linkKeys).getD [] ∧
      loaded.unrecorded call.listed = new ∧ summary.added = new.length ∧
      Standing location (call.update disk).disk
        (some (merge call.config call.now loaded call.listed).channel.settled) := by
  obtain ⟨loaded, carried, before, added, stands⟩ := update_merges standing accepted
  have keys : loaded.linkKeys = (held.map Channel.linkKeys).getD [] := by
    rw [← loaded.linkKeys_settled, Channel.linkKeys, before]
    cases held <;> rfl
  have onlyNew : loaded.unrecorded call.listed = new := by
    rw [Channel.unrecorded, keys, page]
    exact recorded.unrecorded follows
  rw [merge_added, onlyNew] at added
  exact ⟨loaded, carried, before, keys, onlyNew, added, stands⟩

/-- An update that succeeds on the next page records what is new on it. -/
theorem update_records {call : Call location} {summary : Summary}
    (standing : Standing location disk held)
    (recorded : Recorded pages ((held.map Channel.linkKeys).getD []))
    (page : call.listed = new ++ kept) (follows : Follows pages new kept)
    (accepted : (call.update disk).result = .ok summary) :
    ∃ later, Standing location (call.update disk).disk (some later) ∧
      later.items = (held.map Channel.items).getD [] ++
        (new.map (Merge.itemFor call.config call.now)).map (Item.mapTexts settled) ∧
      later.linkKeys = (held.map Channel.linkKeys).getD [] ++ linkKeysOf new ∧
      summary.added = new.length := by
  obtain ⟨loaded, -, before, keys, onlyNew, added, stands⟩ :=
    update_merges_new standing recorded page follows accepted
  refine ⟨_, stands, ?_, ?_, added⟩
  · rw [Channel.settled, Channel.mapTexts, merge_items, List.map_append, onlyNew, ← before]
    rfl
  · rw [Channel.linkKeys_settled, merge_linkKeys, keys, onlyNew]
    rfl

theorem listings_recorded (absent : (Store.readFeed disk location).1 = .ok none)
    (calls : List (Call location)) (newest : NewestFirst (listings disk calls)) :
    ∃ held, Standing location (diskAfter disk calls) held ∧
      held.isSome = anySucceeded disk calls ∧
      Recorded (listings disk calls) ((held.map Channel.linkKeys).getD []) := by
  -- The induction is on the calls, the last one apart; a call that fails leaves the feed and the
  -- pages listed so far as they are.
  induction calls using List.reverseRec with
  | nil => exact ⟨none, .absent absent, rfl, List.nodup_nil, by simp [listings]⟩
  | append_singleton calls call ih =>
    rw [listings_append] at newest ⊢
    rw [anySucceeded_append, diskAfter_append]
    cases result : (call.update (diskAfter disk calls)).result with
    | error failure =>
      rw [result] at newest
      obtain ⟨held, stands, any, recorded⟩ := ih newest
      rcases update_standing stands call with ⟨_, -, still⟩ | ⟨_, _, succeeded, -⟩
      · exact ⟨held, still, any.trans (Bool.or_false _).symm, recorded⟩
      · rw [result] at succeeded
        cases succeeded
    | ok summary =>
      rw [result] at newest
      obtain ⟨earlier, new, kept, page, follows⟩ := newest.last
      obtain ⟨held, stands, any, recorded⟩ := ih earlier
      obtain ⟨later, arrives, -, keys, -⟩ := update_records stands recorded page follows result
      refine ⟨some later, arrives, (Bool.or_true _).symm, ?_⟩
      have next := recorded.next follows
      rw [← keys, ← page] at next
      exact next

/-- From where no feed is found, on pages that list their newest issues first, whatever fails in
between: an update that succeeds records exactly what is new on its page, in the order of the page,
and the feed then holds all issues that were ever listed, each once. -/
theorem newest_first_loses_nothing (absent : (Store.readFeed disk location).1 = .ok none)
    {calls : List (Call location)} (newest : NewestFirst (listings disk calls))
    {call : Call location} (page : call.listed = new ++ kept)
    (follows : Follows (listings disk calls) new kept) {summary : Summary}
    (accepted : (call.update (diskAfter disk calls)).result = .ok summary) :
    summary.added = new.length ∧
      ∃ channel, storedChannel location (diskAfter disk (calls ++ [call])) = some channel ∧
        channel.items = recordedItems disk calls ++
          (new.map (Merge.itemFor call.config call.now)).map (Item.mapTexts settled) ∧
        channel.linkKeys.Nodup ∧
        ∀ key, key ∈ channel.linkKeys ↔
          ∃ page ∈ listings disk (calls ++ [call]), key ∈ linkKeysOf page := by
  obtain ⟨held, stands, any, recorded⟩ := listings_recorded absent calls newest
  obtain ⟨later, arrives, items, keys, added⟩ :=
    update_records stands recorded page follows accepted
  have next := recorded.next follows
  rw [← keys, ← page] at next
  refine ⟨added, later, ?_, ?_, next.distinct, fun key => ?_⟩
  · rw [diskAfter_append]
    exact arrives.storedChannel
  · rw [items, stands.recordedItems any]
  · rw [listings_append, accepted]
    exact next.exact key

/-! ## Two pages, the second with an issue more -/

section Example

open Html (Builder elements_built markupTokens page_built)

def firstIssue : Candidate := { link := "https://goslar.de/seniorenzeitung/1.pdf" }

def secondIssue : Candidate := { link := "https://goslar.de/seniorenzeitung/2.pdf" }

def firstPage : String := "<a href=/seniorenzeitung/1.pdf>"

def secondPage : String := "<a href=/seniorenzeitung/2.pdf></a><a href=/seniorenzeitung/1.pdf>"

def anchorTo (target : String) : Html.Token := .opening ⟨"a", [("href", target)], false⟩

theorem firstPage_built :
    ({} : Builder).run (Html.withLineFeeds (Html.withoutMark firstPage.toList)) =
      [anchorTo "/seniorenzeitung/1.pdf", .finish].foldl Builder.take {} := by
  have tokens : markupTokens 2 firstPage.toList = [[anchorTo "/seniorenzeitung/1.pdf"]] := by cbv
  exact page_built (by decide) tokens (by decide) (by decide)

theorem secondPage_built :
    ({} : Builder).run (Html.withLineFeeds (Html.withoutMark secondPage.toList)) =
      [anchorTo "/seniorenzeitung/2.pdf", .closing "a", anchorTo "/seniorenzeitung/1.pdf",
        .finish].foldl Builder.take {} := by
  have tokens : markupTokens 4 secondPage.toList = [[anchorTo "/seniorenzeitung/2.pdf"],
      [.closing "a"], [anchorTo "/seniorenzeitung/1.pdf"]] := by cbv
  exact page_built (by decide) tokens (by decide) (by decide)

theorem pageCall_fetched {body : String} (shows : body.toList.all Text.isBlank = false) :
    (fetchPage (pageCall body).network (pageCall body).client
      (pageCall body).config.source.pageUrl).result = .ok body := by
  obtain ⟨request, made⟩ : ∃ request,
      requestFor plainCall.client plainCall.config.source.pageUrl = .ok request := ⟨_, rfl⟩
  have answers : Answers (pageCall body).network plainCall.client
      plainCall.config.source.pageUrl { body := body.toUTF8 } := ⟨request, made, rfl⟩
  have decoded := decodeLenient_toUTF8 body
  have isPage : ({ body := body.toUTF8 } : Response).IsPage := by
    refine ⟨fun error => absurd error.1 (by simp), rfl, ?_⟩
    rw [decoded]
    simpa using shows
  have fetched := answers.fetchPage isPage
  rw [decoded] at fetched
  exact fetched

theorem pageCall_listed {body : String} (shows : body.toList.all Text.isBlank = false) :
    (pageCall body).listed = candidatesOn plainCall.config body := by
  rw [Call.listed, pageCall_fetched shows]
  rfl

theorem firstPage_fetched :
    let call := pageCall firstPage
    (fetchPage call.network call.client call.config.source.pageUrl).result = .ok firstPage :=
  pageCall_fetched (by decide)

theorem firstPage_listed : (pageCall firstPage).listed = [firstIssue] := by
  rw [pageCall_listed (by decide), candidatesOn, findings,
    elements_built firstPage_built (by decide)]
  decide

theorem secondPage_listed : (pageCall secondPage).listed = [secondIssue, firstIssue] := by
  rw [pageCall_listed (by decide), candidatesOn, findings,
    elements_built secondPage_built (by decide)]
  decide

/-- A page with one issue, and then the same page with a newer one before it. -/
theorem newest_first_on_two_pages :
    let first := pageCall firstPage
    let second := pageCall secondPage
    ∃ summary channel,
      (second.update (diskAfter (Disk.fresh []) [first])).result = .ok summary ∧
      summary.added = 1 ∧
      storedChannel "feed.xml" (diskAfter (Disk.fresh []) [first, second]) = some channel ∧
      channel.linkKeys.Nodup ∧
      ∀ key, key ∈ channel.linkKeys ↔
        key = linkKey firstIssue.link ∨ key = linkKey secondIssue.link := by
  intro first second
  obtain ⟨⟨_, starts⟩, ready⟩ := fresh_ready.update firstPage_fetched
  obtain ⟨summary, goesOn⟩ :
      ∃ summary, (second.update (diskAfter (Disk.fresh []) [first])).result = .ok summary :=
    (ready.update (pageCall_fetched (by decide))).1
  have listed : listings (Disk.fresh []) [first] = [[firstIssue]] := by
    rw [listings, starts, firstPage_listed]
    rfl
  have one : Follows [] [firstIssue] [] := ⟨by decide, by decide, nofun⟩
  have newest : NewestFirst (listings (Disk.fresh []) [first]) :=
    listed ▸ NewestFirst.next .start one
  have follows : Follows (listings (Disk.fresh []) [first]) [secondIssue] [firstIssue] := by
    rw [listed]
    exact ⟨by decide, by decide, by decide⟩
  obtain ⟨added, channel, stored, -, distinct, exact_⟩ :=
    newest_first_loses_nothing fresh_absent newest secondPage_listed follows goesOn
  have both : listings (Disk.fresh []) [first, second] =
      [[firstIssue], [secondIssue, firstIssue]] := by
    have appended := listings_append (Disk.fresh []) [first] second
    rw [goesOn, listed, secondPage_listed] at appended
    exact appended
  refine ⟨summary, channel, goesOn, added, stored, distinct, fun key => ?_⟩
  rw [exact_, List.singleton_append, both]
  simp only [linkKeysOf, List.mem_cons, List.not_mem_nil, exists_eq_or_imp, exists_eq_left,
    List.map_cons, List.map_nil, or_false]
  constructor
  · rintro (one | two | one)
    · exact .inl one
    · exact .inr two
    · exact .inl one
  · rintro (one | two)
    · exact .inl one
    · exact .inr (.inl two)

end Example

end IssueFeed
