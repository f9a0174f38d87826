import IssueFeed.Proofs.Config.Checked
import IssueFeed.Proofs.Run.Provenance
import IssueFeed.Proofs.Url.Blank
import IssueFeed.Proofs.Url.Front

/-! Whether the links of the feed lead anywhere.
A link that a page gives without a protocol is the origin and a path. The origin is an address of
the web, and the link is one too, except where the origin ends in a blank directly behind its host:
the blank does not count for the origin alone, but in the link it stands within the address. -/
namespace IssueFeed

open Store (Disk Path)
open Text (isBlank trimBoth dropEndWhile)
open Url (Front blanksBehind cleaned)

/-- The host is followed by blanks only, and one of them is a blank within an address too. -/
structure BlankBehindHost (origin : String) : Prop where
  bare : ∃ front : Front, cleaned origin.toList = front.text ∧ front.tail = []
  blank : blanksBehind origin.toList ≠ []

namespace Url

theorem isLineBlank_outer {c : Char} (inner : isOuterBlank c = false) : isLineBlank c = false := by
  cases line : isLineBlank c with
  | false => rfl
  | true =>
    simp only [isLineBlank, Bool.or_eq_true, beq_iff_eq] at line
    rcases line with (rfl | rfl) | rfl <;> cases inner

theorem head?_cleaned (input : List Char) :
    (cleaned input).head? = (input.dropWhile isOuterBlank).head? := by
  rw [cleaned, trimBoth]
  cases dropped : input.dropWhile isOuterBlank with
  | nil => rfl
  | cons c rest =>
    have inner : isOuterBlank c = false := Text.head_dropWhile _ input c (by rw [dropped]; rfl)
    have ended : dropEndWhile isOuterBlank (c :: rest) = c :: dropEndWhile isOuterBlank rest :=
      Text.dropEndWhile_append_cons inner [] rest
    rw [ended, List.filter_cons, isLineBlank_outer inner]
    rfl

/-- Trimming by the wider class of blanks does not change what is read of an address. -/
theorem cleaned_trimBoth {input : List Char}
    (opens : ∀ c ∈ (cleaned input).head?, isBlank c = false)
    (closes : ∀ c ∈ input.getLast?, isBlank c = false) :
    cleaned (trimBoth isBlank input) = cleaned input := by
  have last : ∀ c ∈ (input.dropWhile isBlank).getLast?, isBlank c = false := by
    intro c ends
    apply closes
    rw [← List.takeWhile_append_dropWhile (p := isBlank) (l := input), List.getLast?_append,
      Option.mem_def.mp ends]
    rfl
  rw [head?_cleaned] at opens
  rw [trimBoth, Text.dropEndWhile_eq_self_of_last last, cleaned, cleaned, trimBoth,
    Text.dropWhile_dropWhile opens, trimBoth]

theorem isBlank_letter {c : Char} (letter : Text.isLetter c = true) : isBlank c = false := by
  simp only [Text.isLetter, Bool.or_eq_true, Bool.and_eq_true, decide_eq_true_eq,
    Char.le_def, UInt32.le_iff_toNat_le] at letter
  have range : 65 ≤ c.toNat ∧ c.toNat ≤ 122 := by
    rcases letter with ⟨low, high⟩ | ⟨low, high⟩
    · exact ⟨le_trans (by decide) low, high⟩
    · exact ⟨low, le_trans high (by decide)⟩
  simp only [isBlank, Bool.or_eq_false_iff, Bool.and_eq_false_imp, beq_eq_false_iff_ne,
    decide_eq_true_eq, decide_eq_false_iff_not]
  omega

theorem Front.head_text (front : Front) : ∀ c ∈ front.text.head?, isBlank c = false := by
  intro c first
  cases named : front.name with
  | nil =>
    rw [text, named] at first
    cases first
    decide
  | cons d rest =>
    have member : d ∈ front.name := by
      rw [named]
      exact List.mem_cons_self
    rw [text, named] at first
    cases first
    exact isBlank_letter (front.name_letters _ member)

end Url

/-- The front of a link is that of the origin, with the blanks behind it that count now. -/
theorem resolve_front {origin href : String} {front : Front}
    (clean : cleaned origin.toList = front.text)
    (relative : isAbsoluteLink (Text.trim href).toList = false) :
    ∃ after : Front, cleaned (Text.trim (resolve origin href)).toList = after.text ∧
      after.protocol = front.protocol ∧ after.authority =
        front.authority ++ if front.tail = [] then blanksBehind origin.toList else [] := by
  obtain ⟨path, resolved, last⟩ := resolve_path relative origin
  obtain ⟨after, read, protocol, authority⟩ := front.followed clean path
  refine ⟨after, ?_, protocol, authority⟩
  rw [Text.toList_trim, resolved, Url.cleaned_trimBoth, read]
  · rw [read]
    exact after.head_text
  · rwa [List.getLast?_append_of_ne_nil _ (List.cons_ne_nil _ _)]

theorem resolve_isWebAddress_iff {origin href : String} (sound : IsWebAddress origin)
    (relative : isAbsoluteLink (Text.trim href).toList = false) :
    IsWebAddress (Text.trim (resolve origin href)) ↔ ¬ BlankBehindHost origin := by
  constructor
  · rintro address ⟨⟨front, clean, bare⟩, blank⟩
    obtain ⟨after, read, protocol, authority⟩ := resolve_front clean relative
    rw [if_pos bare] at authority
    obtain ⟨url, found⟩ := (after.readChars_isWeb_iff read).mp address
    rw [authority] at found
    exact Url.readAuthority_blank after.hosted.1
      (fun c member => (Url.isOuterBlank_blanksBehind member).1) blank _ _ found
  · intro apart
    obtain ⟨url, read, web⟩ := sound
    obtain ⟨front, clean⟩ := Url.exists_front read web
    obtain ⟨after, readAfter, protocol, authority⟩ := resolve_front clean relative
    have same : after.authority = front.authority := by
      rw [authority]
      split_ifs with bare
      · have none : blanksBehind origin.toList = [] := by
          by_contra blank
          exact apart ⟨⟨front, clean, bare⟩, blank⟩
        rw [none, List.append_nil]
      · exact List.append_nil _
    refine (after.readChars_isWeb_iff readAfter).mpr ?_
    rw [protocol, same]
    exact (front.readChars_isWeb_iff clean).mp ⟨url, read, web⟩

/-! ## The links that an update adds -/

/-- The item is linked as its anchor says. If the anchor leaves the protocol out, the link is an
address of the web unless a blank stands behind the origin's host. -/
def Item.Leads (source : SourceConfig) (item : Item) (anchor : Html.Element) : Prop :=
  ∃ href, anchor.attribute? "href" = some href ∧
    item.link = Text.trim (resolve source.origin href) ∧
    (isAbsoluteLink (Text.trim href).toList = false →
      (IsWebAddress item.link ↔ ¬ BlankBehindHost source.origin))

theorem Item.IsOf.leads {source : SourceConfig} {item : Item} {anchor : Html.Element}
    (sound : IsWebAddress source.origin) (found : item.IsOf source anchor) :
    item.Leads source anchor := by
  obtain ⟨href, written, link⟩ := found.link
  refine ⟨href, written, link, fun relative => ?_⟩
  rw [link]
  exact resolve_isWebAddress_iff sound relative

/-- Each item that an update under a sound configuration adds is linked from an anchor of the page,
and exactly the origins with a blank behind the host spoil the links that name no protocol. -/
theorem update_links_lead {config : Config} {now : Instant} {client : String} {network : Network}
    {disk : Disk} {summary : Summary} (sound : config.validate = .ok ())
    (accepted : (runUpdate config now client network disk).result = .ok summary) :
    ∃ page bytes channel,
      (fetchPage network client config.source.pageUrl).result = .ok page ∧
      (runUpdate config now client network disk).disk.read
        (Path.ofText config.feed.outputPath) = .ok bytes ∧
      Channel.parse bytes = .ok channel ∧
      summary.added ≤ channel.items.length ∧
      List.Forall₂ (Item.Leads config.source)
        (channel.items.drop (channel.items.length - summary.added))
        ((config.source.anchorsOn (Html.Document.ofText page)).take summary.added) := by
  have origin := (Config.addresses_of_validate sound).2
  have course := runUpdate_course config now client network disk
  rw [accepted] at course
  generalize (runUpdate config now client network disk).disk = after at course ⊢
  cases course with
  | recorded page fetched stored found _ _ added total written =>
    obtain ⟨least, paired⟩ := merge_items_of_anchors config now
      (Channel.load config now stored).1 (Html.Document.ofText page)
    rw [added]
    exact ⟨page, _, _, fetched, Store.replace_read written, parse_serialize _, least,
      paired.imp fun _ _ found => found.leads origin⟩

/-! ## An origin without a name, and the same with a blank behind it -/

section Example

open Html (elements_built)

/-- A page with one issue, whatever the origin is. -/
def originCall (origin : String) : Call "feed.xml" :=
  { pageCall firstPage with
    config := { plainCall.config with source := { pageUrl := "http://[::]", origin := origin } }
    stored := rfl }

def issueAnchor : Html.Element where
  name := "a"
  attributes := [("href", "/seniorenzeitung/1.pdf")]
  children := []

/-- A page with one issue starts a feed with one item. -/
theorem Call.starts_feed {call : Call location} {issue : Candidate} {summary : Summary}
    (absent : (Store.readFeed disk location).1 = .ok none)
    (accepted : (call.update disk).result = .ok summary) (listed : call.listed = [issue]) :
    summary.added = 1 ∧ ∃ channel, storedChannel location (call.update disk).disk = some channel ∧
      channel.items = [(Merge.itemFor call.config call.now issue).mapTexts settled] := by
  obtain ⟨loaded, -, before, added, standing⟩ := update_merges (.absent absent) accepted
  have empty : loaded.items = [] := List.map_eq_nil_iff.mp before
  have new : loaded.unrecorded [issue] = [issue] := by
    rw [Channel.unrecorded, Channel.linkKeys, empty]
    rfl
  rw [listed] at added standing
  rw [merge_added, new] at added
  refine ⟨added, _, standing.storedChannel, ?_⟩
  rw [Channel.settled, Channel.mapTexts, merge_items, empty, new]
  rfl

theorem originCall_fetched (origin : String) :
    (fetchPage (originCall origin).network (originCall origin).client
      (originCall origin).config.source.pageUrl).result = .ok firstPage :=
  firstPage_fetched

theorem originCall_listed {origin : String} {issue : Candidate}
    (found : candidatesOn (originCall origin).config firstPage = [issue]) :
    (originCall origin).listed = [issue] := by
  rw [Call.listed, originCall_fetched, ← found]

/-- The issue is found whatever the origin is. -/
theorem originCall_anchors (origin : String) :
    (originCall origin).config.source.anchorsOn (Html.Document.ofText firstPage) =
      [issueAnchor] := by
  have same : (originCall origin).config.source.target? = plainCall.config.source.target? := rfl
  rw [SourceConfig.anchorsOn, same, elements_built firstPage_built (by decide)]
  rfl

theorem link_behind_bracket_leads :
    let call := originCall "http://[::]"
    call.config.validate = .ok () ∧
      ∃ summary channel item, (call.update (Disk.fresh [])).result = .ok summary ∧
        storedChannel "feed.xml" (call.update (Disk.fresh [])).disk = some channel ∧
        channel.items = [item] ∧ IsWebAddress item.link := by
  intro call
  have sound : call.config.validate = .ok () :=
    Config.validate_eq_ok_iff.mpr (by decide +kernel)
  have found : candidatesOn call.config firstPage =
      [{ link := "http://[::]/seniorenzeitung/1.pdf" }] := by
    rw [candidatesOn, findings, elements_built firstPage_built (by decide)]
    decide
  obtain ⟨summary, accepted⟩ : ∃ summary, (call.update (Disk.fresh [])).result = .ok summary :=
    (fresh_ready.update (originCall_fetched _)).1
  obtain ⟨added, channel, held, items⟩ :=
    Call.starts_feed fresh_absent accepted (originCall_listed found)
  refine ⟨sound, summary, channel, _, accepted, held, items, ?_⟩
  obtain ⟨page, bytes, again, fetched, stored, parsed, -, paired⟩ :=
    update_links_lead sound accepted
  obtain rfl : page = firstPage := Except.ok.inj (fetched.symm.trans firstPage_fetched)
  obtain rfl : again = channel := by
    have there : (Store.readFeed (call.update (Disk.fresh [])).disk "feed.xml").1 =
        .ok (some bytes) := readFeed_eq_some_iff.mpr stored
    simp only [storedChannel, there, parsed] at held
    exact Option.some.inj held
  have anchors := originCall_anchors "http://[::]"
  rw [added, items, anchors] at paired
  obtain ⟨⟨href, written, -, leads⟩, -⟩ := List.forall₂_cons.mp paired
  cases written
  exact (leads (by decide)).mpr fun behind => behind.blank (by decide)

/-- The origin is in order, and the link of the item is not. -/
theorem blank_behind_bracket_spoils :
    let call := originCall "http://[::] "
    call.config.validate = .ok () ∧
      (fetchPage call.network call.client call.config.source.pageUrl).result = .ok firstPage ∧
      call.config.source.anchorsOn (Html.Document.ofText firstPage) = [issueAnchor] ∧
      ∃ summary channel item, (call.update (Disk.fresh [])).result = .ok summary ∧
        summary.added = 1 ∧
        storedChannel "feed.xml" (call.update (Disk.fresh [])).disk = some channel ∧
        channel.items = [item] ∧ ¬ IsWebAddress item.link := by
  intro call
  have found : candidatesOn call.config firstPage =
      [{ link := "http://[::] /seniorenzeitung/1.pdf" }] := by
    rw [candidatesOn, findings, elements_built firstPage_built (by decide)]
    decide
  obtain ⟨summary, accepted⟩ : ∃ summary, (call.update (Disk.fresh [])).result = .ok summary :=
    (fresh_ready.update (originCall_fetched _)).1
  obtain ⟨added, channel, held, items⟩ :=
    Call.starts_feed fresh_absent accepted (originCall_listed found)
  refine ⟨Config.validate_eq_ok_iff.mpr (by decide +kernel), firstPage_fetched,
    originCall_anchors _, summary, channel, _, accepted, added, held, items, ?_⟩
  have unread : Url.read (settled (Text.trim "http://[::] /seniorenzeitung/1.pdf")) =
      .error .ipv6 := by decide
  rintro ⟨url, read, -⟩
  cases unread.symm.trans read

end Example

end IssueFeed
