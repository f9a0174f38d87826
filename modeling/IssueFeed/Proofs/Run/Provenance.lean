import IssueFeed.Proofs.Feed.Produced
import IssueFeed.Proofs.Page.Anchors
import IssueFeed.Proofs.Run.Listing
import Mathlib.Data.List.SplitBy

/-! Where the items of the feed come from.
What an update adds to the stored feed it takes from the first anchors of the page that qualify, and
neither merging nor storing nor reading changes what it has taken. -/
namespace IssueFeed

open Store (Disk Path)

/-- What an item of the feed has from the anchor at which it was found. -/
structure Item.IsOf (source : SourceConfig) (item : Item) (anchor : Html.Element) : Prop where
  link : ∃ href, anchor.attribute? "href" = some href ∧
    item.link = Text.trim (resolve source.origin href)
  ends : source.documentExtension.toList <:+ item.link.toList
  topical : source.topicMarker.toList <:+: item.link.toList
  description : item.description =
    ((descriptionOf? anchor).map fun part => Text.plain part.text).getD ""
  plain : ∀ c ∈ item.description.toList, c = ' ' ∨ c = '-' ∨ Text.isWord c = true

/-- An item recorded of a candidate, as it is read again, is of the candidate's anchor. -/
theorem Candidate.IsOf.item {config : Config} {candidate : Candidate} {anchor : Html.Element}
    (found : candidate.IsOf config.source anchor) (now : Instant) :
    ((Merge.itemFor config now candidate).mapTexts settled).IsOf config.source anchor := by
  obtain ⟨href, written, qualified, link⟩ := found.link
  obtain ⟨extension, marker⟩ := SourceConfig.qualifies_iff.mp qualified
  have linkRead : settled (Text.trim candidate.link) = Text.trim candidate.link :=
    (settled_eq_self_iff _).mpr (trim_kept _)
  have descriptionRead : settled ((candidate.description.map Text.plain).getD "") =
      ((descriptionOf? anchor).map fun part => Text.plain part.text).getD "" := by
    rw [(settled_eq_self_iff _).mpr (description_kept _), found.description]
    cases descriptionOf? anchor with
    | none => rfl
    | some part => exact Text.plain_plain part.text
  have within : (Text.trim href).toList <:+
      (settled (Text.trim candidate.link)).toList := by
    rw [linkRead, link]
    exact target_suffix config.source.origin href
  constructor
  · exact ⟨href, written, linkRead.trans (congrArg Text.trim link)⟩
  · exact extension.trans within
  · exact marker.trans within.isInfix
  · exact descriptionRead
  · intro c member
    change c ∈ (settled ((candidate.description.map Text.plain).getD "")).toList at member
    rw [descriptionRead] at member
    cases described : descriptionOf? anchor with
    | none =>
      rw [described] at member
      cases member
    | some part =>
      rw [described] at member
      have allowed := Text.plain_isPlain part.text c member
      simpa only [Text.isPlain, Bool.or_eq_true, beq_iff_eq, or_assoc] using allowed

/-- What a merge adds is of the first anchors of the page. -/
theorem merge_items_of_anchors (config : Config) (now : Instant) (channel : Channel)
    (page : Html.Document) :
    let outcome := merge config now channel ((findings config.source page).map (·.candidate))
    let items := outcome.channel.settled.items
    outcome.added ≤ items.length ∧
      List.Forall₂ (Item.IsOf config.source) (items.drop (items.length - outcome.added))
        ((config.source.anchorsOn page).take outcome.added) := by
  intro outcome items
  let new := channel.unrecorded ((findings config.source page).map (·.candidate))
  have added : outcome.added = new.length := merge_added config now channel _
  have split : items = channel.settled.items ++
      new.map fun candidate => (Merge.itemFor config now candidate).mapTexts settled := by
    simp only [items, outcome, Channel.settled, Channel.mapTexts, merge_items, List.map_append,
      List.map_map]
    rfl
  -- Recording ends at the first known issue, so what is new stands at the top of the page.
  have first : new = ((findings config.source page).map (·.candidate)).take new.length :=
    List.prefix_iff_eq_take.mp (Merge.unrecorded_prefix _ _)
  have paired := List.forall₂_take new.length (findings_isOf config.source page)
  rw [← first] at paired
  have before : items.length - new.length = channel.settled.items.length := by
    rw [split, List.length_append, List.length_map, Nat.add_sub_cancel]
  rw [added, before]
  constructor
  · rw [split, List.length_append, List.length_map]
    exact Nat.le_add_left _ _
  · rw [split, List.drop_left, List.forall₂_map_left_iff]
    exact paired.imp fun _ _ found => found.item now

section Example

open Html (Builder elements_built markupTokens page_built)

end Example

end IssueFeed
