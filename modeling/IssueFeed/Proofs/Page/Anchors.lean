import IssueFeed.Page.Issue
import IssueFeed.Proofs.Page.Links
import IssueFeed.Proofs.Text.Plain
import Mathlib.Data.List.Forall2

/-! What is found on a page.
Each anchor that points at an issue gives one finding, in the order of the page, and it depends on
nothing but the anchor and what is below it. Of several parts of a kind the last one counts; a part
for an image counts only if there is a picture in it. -/
namespace IssueFeed

theorem SourceConfig.qualifies_iff {source : SourceConfig} {href : String} :
    source.qualifies href = true ↔
      source.documentExtension.toList <:+ href.toList ∧
        source.topicMarker.toList <:+: href.toList := by
  rw [qualifies, Bool.and_eq_true, Text.dropStart?_isSome_iff, Text.hasInfix_iff,
    List.reverse_prefix]

/-! ## Anchors -/

/-- The anchor's target, trimmed, ends like a document and names the topic. -/
def SourceConfig.PointsAtIssue (source : SourceConfig) (element : Html.Element) : Prop :=
  element.name = "a" ∧ ∃ href, element.attribute? "href" = some href ∧
    source.documentExtension.toList <:+ (Text.trim href).toList ∧
    source.topicMarker.toList <:+: (Text.trim href).toList

variable {source : SourceConfig} {anchor : Html.Element}

theorem SourceConfig.target?_eq_some_iff {target : String} :
    source.target? anchor = some target ↔
      source.PointsAtIssue anchor ∧ (anchor.attribute? "href").map Text.trim = some target := by
  unfold target? PointsAtIssue
  by_cases named : anchor.name = "a"
  · simp only [if_pos named, Option.filter_eq_some_iff, qualifies_iff, Option.map_eq_some_iff]
    constructor
    · rintro ⟨⟨href, written, rfl⟩, ends⟩
      exact ⟨⟨named, href, written, ends⟩, href, written, rfl⟩
    · rintro ⟨⟨-, href, written, ends⟩, other, again, rfl⟩
      cases written.symm.trans again
      exact ⟨⟨href, written, rfl⟩, ends⟩
  · simp [named]

theorem SourceConfig.target?_isSome_iff :
    (source.target? anchor).isSome = true ↔ source.PointsAtIssue anchor := by
  rw [Option.isSome_iff_exists]
  constructor
  · rintro ⟨target, found⟩
    exact (target?_eq_some_iff.mp found).1
  · intro points
    obtain ⟨-, href, written, -⟩ := id points
    exact ⟨Text.trim href, target?_eq_some_iff.mpr ⟨points, by rw [written]; rfl⟩⟩

instance : DecidablePred source.PointsAtIssue := fun _ =>
  decidable_of_iff _ SourceConfig.target?_isSome_iff

/-! ## Descriptions -/

/-- The last part of an anchor that is for a description. -/
def descriptionOf? (anchor : Html.Element) : Option Html.Element :=
  (anchor.childElements.filter Block.isForDescription).getLast?

namespace Finding

theorem link_withBlock (finding : Finding) (block : Block) :
    (finding.withBlock source block).candidate.link = finding.candidate.link := by
  rcases block with (_ | _) | _ | _ <;> rfl

theorem link_foldl (blocks : List Block) (finding : Finding) :
    (blocks.foldl (withBlock source) finding).candidate.link = finding.candidate.link := by
  induction blocks generalizing finding with
  | nil => rfl
  | cons block blocks ih => rw [List.foldl_cons, ih, link_withBlock]

/-- Where every part may set a field, the last one that does so counts. -/
theorem foldl_last {α : Type} (field : Finding → Option α) (set? : Html.Element → Option α)
    (step : ∀ finding part, field (withBlock source finding (Block.ofElement part)) =
      (set? part).or (field finding))
    (parts : List Html.Element) (finding : Finding) :
    field ((parts.map Block.ofElement).foldl (withBlock source) finding) =
      (parts.filterMap set?).getLast?.or (field finding) := by
  induction parts generalizing finding with
  | nil => rfl
  | cons part parts ih =>
    rw [List.map_cons, List.foldl_cons, ih, step]
    cases set : set? part with
    | none =>
      rw [List.filterMap_cons_none set]
      rfl
    | some value =>
      rw [List.filterMap_cons_some set, List.getLast?_cons]
      cases (parts.filterMap set?).getLast? <;> rfl

theorem description_withBlock (finding : Finding) (part : Html.Element) :
    (finding.withBlock source (Block.ofElement part)).candidate.description =
      (if Block.isForDescription part then some (Text.plain part.text) else none).or
        finding.candidate.description := by
  -- A part that is for an image is for nothing else.
  cases pictured : Block.isForImage part with
  | true =>
    rw [Block.ofElement, Block.isForDescription, pictured]
    cases Block.firstSource? part <;> rfl
  | false =>
    rw [Block.ofElement, if_neg (by simp [pictured])]
    split_ifs <;> rfl

/-- Of several descriptions the last one counts. -/
theorem description_foldl (parts : List Html.Element) (finding : Finding) :
    ((parts.map Block.ofElement).foldl (withBlock source) finding).candidate.description =
      ((parts.filter Block.isForDescription).getLast?.map fun part =>
        Text.plain part.text).or finding.candidate.description := by
  refine (foldl_last (·.candidate.description) _ (@description_withBlock source) parts
    finding).trans ?_
  rw [← List.filterMap_filter, ← List.getLast?_map, ← List.filterMap_eq_map']

end Finding

/-! ## Pictures -/

namespace Block

def isPicture (element : Html.Element) : Bool :=
  element.name = "img" && (element.attribute? "src").isSome

/-- The source of the first picture below an element. -/
def pictureSource? (element : Html.Element) : Option String :=
  (element.descendants.find? isPicture).bind (·.attribute? "src")

theorem firstSource?_eq (part : Html.Element) : firstSource? part = pictureSource? part := by
  unfold firstSource? pictureSource?
  induction part.descendants with
  | nil => rfl
  | cons element rest ih =>
    rw [List.findSome?_cons, List.find?_cons, ih, imageSource?, isPicture]
    by_cases named : element.name = "img"
    · cases sourced : element.attribute? "src" <;> simp [named, sourced]
    · simp [named]

theorem ofElement_frame {part : Html.Element} (frame : isForImage part = true) :
    ofElement part = .image (pictureSource? part) := by
  rw [ofElement, if_pos frame, firstSource?_eq]

theorem ofElement_other {part : Html.Element} (other : isForImage part = false) :
    ofElement part = .other ∨ ∃ text, ofElement part = .description text := by
  rw [ofElement, other, if_neg Bool.false_ne_true]
  split_ifs
  · exact .inr ⟨_, rfl⟩
  · exact .inl rfl

end Block

/-- The parts of an anchor that are for an image. -/
def framesOf (anchor : Html.Element) : List Html.Element :=
  anchor.childElements.filter Block.isForImage

namespace Finding

/-- What is reported of a frame without a picture, given the link of the issue. -/
def emptyFrameReport (link : String) : Report :=
  ⟨.debug, s!"Image block without <img src> in {link}"⟩

theorem image_withBlock (finding : Finding) (part : Html.Element) :
    (finding.withBlock source (Block.ofElement part)).candidate.imageUrl =
      (if Block.isForImage part then
        (Block.pictureSource? part).map (resolve source.origin)
      else none).or finding.candidate.imageUrl := by
  cases frame : Block.isForImage part with
  | true =>
    rw [Block.ofElement_frame frame]
    cases Block.pictureSource? part <;> rfl
  | false =>
    rcases Block.ofElement_other frame with block | ⟨text, block⟩ <;> rw [block] <;> rfl

theorem log_withBlock (finding : Finding) (part : Html.Element) :
    (finding.withBlock source (Block.ofElement part)).log =
      if Block.isForImage part && (Block.pictureSource? part).isNone then
        finding.log ++ [emptyFrameReport finding.candidate.link]
      else finding.log := by
  cases frame : Block.isForImage part with
  | true =>
    rw [Block.ofElement_frame frame]
    cases Block.pictureSource? part <;> rfl
  | false =>
    rcases Block.ofElement_other frame with block | ⟨text, block⟩ <;> rw [block] <;> rfl

/-- Of several pictures the last one counts. -/
theorem image_foldl (parts : List Html.Element) (finding : Finding) :
    ((parts.map Block.ofElement).foldl (withBlock source) finding).candidate.imageUrl =
      (((parts.filter Block.isForImage).filterMap Block.pictureSource?).getLast?.map
        (resolve source.origin)).or finding.candidate.imageUrl := by
  refine (foldl_last (·.candidate.imageUrl) _ (@image_withBlock source) parts finding).trans ?_
  rw [← List.filterMap_filter, ← List.map_filterMap, List.getLast?_map]

theorem log_foldl (parts : List Html.Element) (finding : Finding) :
    ((parts.map Block.ofElement).foldl (withBlock source) finding).log =
      finding.log ++ ((parts.filter Block.isForImage).filter fun frame =>
        (Block.pictureSource? frame).isNone).map fun _ =>
          emptyFrameReport finding.candidate.link := by
  induction parts generalizing finding with
  | nil => simp
  | cons part parts ih =>
    rw [List.map_cons, List.foldl_cons, ih, log_withBlock, link_withBlock]
    cases frame : Block.isForImage part with
    | true => cases shown : Block.pictureSource? part <;> simp [frame, shown]
    | false => simp [frame]

end Finding

/-! ## The whole page -/

/-- What an anchor gives that points at an issue. -/
def findingAt (source : SourceConfig) (anchor : Html.Element) : Finding :=
  let link := resolve source.origin ((anchor.attribute? "href").getD "")
  { candidate :=
      { link
        description := (descriptionOf? anchor).map fun part => Text.plain part.text
        imageUrl := ((framesOf anchor).filterMap Block.pictureSource?).getLast?.map
          (resolve source.origin) }
    log := ((framesOf anchor).filter fun frame => (Block.pictureSource? frame).isNone).map
      fun _ => Finding.emptyFrameReport link }

theorem ofLink_eq {href : String} (written : anchor.attribute? "href" = some href) :
    Finding.ofLink source (Text.trim href) anchor = findingAt source anchor := by
  have link := @Finding.link_foldl source (anchor.childElements.map Block.ofElement)
    { candidate := { link := resolve source.origin href } }
  have image := @Finding.image_foldl source anchor.childElements
    { candidate := { link := resolve source.origin href } }
  have description := @Finding.description_foldl source anchor.childElements
    { candidate := { link := resolve source.origin href } }
  have log := @Finding.log_foldl source anchor.childElements
    { candidate := { link := resolve source.origin href } }
  rw [Finding.ofLink, resolve_trim, findingAt, written]
  generalize (anchor.childElements.map Block.ofElement).foldl _ _ = found at *
  obtain ⟨⟨_, _, _⟩, _⟩ := found
  simp_all [framesOf, descriptionOf?]

theorem ofElement?_eq (source : SourceConfig) (anchor : Html.Element) :
    Finding.ofElement? source anchor =
      if source.PointsAtIssue anchor then some (findingAt source anchor) else none := by
  split_ifs with points
  · obtain ⟨-, href, written, -⟩ := id points
    have aimed : source.target? anchor = some (Text.trim href) :=
      SourceConfig.target?_eq_some_iff.mpr ⟨points, by rw [written]; rfl⟩
    rw [Finding.ofElement?, aimed, Option.map_some, ofLink_eq written]
  · have passed : source.target? anchor = none := by
      rw [← Option.not_isSome_iff_eq_none, SourceConfig.target?_isSome_iff]
      exact points
    rw [Finding.ofElement?, passed]
    rfl

theorem findings_eq (source : SourceConfig) (page : Html.Document) :
    findings source page =
      (page.elements.filter source.PointsAtIssue).map (findingAt source) := by
  unfold findings
  induction page.elements with
  | nil => rfl
  | cons element elements ih =>
    rw [List.filterMap_cons, List.filter_cons, ofElement?_eq, ih]
    by_cases points : source.PointsAtIssue element <;> simp [points]

/-- The findings of a page are those of its anchors that point at an issue, one each and in the
order of the page, so they are the same on every page that has the same such anchors. -/
theorem findings_exact (source : SourceConfig) (page : Html.Document) :
    findings source page = (page.elements.filter source.PointsAtIssue).map (findingAt source) ∧
      ∀ other : Html.Document,
        other.elements.filter source.PointsAtIssue = page.elements.filter source.PointsAtIssue →
          findings source other = findings source page := by
  refine ⟨findings_eq source page, ?_⟩
  intro other same
  rw [findings_eq, findings_eq, same]

/-- The anchors of a page whose target is an issue's, in the order of the page. -/
def SourceConfig.anchorsOn (source : SourceConfig) (page : Html.Document) : List Html.Element :=
  page.elements.filter fun element => (source.target? element).isSome

/-- What a candidate has from its anchor. -/
structure Candidate.IsOf (source : SourceConfig) (candidate : Candidate) (anchor : Html.Element) :
    Prop where
  link : ∃ href, anchor.attribute? "href" = some href ∧
    source.qualifies (Text.trim href) = true ∧ candidate.link = resolve source.origin href
  description : candidate.description =
    (descriptionOf? anchor).map fun part => Text.plain part.text

theorem SourceConfig.anchorsOn_eq (source : SourceConfig) (page : Html.Document) :
    source.anchorsOn page = page.elements.filter source.PointsAtIssue := by
  unfold anchorsOn
  apply List.filter_congr
  intro element _
  rw [Bool.eq_iff_iff, decide_eq_true_iff]
  exact target?_isSome_iff

theorem findingAt_isOf (points : source.PointsAtIssue anchor) :
    (findingAt source anchor).candidate.IsOf source anchor := by
  obtain ⟨-, href, written, ends⟩ := points
  refine ⟨⟨href, written, SourceConfig.qualifies_iff.mpr ends, ?_⟩, rfl⟩
  rw [findingAt, written]
  rfl

/-- The candidates of a page are those of its anchors, one each. -/
theorem findings_isOf (source : SourceConfig) (page : Html.Document) :
    List.Forall₂ (Candidate.IsOf source) ((findings source page).map (·.candidate))
      (source.anchorsOn page) := by
  rw [findings_eq, List.map_map, source.anchorsOn_eq, List.forall₂_map_left_iff, List.forall₂_same]
  intro anchor member
  exact findingAt_isOf (of_decide_eq_true (List.mem_filter.mp member).2)

end IssueFeed
