import IssueFeed.Feed.Link
import IssueFeed.Proofs.Text.Trimming

/-! Links and the anchors they come from.
A link ends with its anchor's target, so whatever the target ends with or holds the link does too,
also once it has been trimmed. Blanks around the target make no difference to it, nor do slashes at
the end of the origin. On a site of the web each link is absolute and trimmed, and what is so is
resolved already. -/
namespace IssueFeed

open Text (Trimmed isBlank trimBoth dropEndWhile)

theorem isAbsoluteLink_iff {link : List Char} :
    isAbsoluteLink link = true ↔ "http://".toList <+: link ∨ "https://".toList <+: link := by
  rw [isAbsoluteLink, Bool.or_eq_true, Text.dropStart?_isSome_iff, Text.dropStart?_isSome_iff]

theorem resolveTrimmed_absolute {link : List Char} (absolute : isAbsoluteLink link = true)
    (origin : List Char) : resolveTrimmed origin link = link := by
  unfold resolveTrimmed
  rw [if_pos absolute]

theorem resolveTrimmed_suffix (origin link : List Char) : link <:+ resolveTrimmed origin link := by
  unfold resolveTrimmed
  split_ifs
  · exact List.suffix_refl link
  · split
    · exact List.suffix_append _ _
    · exact (List.suffix_cons '/' link).trans (List.suffix_append _ _)

/-- A link that is put behind the origin. -/
theorem resolveTrimmed_path {link : List Char} (relative : isAbsoluteLink link = false)
    (trimmed : Trimmed isBlank link) (origin : List Char) :
    ∃ path, resolveTrimmed origin link = dropEndWhile (· == '/') origin ++ '/' :: path ∧
      ∀ c ∈ ('/' :: path).getLast?, isBlank c = false := by
  unfold resolveTrimmed
  rw [relative, if_neg Bool.false_ne_true]
  split
  · exact ⟨_, rfl, trimmed.2⟩
  · refine ⟨link, rfl, ?_⟩
    intro c ends
    cases link with
    | nil =>
      cases ends
      decide
    | cons first rest => exact trimmed.2 c (by rwa [List.getLast?_cons_cons] at ends)

theorem resolveTrimmed_slashes {slashes : List Char} (all : ∀ c ∈ slashes, c = '/')
    (origin link : List Char) :
    resolveTrimmed (origin ++ slashes) link = resolveTrimmed origin link := by
  have dropped : ∀ c ∈ slashes, (c == '/') = true := by
    intro c member
    exact beq_iff_eq.mpr (all c member)
  unfold resolveTrimmed
  rw [Text.dropEndWhile_append_of_all dropped]

theorem toList_resolve (origin href : String) :
    (resolve origin href).toList = resolveTrimmed origin.toList (Text.trim href).toList := by
  rw [resolve, String.toList_ofList, Text.toList_trim]

theorem resolve_suffix (origin href : String) :
    (Text.trim href).toList <:+ (resolve origin href).toList := by
  rw [toList_resolve]
  exact resolveTrimmed_suffix _ _

theorem resolve_path {href : String} (relative : isAbsoluteLink (Text.trim href).toList = false)
    (origin : String) :
    ∃ path, (resolve origin href).toList =
        dropEndWhile (· == '/') origin.toList ++ '/' :: path ∧
      ∀ c ∈ ('/' :: path).getLast?, isBlank c = false := by
  rw [toList_resolve]
  exact resolveTrimmed_path relative (Text.trimmed_trim href) origin.toList

theorem target_suffix (origin href : String) :
    (Text.trim href).toList <:+ (Text.trim (resolve origin href)).toList := by
  rw [Text.toList_trim (resolve origin href)]
  exact (Text.trimmed_trim href).suffix_trimBoth (resolve_suffix origin href)

theorem resolve_trim (origin href : String) :
    resolve origin (Text.trim href) = resolve origin href := by
  rw [resolve, resolve, Text.toList_trim, Text.trimBoth_trimBoth]

/-- Neither blanks around the target nor slashes behind the origin make a difference. -/
theorem resolve_surrounded {slashes before after : String} (all : ∀ c ∈ slashes.toList, c = '/')
    (front : ∀ c ∈ before.toList, isBlank c = true) (back : ∀ c ∈ after.toList, isBlank c = true)
    (origin href : String) :
    resolve (origin ++ slashes) (before ++ href ++ after) = resolve origin href := by
  have target : trimBoth isBlank (before ++ href ++ after).toList =
      trimBoth isBlank href.toList := by
    rw [String.toList_append, String.toList_append, List.append_assoc,
      Text.trimBoth_surrounded front back]
  rw [resolve, resolve, target, String.toList_append, resolveTrimmed_slashes all]

/-! ## Sites -/

/-- The origin names a protocol of the web and something more than slashes behind it. -/
def NamesSite (origin : String) : Prop :=
  ∃ protocol ∈ ["http://", "https://"], ∃ site : String,
    origin = protocol ++ site ∧ ∃ c ∈ site.toList, c ≠ '/'

/-- The link is absolute and has no blank at its ends. -/
structure IsResolved (link : List Char) : Prop where
  absolute : isAbsoluteLink link = true
  trimmed : Trimmed isBlank link

/-- Slashes are taken away behind the site only. -/
theorem NamesSite.protocol_kept {origin : String} (named : NamesSite origin) :
    ∃ protocol ∈ ["http://", "https://"], ∃ site : List Char,
      dropEndWhile (· == '/') origin.toList = protocol.toList ++ site := by
  obtain ⟨protocol, known, site, rfl, c, member, other⟩ := named
  refine ⟨protocol, known, dropEndWhile (· == '/') site.toList, ?_⟩
  have kept : (c == '/') = false := beq_eq_false_iff_ne.mpr other
  rw [String.toList_append, Text.dropEndWhile_append member kept]

theorem isResolved_of_protocol {protocol : String} (known : protocol ∈ ["http://", "https://"])
    {rest : List Char} (last : ∀ c ∈ (protocol.toList ++ rest).getLast?, isBlank c = false) :
    IsResolved (protocol.toList ++ rest) := by
  have either : protocol = "http://" ∨ protocol = "https://" := by simpa using known
  constructor
  · rw [isAbsoluteLink_iff]
    rcases either with rfl | rfl
    · exact .inl (List.prefix_append _ _)
    · exact .inr (List.prefix_append _ _)
  · refine ⟨?_, last⟩
    intro c first
    rcases either with rfl | rfl
    · cases first
      decide
    · cases first
      decide

theorem NamesSite.isResolved {origin : String} (named : NamesSite origin) (href : String) :
    IsResolved (resolve origin href).toList := by
  cases absolute : isAbsoluteLink (Text.trim href).toList with
  | true =>
    rw [toList_resolve, resolveTrimmed_absolute absolute]
    exact ⟨absolute, Text.trimmed_trim href⟩
  | false =>
    obtain ⟨path, resolved, last⟩ := resolve_path absolute origin
    obtain ⟨protocol, known, site, kept⟩ := named.protocol_kept
    rw [resolved, kept, List.append_assoc]
    apply isResolved_of_protocol known
    rwa [← List.append_assoc, List.getLast?_append_of_ne_nil _ (List.cons_ne_nil _ _)]

theorem IsResolved.resolve_eq {link : String} (resolved : IsResolved link.toList)
    (origin : String) : resolve origin link = link := by
  rw [resolve, resolved.trimmed.trimBoth_eq, resolveTrimmed_absolute resolved.absolute,
    String.ofList_toList]

/-- On a site the links that stay as they are are those that are absolute and trimmed. -/
theorem NamesSite.resolve_eq_self_iff {origin link : String} (named : NamesSite origin) :
    resolve origin link = link ↔ IsResolved link.toList := by
  constructor
  · intro same
    rw [← same]
    exact named.isResolved link
  · intro resolved
    exact resolved.resolve_eq origin

theorem NamesSite.resolve_resolve {origin : String} (named : NamesSite origin) (href : String) :
    resolve origin (resolve origin href) = resolve origin href :=
  (named.isResolved href).resolve_eq origin

end IssueFeed
