import IssueFeed.Proofs.Xml.Scanning

/-! Written elements as a reader meets them.
Elements may have any blanks of XML between them; the events do not show these. -/
namespace IssueFeed.Xml

open Text (isXmlBlank)

variable {name text gap rest : List Char} {frames : List Frame} {ps : List Part}

/-- The tag of an element without attributes. -/
def plainTag (name : List Char) : Tag := ⟨name, ⟨[], false⟩⟩

theorem PlainName.tag_eq (plain : PlainName name) : Tag.ofText name = plainTag name := by
  have whole : ∀ c ∈ name, (!isXmlBlank c) = true := fun c hc => by rw [plain.no_blank c hc]; rfl
  rw [Tag.ofText, List.takeWhile_eq_self_iff.mpr whole, List.dropWhile_eq_nil_iff.mpr whole,
    attributesOf]
  rfl

theorem PlainName.localName_eq (plain : PlainName name) : localName name = name := by
  have whole : ∀ c ∈ name, (c != ':') = true := by
    intro c hc
    refine bne_iff_ne.mpr ?_
    rintro rfl
    exact plain.excludes rfl hc
  rw [localName, List.dropWhile_eq_nil_iff.mpr whole]

mutual

/-- The events of an element without attributes, where no namespace is bound. -/
def Branch.events : Branch → List Event
  | .leaf name text => .start (plainTag name) [] :: (textEvents text ++ [.finish []])
  | .branch name _ children => .start (plainTag name) [] :: (eventsAll children ++ [.finish []])

def eventsAll : List Branch → List Event
  | [] => []
  | child :: rest => child.events ++ eventsAll rest

end

/-- The next part binds no namespace. -/
def Quiet (ps : List Part) : Prop :=
  ∀ part ∈ ps.head?, part.scope = []

theorem Quiet.ahead (quiet : Quiet ps) : (ps.head?.map (·.scope)).getD [] = [] := by
  cases ps with
  | nil => rfl
  | cons part ps => exact quiet part rfl

theorem eventsOfParts_start (tag : Tag) (quiet : Quiet ps) :
    eventsOfParts (⟨.start tag, []⟩ :: ps) = .start tag [] :: eventsOfParts ps := by
  change Event.start tag ((ps.head?.map (·.scope)).getD []) :: eventsOfParts ps = _
  rw [quiet.ahead]

theorem eventsOfParts_finish (quiet : Quiet ps) :
    eventsOfParts (⟨.finish, []⟩ :: ps) = .finish [] :: eventsOfParts ps := by
  change Event.finish ((ps.head?.map (·.scope)).getD []) :: eventsOfParts ps = _
  rw [quiet.ahead]

theorem eventsOfParts_stretch (s : Stretch) (scope : Scope) :
    eventsOfParts (⟨.stretch s, scope⟩ :: ⟨.finish, []⟩ :: ps) =
      .text [s.trimEnd] :: eventsOfParts (⟨.finish, []⟩ :: ps) := rfl

theorem parts_blank {content : List Char} (blank : content.dropWhile isXmlBlank = [])
    (more : List Token) : parts frames true (.text content :: more) = parts frames true more := by
  have dropped : (content.dropWhile isXmlBlank).isEmpty = true := by rw [blank]; rfl
  exact if_pos dropped

theorem parts_text {content : List Char} (shows : content.dropWhile isXmlBlank ≠ [])
    (more : List Token) : parts frames true (.text content :: more) =
      ⟨.stretch (.escaped (content.dropWhile isXmlBlank)), scopeOf frames⟩ ::
        parts frames false more := by
  have kept : ¬ (content.dropWhile isXmlBlank).isEmpty = true := by simpa using shows
  exact if_neg kept

theorem parts_verbatim (content : List Char) (trimming : Bool) (more : List Token) :
    parts frames trimming (.verbatim content :: more) =
      ⟨.stretch (.verbatim content), scopeOf frames⟩ :: parts frames false more := rfl

theorem parts_gap (blank : ∀ c ∈ gap, isXmlBlank c = true) (ended : EndsText rest) :
    parts frames true (tokens (gap ++ rest)) = parts frames true (tokens rest) := by
  by_cases empty : gap = []
  · rw [empty, List.nil_append]
  · have plain : ∀ c ∈ gap, c ≠ '<' := by
      intro c hc opening
      exact absurd (blank c hc) (by subst opening; decide)
    rw [tokens_text empty plain ended, parts_blank (List.dropWhile_eq_nil_iff.mpr blank)]

theorem parts_opening {content : List Char} {tag : Tag} (named : Tag.ofText content = tag)
    (unbound : scopeOf frames = []) (free : Scope.extend? [] tag.attributes.sound = some [])
    (trimming : Bool) (more : List Token) :
    parts frames trimming (.opening content false :: more) =
      ⟨.start tag, []⟩ :: parts (⟨tag.name, []⟩ :: frames) true more := by
  simp only [parts, named, unbound, free, Bool.false_eq_true, if_false]

theorem parts_closing (name : List Char) (trimming : Bool) (more : List Token) :
    parts (⟨name, []⟩ :: frames) trimming (.closing name :: more) =
      ⟨.finish, []⟩ :: parts frames true more :=
  if_pos rfl

theorem endsText_closing (name rest : List Char) : EndsText (closingTag name ++ rest) := by
  intro c hc
  cases hc
  rfl

/-- What follows a leaf's opening tag: its text and its end. -/
theorem parts_writtenText (frames : List Frame) (plain : PlainName name) (text rest : List Char) :
    let inside := parts (⟨name, []⟩ :: frames) true
      (tokens (writtenText text ++ (closingTag name ++ rest)))
    Quiet inside ∧ eventsOfParts inside =
      textEvents text ++ eventsOfParts (⟨.finish, []⟩ :: parts frames true (tokens rest)) := by
  by_cases verbatim : WrittenVerbatim text
  · have nonempty : text ≠ [] := by
      intro empty
      subst empty
      exact verbatim.1 rfl
    rw [tokens_writtenText_verbatim verbatim, plain.tokens_closing, parts_verbatim, parts_closing,
      textEvents, if_neg nonempty, writtenStretch, if_pos verbatim]
    exact ⟨fun part first => by cases first; rfl, eventsOfParts_stretch _ _⟩
  · by_cases empty : text = []
    · subst empty
      rw [writtenText_escaped verbatim, escape_nil, List.nil_append, plain.tokens_closing,
        parts_closing]
      exact ⟨fun part first => by cases first; rfl, rfl⟩
    · have kept : (escape text).dropWhile isXmlBlank ≠ [] := by
        rw [dropWhile_escape, Ne, escape_eq_nil_iff]
        exact escaped_text_remains empty verbatim
      rw [tokens_writtenText_escaped verbatim empty (endsText_closing name rest),
        plain.tokens_closing, textEvents, if_neg empty, writtenStretch, if_neg verbatim,
        parts_text kept, parts_closing]
      refine ⟨fun part first => by cases first; rfl, ?_⟩
      rw [eventsOfParts_stretch, Stretch.trimEnd, dropWhile_escape, dropEndWhile_escape]
      rfl

/-- Elements without attributes one after the other, as a text can hold them. -/
inductive Laid : List Branch → List Char → Prop where
  | gap {gap : List Char} (blank : ∀ c ∈ gap, isXmlBlank c = true) : Laid [] gap
  | leaf {gap name text rest : List Char} {others : List Branch}
      (blank : ∀ c ∈ gap, isXmlBlank c = true) (plain : PlainName name) (more : Laid others rest) :
      Laid (.leaf name text :: others)
        (gap ++ (openingTag name [] ++ (writtenText text ++ (closingTag name ++ rest))))
  | branch {gap name inside rest : List Char} {children others : List Branch}
      (blank : ∀ c ∈ gap, isXmlBlank c = true) (plain : PlainName name)
      (within : Laid children inside) (more : Laid others rest) :
      Laid (.branch name [] children :: others)
        (gap ++ (openingTag name [] ++ (inside ++ (closingTag name ++ rest))))

theorem parts_element (blank : ∀ c ∈ gap, isXmlBlank c = true) (plain : PlainName name)
    (unbound : scopeOf frames = []) (rest : List Char) :
    parts frames true (tokens (gap ++ (openingTag name [] ++ rest))) =
      ⟨.start (plainTag name), []⟩ :: parts (⟨name, []⟩ :: frames) true (tokens rest) := by
  have named : Tag.ofText (name ++ []) = plainTag name := by rw [List.append_nil, plain.tag_eq]
  have opens : OpensElement (name ++ []) := by rw [List.append_nil]; exact plain.opensElement
  have ended : EndsText (openingTag name [] ++ rest) := by
    intro c hc
    cases hc
    rfl
  rw [parts_gap blank ended, opens.tokens_eq]
  exact parts_opening named unbound rfl true _

/-- The events of laid out elements, whatever follows them. -/
theorem Laid.events_eq {elements : List Branch} (laid : Laid elements text)
    (unbound : scopeOf frames = []) (ended : EndsText rest)
    (quiet : Quiet (parts frames true (tokens rest))) :
    Quiet (parts frames true (tokens (text ++ rest))) ∧
      eventsOfParts (parts frames true (tokens (text ++ rest))) =
        eventsAll elements ++ eventsOfParts (parts frames true (tokens rest)) := by
  -- The induction is on the layout; what an element holds is followed by its own end.
  induction laid generalizing frames rest with
  | gap blank =>
    rw [parts_gap blank ended]
    exact ⟨quiet, rfl⟩
  | @leaf gap name text after others blank plain _ ih =>
    have follows := ih unbound ended quiet
    have inside := parts_writtenText frames plain text (after ++ rest)
    simp only [List.append_assoc] at inside ⊢
    rw [parts_element blank plain unbound, eventsOfParts_start _ inside.1, inside.2,
      eventsOfParts_finish follows.1, follows.2]
    exact ⟨fun part first => by cases first; rfl, by simp [eventsAll, Branch.events]⟩
  | @branch gap name inside after children others blank plain _ _ ihWithin ihMore =>
    have follows := ihMore unbound ended quiet
    have closing : parts (⟨name, []⟩ :: frames) true (tokens (closingTag name ++ (after ++ rest))) =
        ⟨.finish, []⟩ :: parts frames true (tokens (after ++ rest)) := by
      rw [plain.tokens_closing, parts_closing]
    have ready : Quiet
        (parts (⟨name, []⟩ :: frames) true (tokens (closingTag name ++ (after ++ rest)))) := by
      rw [closing]
      exact fun part first => by cases first; rfl
    have within := ihWithin rfl (endsText_closing name _) ready
    simp only [List.append_assoc]
    rw [parts_element blank plain unbound, eventsOfParts_start _ within.1, within.2, closing,
      eventsOfParts_finish follows.1, follows.2]
    exact ⟨fun part first => by cases first; rfl, by simp [eventsAll, Branch.events]⟩

mutual

/-- All names are plain, and there are no attributes. -/
def Branch.Plain : Branch → Prop
  | .leaf name _ => PlainName name
  | .branch name attributes children => PlainName name ∧ attributes = [] ∧ AllPlain children

def AllPlain : List Branch → Prop
  | [] => True
  | child :: rest => child.Plain ∧ AllPlain rest

end

theorem allPlain_iff {elements : List Branch} :
    AllPlain elements ↔ ∀ element ∈ elements, element.Plain := by
  induction elements with
  | nil => simp [AllPlain]
  | cons element elements ih => simp [AllPlain, ih]

theorem lineBreak_blank (depth : Nat) : ∀ c ∈ lineBreak depth, isXmlBlank c = true := by
  intro c hc
  rcases List.mem_cons.mp hc with first | indent
  · subst first; rfl
  · rw [List.eq_of_mem_replicate indent]; rfl

/-- Written elements are laid out, with the line breaks for gaps. -/
theorem laid_writtenAll : ∀ (elements : List Branch) (depth : Nat) {ending : List Char},
    AllPlain elements → (∀ c ∈ ending, isXmlBlank c = true) →
      Laid elements (writtenAll depth elements ++ ending)
  | [], _, _, _, blank => .gap blank
  | .leaf name text :: others, depth, ending, plain, blank => by
    have more := laid_writtenAll others depth plain.2 blank
    have whole : Laid (.leaf name text :: others) _ := .leaf (lineBreak_blank depth) plain.1 more
    simpa only [writtenAll, Branch.written, List.append_assoc] using whole
  | .branch name attributes children :: others, depth, ending, plain, blank => by
    obtain ⟨⟨named, bare, inner⟩, following⟩ := plain
    subst bare
    have within := laid_writtenAll children (depth + 1) inner (lineBreak_blank depth)
    have more := laid_writtenAll others depth following blank
    have whole := Laid.branch (lineBreak_blank depth) named within more
    simpa only [writtenAll, Branch.written, List.append_assoc] using whole

end IssueFeed.Xml
