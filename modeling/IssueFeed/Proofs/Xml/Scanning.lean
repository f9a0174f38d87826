import IssueFeed.Proofs.Xml.Settled

/-! The tokens of written markup.
Each lemma takes one thing that is written from the front of a text and leaves what follows it
arbitrary. -/
namespace IssueFeed.Xml

open Text (isXmlBlank hasInfix)

variable {name content text rest after : List Char} {token : Token}

/-- Characters that neither end a name nor begin anything but a name. -/
def isNameCharacter (c : Char) : Bool :=
  !isXmlBlank c && !(['<', '>', '/', '=', '"', '\'', '!', '?', ':'].contains c)

/-- A name without prefix that can be written as it is. -/
def PlainName (name : List Char) : Prop :=
  name ≠ [] ∧ ∀ c ∈ name, isNameCharacter c = true

instance (name : List Char) : Decidable (PlainName name) :=
  decidable_of_decidable_of_iff (p := (!name.isEmpty && name.all isNameCharacter) = true)
    (by simp [PlainName])

theorem PlainName.excludes (plain : PlainName name) {c : Char} (h : isNameCharacter c = false) :
    c ∉ name := by
  intro member
  rw [plain.2 c member] at h
  cases h

theorem PlainName.no_blank (plain : PlainName name) : ∀ c ∈ name, isXmlBlank c = false := by
  intro c hc
  have h := plain.2 c hc
  simp only [isNameCharacter, Bool.and_eq_true, Bool.not_eq_true'] at h
  exact h.1

theorem tagInside_append {quote : Option Char} {inside : List Char}
    (found : tagInside quote text = some (inside, after)) (rest : List Char) :
    tagInside quote (text ++ rest) = some (inside, after ++ rest) := by
  induction text generalizing quote inside with
  | nil => cases found
  | cons c text ih =>
    cases quote with
    | some q =>
      simp only [tagInside, Option.map_eq_some_iff] at found
      obtain ⟨⟨i, a⟩, read, same⟩ := found
      cases same
      simp [tagInside, ih read]
    | none =>
      by_cases closing : c = '>'
      · simp only [tagInside, if_pos closing] at found
        cases found
        simp [tagInside, closing]
      · simp only [tagInside, if_neg closing, Option.map_eq_some_iff] at found
        obtain ⟨⟨i, a⟩, read, same⟩ := found
        cases same
        simp [tagInside, closing, ih read]

theorem tagInside_name (ending : '>' ∉ name) (double : '"' ∉ name) (single : '\'' ∉ name) :
    tagInside none (name ++ ['>']) = some (name, []) := by
  induction name with
  | nil => rfl
  | cons c name ih =>
    simp only [List.mem_cons, not_or] at ending double single
    have quoteless : ¬ (c = '"' ∨ c = '\'') := by
      rintro (h | h)
      · exact double.1 h.symm
      · exact single.1 h.symm
    simp [tagInside, Ne.symm ending.1, quoteless, ih ending.2 double.2 single.2]

theorem PlainName.tagInside_eq (plain : PlainName name) :
    tagInside none (name ++ ['>']) = some (name, []) :=
  tagInside_name (plain.excludes rfl) (plain.excludes rfl) (plain.excludes rfl)

/-- What can stand in an opening tag: it begins like an element's, ends where the tag ends, and does
not close the element at once. -/
structure OpensElement (content : List Char) : Prop where
  begins : ∀ c ∈ content.head?, c ∉ ['!', '?', '/']
  ends : tagInside none (content ++ ['>']) = some (content, [])
  stays : ∀ c ∈ content.getLast?, c ≠ '/'

theorem PlainName.opensElement (plain : PlainName name) : OpensElement name where
  begins := by
    intro c first marked
    have excluded : isNameCharacter c = false := by
      simp only [List.mem_cons, List.not_mem_nil, or_false] at marked
      rcases marked with h | h | h <;> subst h <;> rfl
    exact plain.excludes excluded (List.mem_of_mem_head? first)
  ends := plain.tagInside_eq
  stays := by
    intro c last slash
    exact plain.excludes (c := c) (by subst slash; rfl) (List.mem_of_mem_getLast? last)

theorem elementTag_eq (stays : ∀ c ∈ content.getLast?, c ≠ '/') :
    elementTag content = .opening content false := by
  unfold elementTag
  split
  · rename_i reversed h
    rw [← List.head?_reverse, h] at stays
    exact absurd rfl (stays '/' rfl)
  · rfl

theorem OpensElement.markup_eq (opens : OpensElement content) (rest : List Char) :
    markup (content ++ '>' :: rest) = .ok (.opening content false, rest) := by
  have inside : tagInside none (content ++ '>' :: rest) = some (content, rest) := by
    simpa using tagInside_append opens.ends rest
  have begins := opens.begins
  cases content with
  | nil =>
    rw [List.nil_append] at inside ⊢
    simp [markup, inside, elementTag]
  | cons c content =>
    have first := begins c rfl
    simp only [List.mem_cons, List.not_mem_nil, or_false, not_or] at first
    unfold markup
    split
    case h_6 => simp only [inside, elementTag_eq opens.stays]
    all_goals simp_all

theorem PlainName.markup_closing (plain : PlainName name) (rest : List Char) :
    markup ('/' :: name ++ '>' :: rest) = .ok (.closing name, rest) := by
  have inside : tagInside none (name ++ '>' :: rest) = some (name, rest) := by
    simpa using tagInside_append plain.tagInside_eq rest
  have last : ∀ c ∈ name.getLast?, isXmlBlank c = false := fun c hc =>
    plain.no_blank c (List.mem_of_mem_getLast? hc)
  simp [markup, inside, Text.dropEndWhile_eq_self_of_last last]

theorem markup_verbatim (absent : hasInfix [']', ']', '>'] text = false) (rest : List Char) :
    markup ("![CDATA[".toList ++ text ++ "]]>".toList ++ rest) = .ok (.verbatim text, rest) := by
  have opened : Text.dropStart? ['!', '[', 'C', 'D', 'A', 'T', 'A', '[']
      ("![CDATA[".toList ++ text ++ "]]>".toList ++ rest) =
      some (text ++ [']', ']', '>'] ++ rest) := by
    rw [Text.dropStart?_eq_some_iff]
    simp
  have begun : "![CDATA[".toList ++ text ++ "]]>".toList ++ rest =
      '!' :: '[' :: ("CDATA[".toList ++ text ++ "]]>".toList ++ rest) := rfl
  rw [begun] at opened ⊢
  simp only [markup, declaration, opened, Text.cut?_append_end absent]

theorem tokens_markup (read : markup rest = .ok (token, after)) :
    tokens ('<' :: rest) = token :: tokens after := by
  rw [tokens, if_pos rfl]
  split
  · rename_i found
    rw [read] at found
    cases found
    rfl
  · rename_i found
    rw [read] at found
    cases found

/-- Where a stretch of text ends: at markup, or with the document. -/
def EndsText (rest : List Char) : Prop :=
  ∀ c ∈ rest.head?, c = '<'

theorem tokens_text (nonempty : text ≠ []) (plain : ∀ c ∈ text, c ≠ '<') (ended : EndsText rest) :
    tokens (text ++ rest) = .text text :: tokens rest := by
  cases text with
  | nil => exact absurd rfl nonempty
  | cons c text =>
    have inside : ∀ d ∈ text, (d != '<') = true := fun d hd =>
      bne_iff_ne.mpr (plain d (List.mem_cons_of_mem _ hd))
    have outside : ∀ d ∈ rest.head?, (d != '<') = false := fun d hd => by
      rw [ended d hd]; rfl
    have taken : rest.takeWhile (· != '<') = [] := by
      cases rest with
      | nil => rfl
      | cons d rest => simp [outside d rfl]
    rw [List.cons_append, tokens, if_neg (plain c List.mem_cons_self),
      List.takeWhile_append_of_pos inside, List.dropWhile_append_of_pos inside, taken,
      Text.dropWhile_eq_self_of_head outside, List.append_nil]

theorem OpensElement.tokens_eq (opens : OpensElement (name ++ content)) (rest : List Char) :
    tokens (openingTag name content ++ rest) = .opening (name ++ content) false :: tokens rest := by
  rw [← tokens_markup (opens.markup_eq rest)]
  simp [openingTag]

theorem PlainName.tokens_closing (plain : PlainName name) (rest : List Char) :
    tokens (closingTag name ++ rest) = .closing name :: tokens rest := by
  rw [← tokens_markup (plain.markup_closing rest)]
  simp [closingTag]

theorem tokens_writtenText_verbatim (h : WrittenVerbatim text) (rest : List Char) :
    tokens (writtenText text ++ rest) = .verbatim text :: tokens rest := by
  rw [← tokens_markup (markup_verbatim h.2 rest), writtenText_verbatim h]
  rfl

theorem tokens_writtenText_escaped (h : ¬ WrittenVerbatim text) (nonempty : text ≠ [])
    (ended : EndsText rest) :
    tokens (writtenText text ++ rest) = .text (escape text) :: tokens rest := by
  rw [writtenText_escaped h]
  exact tokens_text (escape_eq_nil_iff.not.mpr nonempty) (escape_opens_nothing text) ended

end IssueFeed.Xml
