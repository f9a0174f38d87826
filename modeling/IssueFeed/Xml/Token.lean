import IssueFeed.Text.Blank
import IssueFeed.Text.Digit

/-!
Markup, cut into tokens: stretches of text, and what stands between angle brackets. Comments and
processing instructions are tokens too, for later stages to pass over. After a fault nothing
follows.
-/
namespace IssueFeed.Xml

open Text (isXmlBlank dropEndWhile dropStart? cut? lower)

inductive MarkupFault where
  | unclosedMarkup
  | unknownMarkup
  | namelessDocumentType
  deriving DecidableEq, Repr

inductive Token where
  | text (content : List Char)
  | verbatim (content : List Char)
  | documentType
  | ignored
  | opening (content : List Char) (selfClosing : Bool)
  | closing (name : List Char)
  | fault (what : MarkupFault)
  deriving DecidableEq, Repr

/-- The inside of a tag and what follows it, given what follows its opening bracket; a closing
bracket within quotes does not end the tag. -/
def tagInside (quote : Option Char) : List Char → Option (List Char × List Char)
  | [] => none
  | c :: rest =>
    match quote with
    | some q =>
      (tagInside (if c = q then none else some q) rest).map fun (inside, after) =>
        (c :: inside, after)
    | none =>
      if c = '>' then some ([], rest)
      else
        (tagInside (if c = '"' ∨ c = '\'' then some c else none) rest).map
          fun (inside, after) => (c :: inside, after)

/-- The inside of a document type and what follows it; angle brackets within come in pairs. -/
def balancedInside (depth : Nat) : List Char → Option (List Char × List Char)
  | [] => none
  | c :: rest =>
    if c = '>' ∧ depth = 0 then some ([], rest)
    else
      let deeper := if c = '<' then depth + 1 else if c = '>' then depth - 1 else depth
      (balancedInside deeper rest).map fun (inside, after) => (c :: inside, after)

/-- A comment, from its exclamation mark: the text after it. -/
def afterComment? (text : List Char) : Except MarkupFault (List Char) :=
  match dropStart? ['!', '-', '-'] text with
  | some inside =>
    match cut? ['-', '-', '>'] inside with
    | some (_, after) => .ok after
    | none => .error .unclosedMarkup
  | none => .error .unknownMarkup

/-- The token for markup that begins with an exclamation mark, and the text after it. -/
def declaration (text : List Char) : Except MarkupFault (Token × List Char) :=
  match text with
  | '!' :: '[' :: _ =>
    match dropStart? ['!', '[', 'C', 'D', 'A', 'T', 'A', '['] text with
    | some inside =>
      match cut? [']', ']', '>'] inside with
      | some (content, after) => .ok (.verbatim content, after)
      | none => .error .unclosedMarkup
    | none => .error .unknownMarkup
  | '!' :: '-' :: _ => (afterComment? text).map fun after => (.ignored, after)
  | '!' :: c :: _ =>
    if lower c = 'd' then
      match balancedInside 0 text with
      | some (inside, after) =>
        match dropStart? ['!', 'd', 'o', 'c', 't', 'y', 'p', 'e'] ((inside.take 8).map lower) with
        | some _ =>
          if (inside.drop 8).all isXmlBlank then .error .namelessDocumentType
          else .ok (.documentType, after)
        | none => .error .unknownMarkup
      | none => .error .unclosedMarkup
    else .error .unknownMarkup
  | _ => .error .unknownMarkup

def elementTag (inside : List Char) : Token :=
  match inside.reverse with
  | '/' :: reversed => .opening reversed.reverse true
  | _ => .opening inside false

/-- The token for what follows an opening bracket, and the text after it. -/
def markup (text : List Char) : Except MarkupFault (Token × List Char) :=
  match text with
  | [] => .error .unclosedMarkup
  | '!' :: _ => declaration text
  | '?' :: '>' :: _ => .error .unclosedMarkup
  | '?' :: inside =>
    match cut? ['?', '>'] inside with
    | some (_, after) => .ok (.ignored, after)
    | none => .error .unclosedMarkup
  | '/' :: inside =>
    match tagInside none inside with
    | some (name, after) => .ok (.closing (dropEndWhile isXmlBlank name), after)
    | none => .error .unclosedMarkup
  | _ =>
    match tagInside none text with
    | some (inside, after) => .ok (elementTag inside, after)
    | none => .error .unclosedMarkup

theorem tagInside_length {quote : Option Char} {text inside after : List Char}
    (h : tagInside quote text = some (inside, after)) : after.length < text.length := by
  induction text generalizing quote inside with
  | nil => simp [tagInside] at h
  | cons c rest ih =>
    simp only [tagInside] at h
    split at h
    · obtain ⟨⟨i, a⟩, found, same⟩ := Option.map_eq_some_iff.1 h
      simp only [Prod.mk.injEq] at same
      have := ih (same.2 ▸ found)
      simp only [List.length_cons]; omega
    · split at h
      · simp only [Option.some.injEq, Prod.mk.injEq] at h
        simp [← h.2]
      · obtain ⟨⟨i, a⟩, found, same⟩ := Option.map_eq_some_iff.1 h
        simp only [Prod.mk.injEq] at same
        have := ih (same.2 ▸ found)
        simp only [List.length_cons]; omega

theorem balancedInside_length {depth : Nat} {text inside after : List Char}
    (h : balancedInside depth text = some (inside, after)) : after.length < text.length := by
  induction text generalizing depth inside with
  | nil => simp [balancedInside] at h
  | cons c rest ih =>
    simp only [balancedInside] at h
    split at h
    · simp only [Option.some.injEq, Prod.mk.injEq] at h
      simp [← h.2]
    · obtain ⟨⟨i, a⟩, found, same⟩ := Option.map_eq_some_iff.1 h
      simp only [Prod.mk.injEq] at same
      have := ih (same.2 ▸ found)
      simp only [List.length_cons]; omega

theorem declaration_length {text after : List Char} {token : Token}
    (h : declaration text = .ok (token, after)) : after.length ≤ text.length := by
  unfold declaration at h
  split at h
  · split at h <;> try contradiction
    rename_i inside opened
    split at h <;> try contradiction
    rename_i content rest found
    simp only [Except.ok.injEq, Prod.mk.injEq] at h
    have a := Text.dropStart?_length opened
    have b := Text.cut?_length found
    rw [← h.2]; omega
  · unfold afterComment? at h
    split at h <;> try contradiction
    rename_i inside opened
    split at h <;> try contradiction
    rename_i content rest found
    simp only [Except.map, Except.ok.injEq, Prod.mk.injEq] at h
    have a := Text.dropStart?_length opened
    have b := Text.cut?_length found
    rw [← h.2]; omega
  · split at h <;> try contradiction
    split at h <;> try contradiction
    rename_i inside rest found
    split at h <;> try contradiction
    split at h <;> try contradiction
    simp only [Except.ok.injEq, Prod.mk.injEq] at h
    have := balancedInside_length found
    rw [← h.2]; omega
  · contradiction

theorem markup_length {text after : List Char} {token : Token}
    (h : markup text = .ok (token, after)) : after.length ≤ text.length := by
  unfold markup at h
  split at h
  · contradiction
  · exact declaration_length h
  · contradiction
  · split at h <;> try contradiction
    rename_i found
    simp only [Except.ok.injEq, Prod.mk.injEq] at h
    have := Text.cut?_length found
    rw [← h.2]; simp only [List.length_cons]; omega
  · split at h <;> try contradiction
    rename_i found
    simp only [Except.ok.injEq, Prod.mk.injEq] at h
    have := tagInside_length found
    rw [← h.2]; simp only [List.length_cons]; omega
  · split at h <;> try contradiction
    rename_i found
    simp only [Except.ok.injEq, Prod.mk.injEq] at h
    have := tagInside_length found
    rw [← h.2]; omega

def tokens : List Char → List Token
  | [] => []
  | c :: rest =>
    if c = '<' then
      match _read : markup rest with
      | .ok (token, after) => token :: tokens after
      | .error what => [.fault what]
    else
      .text (c :: rest.takeWhile (· != '<')) :: tokens (rest.dropWhile (· != '<'))
termination_by text => text.length
decreasing_by
  · have := markup_length _read
    simp only [List.length_cons]; omega
  · have := (List.dropWhile_sublist (l := rest) (· != '<')).length_le
    simp only [List.length_cons]; omega

end IssueFeed.Xml
