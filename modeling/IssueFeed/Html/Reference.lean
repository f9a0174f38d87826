import IssueFeed.Html.ReferenceTable

/-!
Character references: an ampersand and a name or a number that stand for characters. What looks like
a reference and is none stays as it is written.
-/
namespace IssueFeed.Html

open Text (isDigit isLetter isDigitOf number? character? dropStart?)

/-- The character that stands for what cannot be written. -/
def unknownCharacter : Char := Char.ofNat 0xFFFD

/-- What the numbers of the second control block stand for: the characters that an older code page
has there. -/
def codePageCharacters : List Nat :=
  [0x20AC, 0x81, 0x201A, 0x192, 0x201E, 0x2026, 0x2020, 0x2021, 0x2C6, 0x2030, 0x160, 0x2039,
    0x152, 0x8D, 0x17D, 0x8F, 0x90, 0x2018, 0x2019, 0x201C, 0x201D, 0x2022, 0x2013, 0x2014,
    0x2DC, 0x2122, 0x161, 0x203A, 0x153, 0x9D, 0x17E, 0x178]

def numbered (n : Nat) : Char :=
  if n = 0 then unknownCharacter
  else if 0x80 ≤ n ∧ n ≤ 0x9F then
    Char.ofNat (codePageCharacters.getD (n - 0x80) n)
  else (character? n).getD unknownCharacter

/-- A reference by a number in some base: what it stands for and the text after it. The semicolon
may be missing. -/
def numberIn? (base : Nat) (text : List Char) : Option (List Char × List Char) :=
  (number? base (text.takeWhile (isDigitOf base))).map fun n =>
    let after := text.dropWhile (isDigitOf base)
    ([numbered n], (dropStart? [';'] after).getD after)

def numberReference? (text : List Char) : Option (List Char × List Char) :=
  match text with
  | 'x' :: rest => numberIn? 16 rest
  | 'X' :: rest => numberIn? 16 rest
  | _ => numberIn? 10 text

/-- Whether a name without semicolon is taken for a part of an address: in an attribute that goes on
like a parameter. -/
def continuesAddress : List Char → Bool
  | c :: _ => c == '=' || isLetter c || isDigit c
  | [] => false

/-- The first of some names that a text begins with: the name, what it stands for, and the text
after it. -/
def firstName? (names : List (List Char × List Char)) (text : List Char) :
    Option (List Char × List Char × List Char) :=
  names.findSome? fun (name, characters) =>
    (dropStart? name text).map fun after => (name, characters, after)

def nameReference? (names : List (List Char × List Char)) (inAttribute : Bool) (text : List Char) :
    Option (List Char × List Char) :=
  match firstName? names text with
  | some (name, characters, after) =>
    if inAttribute && name.getLast? != some ';' && continuesAddress after then none
    else some (characters, after)
  | none => none

/-- What an ampersand and the text after it begin with. -/
def reference? (inAttribute : Bool) (text : List Char) : Option (List Char × List Char) :=
  match text with
  | '#' :: rest => numberReference? rest
  | _ => nameReference? references inAttribute text

theorem numberIn?_length {base : Nat} {text characters after : List Char}
    (h : numberIn? base text = some (characters, after)) : after.length ≤ text.length := by
  obtain ⟨n, _, same⟩ := Option.map_eq_some_iff.1 h
  simp only [Prod.mk.injEq] at same
  have shorter := (List.dropWhile_sublist (l := text) (isDigitOf base)).length_le
  rw [← same.2]
  cases found : dropStart? [';'] (text.dropWhile (isDigitOf base)) with
  | none => simpa using shorter
  | some rest =>
    have := Text.dropStart?_length found
    simp only [Option.getD_some]; omega

theorem numberReference?_length {text characters after : List Char}
    (h : numberReference? text = some (characters, after)) : after.length ≤ text.length := by
  unfold numberReference? at h
  split at h
  · have := numberIn?_length h
    simp only [List.length_cons]; omega
  · have := numberIn?_length h
    simp only [List.length_cons]; omega
  · exact numberIn?_length h

theorem firstName?_length {names : List (List Char × List Char)}
    {text name characters after : List Char}
    (h : firstName? names text = some (name, characters, after)) : after.length ≤ text.length := by
  obtain ⟨row, _, fits⟩ := List.exists_of_findSome?_eq_some h
  obtain ⟨_, dropped, parts⟩ := Option.map_eq_some_iff.1 fits
  simp only [Prod.mk.injEq] at parts
  exact parts.2.2 ▸ Text.dropStart?_length dropped

theorem nameReference?_length {names : List (List Char × List Char)} {inAttribute : Bool}
    {text characters after : List Char}
    (h : nameReference? names inAttribute text = some (characters, after)) :
    after.length ≤ text.length := by
  unfold nameReference? at h
  split at h
  · rename_i found
    split at h
    · contradiction
    · simp only [Option.some.injEq, Prod.mk.injEq] at h
      exact h.2 ▸ firstName?_length found
  · contradiction

theorem reference?_length {inAttribute : Bool} {text characters after : List Char}
    (h : reference? inAttribute text = some (characters, after)) : after.length ≤ text.length := by
  unfold reference? at h
  split at h
  · have := numberReference?_length h
    simp only [List.length_cons]; omega
  · exact nameReference?_length h

/-- A text with what its references stand for in their place. -/
def resolveReferences (inAttribute : Bool) : List Char → List Char
  | [] => []
  | c :: rest =>
    if c = '&' then
      match _read : reference? inAttribute rest with
      | some (characters, after) => characters ++ resolveReferences inAttribute after
      | none => '&' :: resolveReferences inAttribute rest
    else c :: resolveReferences inAttribute rest
termination_by text => text.length
decreasing_by
  · have := reference?_length _read
    simp only [List.length_cons]; omega
  · simp
  · simp

end IssueFeed.Html
