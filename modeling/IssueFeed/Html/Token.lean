import IssueFeed.Html.DocumentType
import IssueFeed.Html.Reference

/-!
A page, cut into tokens: tags, comments, and stretches of text that are blank or not. No text is
refused; what is not well formed is read as HTML says. How a stretch is cut depends on where it
stands: within some elements there are no tags but the closing one.
-/
namespace IssueFeed.Html

open Text (isAsciiBlank isLetter lower dropStart? cut?)

structure Tag where
  name : String
  attributes : List (String × String) := []
  selfClosing : Bool := false
  deriving DecidableEq, Repr

def Tag.attribute? (tag : Tag) (name : String) : Option String :=
  tag.attributes.lookup name

inductive Token where
  | documentType (old : Bool)
  | opening (tag : Tag)
  | closing (name : String)
  | comment
  | blank (characters : List Char)
  | text (characters : List Char)
  /-- The character NUL, which stands in no page. -/
  | nul
  | finish
  deriving DecidableEq, Repr

inductive Reading where
  | markup
  /-- Text with references, up to the closing tag of that name. -/
  | replaceable (name : List Char)
  /-- Text as it stands, up to the closing tag of that name. -/
  | raw (name : List Char)
  | script
  /-- Text to the end of the page. -/
  | plain
  deriving DecidableEq, Repr

def withLineFeeds : List Char → List Char
  | [] => []
  | '\r' :: '\n' :: rest => '\n' :: withLineFeeds rest
  | c :: rest => (if c = '\r' then '\n' else c) :: withLineFeeds rest

def withoutNul (c : Char) : Char :=
  if c = '\x00' then unknownCharacter else c

def tokenOfRun : List Char → Token
  | [] => .blank []
  | c :: rest =>
    if c = '\x00' then .nul
    else if isAsciiBlank c then .blank (c :: rest)
    else .text (c :: rest)

/-- Whether two characters may be in one token. -/
def sameRun (a b : Char) : Bool :=
  a != '\x00' && b != '\x00' && isAsciiBlank a == isAsciiBlank b

def textTokens (text : List Char) : List Token :=
  (text.splitBy sameRun).map tokenOfRun

def endsName (c : Char) : Bool :=
  isAsciiBlank c || c == '/' || c == '>'

/-- A name in a tag; its letters count as small ones. -/
def nameOf (text : List Char) : String :=
  String.ofList (text.map fun c => withoutNul (lower c))

def valueOf (text : List Char) : String :=
  String.ofList (resolveReferences true (text.map withoutNul))

/-- An attribute's value and the text after it, given the text after the equals sign. -/
def attributeValue? (text : List Char) : Option (List Char × List Char) :=
  match text.dropWhile isAsciiBlank with
  | [] => none
  | '"' :: inside => cut? ['"'] inside
  | '\'' :: inside => cut? ['\''] inside
  | start =>
    some (start.takeWhile fun c => !isAsciiBlank c && c != '>',
      start.dropWhile fun c => !isAsciiBlank c && c != '>')

/-- An attribute's name, its value and the text after it. -/
def attribute? (first : Char) (text : List Char) : Option ((String × String) × List Char) :=
  let continues (c : Char) := !endsName c && c != '='
  let name := nameOf (first :: text.takeWhile continues)
  let after := (text.dropWhile continues).dropWhile isAsciiBlank
  match after with
  | '=' :: rest => (attributeValue? rest).map fun (value, after) => ((name, valueOf value), after)
  | _ => some ((name, ""), after)

theorem attributeValue?_length {text value after : List Char}
    (h : attributeValue? text = some (value, after)) : after.length ≤ text.length := by
  have shorter := (List.dropWhile_sublist (l := text) isAsciiBlank).length_le
  unfold attributeValue? at h
  split at h
  · contradiction
  · rename_i inside begins
    have := Text.cut?_length h
    simp only [begins, List.length_cons] at shorter; omega
  · rename_i inside begins
    have := Text.cut?_length h
    simp only [begins, List.length_cons] at shorter; omega
  · simp only [Option.some.injEq, Prod.mk.injEq] at h
    rw [← h.2]
    exact Nat.le_trans (List.dropWhile_sublist _).length_le shorter

theorem attribute?_length {first : Char} {text after : List Char} {found : String × String}
    (h : attribute? first text = some (found, after)) : after.length ≤ text.length := by
  have shorter : ((text.dropWhile fun c => !endsName c && c != '=').dropWhile isAsciiBlank).length ≤
      text.length :=
    Nat.le_trans (List.dropWhile_sublist _).length_le (List.dropWhile_sublist _).length_le
  simp only [attribute?] at h
  split at h
  · rename_i rest begins
    obtain ⟨⟨value, remaining⟩, found, same⟩ := Option.map_eq_some_iff.1 h
    simp only [Prod.mk.injEq] at same
    have := attributeValue?_length found
    simp only [begins, List.length_cons] at shorter
    rw [← same.2]; omega
  · simp only [Option.some.injEq, Prod.mk.injEq] at h
    exact h.2 ▸ shorter

/-- The rest of a tag from behind its name: the attributes, whether it closes itself, and the text
after it. Of two attributes of one name the first counts. None if the page ends before the tag. -/
def tagRest? (found : List (String × String)) :
    List Char → Option (List (String × String) × Bool × List Char)
  | [] => none
  | c :: rest =>
    if c = '>' then some (found, false, rest)
    else if c = '/' ∧ rest.head? = some '>' then some (found, true, rest.tail)
    else if isAsciiBlank c ∨ c = '/' then tagRest? found rest
    else
      match _read : attribute? c rest with
      | none => none
      | some ((name, value), after) =>
        tagRest? (if found.any (·.1 = name) then found else found ++ [(name, value)]) after
termination_by text => text.length
decreasing_by
  · simp
  · have := attribute?_length _read
    simp only [List.length_cons]; omega

theorem tagRest?_length {found attributes : List (String × String)} {text after : List Char}
    {selfClosing : Bool} (h : tagRest? found text = some (attributes, selfClosing, after)) :
    after.length < text.length := by
  fun_induction tagRest? found text with
  | case1 => contradiction
  | case2 found rest =>
    simp only [Option.some.injEq, Prod.mk.injEq] at h
    simp [← h.2.2]
  | case3 found c rest _ _ =>
    simp only [Option.some.injEq, Prod.mk.injEq] at h
    have : rest.tail.length ≤ rest.length := by simp
    rw [← h.2.2]
    simp only [List.length_cons]; omega
  | case4 found c rest _ _ _ ih =>
    have := ih h
    simp only [List.length_cons]; omega
  | case5 => contradiction
  | case6 found c rest _ _ _ name value remaining read ih =>
    have := ih h
    have := attribute?_length read
    simp only [List.length_cons]; omega

/-- A tag and the text after it, given the text from its name on. -/
def tag? (text : List Char) : Option (Tag × List Char) :=
  (tagRest? [] (text.dropWhile fun c => !endsName c)).map fun (attributes, selfClosing, after) =>
    (⟨nameOf (text.takeWhile fun c => !endsName c), attributes, selfClosing⟩, after)

theorem tag?_length {text after : List Char} {tag : Tag} (h : tag? text = some (tag, after)) :
    after.length < text.length := by
  obtain ⟨⟨attributes, selfClosing, remaining⟩, found, same⟩ := Option.map_eq_some_iff.1 h
  simp only [Prod.mk.injEq] at same
  have := tagRest?_length found
  have := (List.dropWhile_sublist (l := text) fun c => !endsName c).length_le
  rw [← same.2]; omega

/-- The text after a comment, given the text after its beginning. -/
def afterComment : List Char → List Char
  | [] => []
  | c :: rest =>
    match (dropStart? ['-', '-', '>'] (c :: rest)).or
        (dropStart? ['-', '-', '!', '>'] (c :: rest)) with
    | some after => after
    | none => afterComment rest

theorem afterComment_length (text : List Char) : (afterComment text).length ≤ text.length := by
  fun_induction afterComment text with
  | case1 => simp
  | case2 c rest after found =>
    rcases Option.or_eq_some_iff.1 found with found | ⟨_, found⟩
    · exact Text.dropStart?_length found
    · exact Text.dropStart?_length found
  | case3 c rest _ ih => simp only [List.length_cons]; omega

def afterBracket (text : List Char) : List Char :=
  (text.dropWhile (· != '>')).tail

theorem afterBracket_length (text : List Char) : (afterBracket text).length ≤ text.length := by
  have := (List.dropWhile_sublist (l := text) (· != '>')).length_le
  simp only [afterBracket, List.length_tail]; omega

/-- The tokens for what begins with `<!`, and the text after it. -/
def declaration (foreign : Bool) (text : List Char) : List Token × List Char :=
  match dropStart? ['-', '-'] text with
  | some inside =>
    match inside with
    | '>' :: after => ([.comment], after)
    | '-' :: '>' :: after => ([.comment], after)
    | _ => ([.comment], afterComment inside)
  | none =>
    if (text.take 7).map lower = ['d', 'o', 'c', 't', 'y', 'p', 'e'] then
      ([.documentType (DocumentType.isOld ((text.drop 7).takeWhile (· != '>')))], afterBracket text)
    else
      match if foreign then dropStart? ['[', 'C', 'D', 'A', 'T', 'A', '['] text else none with
      | some inside =>
        match cut? [']', ']', '>'] inside with
        | some (content, after) => (textTokens content, after)
        | none => (textTokens inside, [])
      | none => ([.comment], afterBracket text)

/-- The tokens for what begins with `<`, and the text after it. A tag that the page does not finish
is no token. -/
def markup (foreign : Bool) (text : List Char) : List Token × List Char :=
  match text with
  | '!' :: rest => declaration foreign rest
  | '?' :: rest => ([.comment], afterBracket rest)
  | '/' :: c :: rest =>
    if isLetter c then
      match tag? (c :: rest) with
      | some (tag, after) => ([.closing tag.name], after)
      | none => ([], [])
    else if c = '>' then ([], rest)
    else ([.comment], afterBracket (c :: rest))
  | '/' :: rest => ([.text ['<', '/']], rest)
  | c :: rest =>
    if isLetter c then
      match tag? (c :: rest) with
      | some (tag, after) => ([.opening tag], after)
      | none => ([], [])
    else ([.text ['<']], c :: rest)
  | [] => ([.text ['<']], [])

theorem declaration_length (foreign : Bool) (text : List Char) :
    (declaration foreign text).2.length ≤ text.length := by
  unfold declaration
  split
  · rename_i inside opened
    have := Text.dropStart?_length opened
    split
    · simp only [List.length_cons] at this ⊢; omega
    · simp only [List.length_cons] at this ⊢; omega
    · have := afterComment_length inside
      simp only; omega
  · split
    · exact afterBracket_length text
    · split
      · rename_i inside opened
        have shorter : inside.length ≤ text.length := by
          split at opened
          · exact Text.dropStart?_length opened
          · contradiction
        split
        · rename_i content after found
          have := Text.cut?_length found
          simp only; omega
        · simp
      · exact afterBracket_length text

theorem markup_length (foreign : Bool) (text : List Char) :
    (markup foreign text).2.length ≤ text.length := by
  unfold markup
  split
  · rename_i rest
    have := declaration_length foreign rest
    simp only [List.length_cons]; omega
  · rename_i rest
    have := afterBracket_length rest
    simp only [List.length_cons]; omega
  · rename_i c rest
    split
    · split
      · rename_i tag after found
        have := tag?_length found
        simp only [List.length_cons] at this ⊢; omega
      · simp
    · split
      · simp only [List.length_cons]; omega
      · have := afterBracket_length (c :: rest)
        simp only [List.length_cons] at this ⊢; omega
  · simp
  · rename_i c rest _ _ _ _
    split
    · split
      · rename_i tag after found
        have := tag?_length found
        simp only; omega
      · simp
    · simp
  · simp

end IssueFeed.Html
