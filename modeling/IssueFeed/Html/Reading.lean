import IssueFeed.Html.Token

/-!
Reading on from a position in a page, in each of the ways in which text is cut. Every step but the
last leaves less text, so a page is read in finitely many steps.
-/
namespace IssueFeed.Html

open Text (isAsciiBlank lower dropStart?)

/-- Whether a text begins with a word, in small or capital letters, that ends there. -/
def beginsWithWord (word text : List Char) : Bool :=
  (text.take word.length).map lower == word && ((text.drop word.length).head?.any endsName)

def closesHere (name : List Char) : List Char → Bool
  | '<' :: '/' :: rest => beginsWithWord name rest
  | _ => false

/-- The text before the closing tag of a name, and the text from it on. -/
def rawText (name : List Char) : List Char → List Char × List Char
  | [] => ([], [])
  | c :: rest =>
    if closesHere name (c :: rest) then ([], c :: rest)
    else
      let (content, after) := rawText name rest
      (c :: content, after)

/-- Where in a script a character stands: outside of comments, in a comment, or in a script within a
comment. In a comment the hyphens just before are counted, for two and a bracket end it. -/
inductive ScriptPart where
  | outside
  | comment (hyphens : Nat)
  | nested (hyphens : Nat)
  deriving DecidableEq, Repr

def scriptName : List Char := ['s', 'c', 'r', 'i', 'p', 't']

def ScriptPart.after (part : ScriptPart) (c : Char) (rest : List Char) : ScriptPart :=
  match part with
  | .outside =>
    if (dropStart? ['<', '!', '-', '-'] (c :: rest)).isSome then .comment 0 else .outside
  | .comment n =>
    if c = '-' then .comment (n + 1)
    else if c = '>' ∧ 2 ≤ n then .outside
    else if c = '<' ∧ beginsWithWord scriptName rest then .nested 0
    else .comment 0
  | .nested n =>
    if c = '-' then .nested (n + 1)
    else if c = '>' ∧ 2 ≤ n then .outside
    else if closesHere scriptName (c :: rest) then .comment 0
    else .nested 0

def ScriptPart.isNested : ScriptPart → Bool
  | .nested _ => true
  | _ => false

/-- The text of a script, and the text from its closing tag on. -/
def scriptText (part : ScriptPart) : List Char → List Char × List Char
  | [] => ([], [])
  | c :: rest =>
    if !part.isNested && closesHere scriptName (c :: rest) then ([], c :: rest)
    else
      let (content, after) := scriptText (part.after c rest) rest
      (c :: content, after)

/-- The tokens for a stretch of content that a closing tag ends, and the text after them. -/
def contentTokens (content text after : List Char) : List Token × List Char :=
  if content.isEmpty then
    match tag? (text.drop 2) with
    | some (tag, after) => ([.closing tag.name], after)
    | none => ([], [])
  else ([.text content], after)

def nextTokens (reading : Reading) (foreign : Bool) (text : List Char) : List Token × List Char :=
  match reading with
  | .markup =>
    match text with
    | '<' :: rest => markup foreign rest
    | _ =>
      (textTokens (resolveReferences false (text.takeWhile (· != '<'))),
        text.dropWhile (· != '<'))
  | .replaceable name =>
    let (content, after) := rawText name text
    contentTokens (resolveReferences false (content.map withoutNul)) text after
  | .raw name =>
    let (content, after) := rawText name text
    contentTokens (content.map withoutNul) text after
  | .script =>
    let (content, after) := scriptText .outside text
    contentTokens (content.map withoutNul) text after
  | .plain => ([.text (text.map withoutNul)], [])

theorem rawText_length (name text : List Char) :
    (rawText name text).1.length + (rawText name text).2.length = text.length := by
  induction text with
  | nil => rfl
  | cons c rest ih =>
    simp only [rawText]
    split
    · simp
    · simp only [List.length_cons]; omega

theorem scriptText_length (part : ScriptPart) (text : List Char) :
    (scriptText part text).1.length + (scriptText part text).2.length = text.length := by
  induction text generalizing part with
  | nil => rfl
  | cons c rest ih =>
    simp only [scriptText]
    split
    · simp
    · have := ih (part.after c rest)
      simp only [List.length_cons]; omega

theorem contentTokens_length {content text after : List Char} (some_text : text ≠ [])
    (shorter : content ≠ [] → after.length < text.length) :
    (contentTokens content text after).2.length < text.length := by
  have := List.length_pos_iff.2 some_text
  unfold contentTokens
  split
  · split
    · rename_i found
      have := tag?_length found
      simp only [List.length_drop] at this ⊢; omega
    · simpa using this
  · rename_i filled
    exact shorter (by simpa using filled)

theorem resolveReferences_nil (inAttribute : Bool) : resolveReferences inAttribute [] = [] := by
  rw [resolveReferences]

theorem nextTokens_length (reading : Reading) (foreign : Bool) {text : List Char}
    (some_text : text ≠ []) : (nextTokens reading foreign text).2.length < text.length := by
  have shorter {content after : List Char} (total : content.length + after.length = text.length)
      (filled : content ≠ []) : after.length < text.length := by
    have := List.length_pos_iff.2 filled
    omega
  unfold nextTokens
  split
  · split
    · rename_i rest
      have := markup_length foreign rest
      simp only [List.length_cons]; omega
    · rename_i other
      cases text with
      | nil => contradiction
      | cons c rest =>
        have different : (c != '<') = true := by
          simp only [bne_iff_ne, ne_eq]
          intro same
          exact other rest (by rw [same])
        have := (List.dropWhile_sublist (l := rest) (· != '<')).length_le
        simp only [List.dropWhile_cons, different, if_true, List.length_cons]; omega
  · rename_i name
    refine contentTokens_length some_text fun filled => shorter (rawText_length name text) ?_
    intro empty
    simp [empty, resolveReferences_nil] at filled
  · rename_i name
    exact contentTokens_length some_text fun filled =>
      shorter (rawText_length name text) (by simpa using filled)
  · exact contentTokens_length some_text fun filled =>
      shorter (scriptText_length .outside text) (by simpa using filled)
  · simpa using List.length_pos_iff.2 some_text

end IssueFeed.Html
