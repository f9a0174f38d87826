/-!
Blank characters and trimming. Three sets of blanks matter to a feed: the blanks of Unicode, which
are trimmed from links and removed from link keys; the four of XML, which a reader may drop around
text; and the five of ASCII, which make a document empty.
-/
namespace IssueFeed.Text

/-- The characters with the Unicode property White_Space. -/
def isBlank (c : Char) : Bool :=
  let n := c.toNat
  (9 ≤ n && n ≤ 13) || n == 32 || n == 0x85 || n == 0xA0 || n == 0x1680 ||
    (0x2000 ≤ n && n ≤ 0x200A) || n == 0x2028 || n == 0x2029 || n == 0x202F || n == 0x205F ||
    n == 0x3000

/-- Space, tab, line feed and carriage return. -/
def isXmlBlank (c : Char) : Bool :=
  c == ' ' || c == '\t' || c == '\n' || c == '\r'

/-- The blanks of XML and the form feed. -/
def isAsciiBlank (c : Char) : Bool :=
  isXmlBlank c || c == '\x0c'

/-- The list without its longest ending in the class `p`. -/
def dropEndWhile (p : Char → Bool) (cs : List Char) : List Char :=
  (cs.reverse.dropWhile p).reverse

/-- The list without the characters of the class `p` at its two ends. -/
def trimBoth (p : Char → Bool) (cs : List Char) : List Char :=
  dropEndWhile p (cs.dropWhile p)

def trim (s : String) : String :=
  String.ofList (trimBoth isBlank s.toList)

/-- The pieces of a list between the separators, the separators left out. -/
def splitOn (isSeparator : Char → Bool) : List Char → List (List Char)
  | [] => [[]]
  | c :: rest =>
    if isSeparator c then [] :: splitOn isSeparator rest
    else
      match splitOn isSeparator rest with
      | [] => [[c]]
      | piece :: pieces => (c :: piece) :: pieces

/-- What follows `start` in a list that begins with it. -/
def dropStart? : (start cs : List Char) → Option (List Char)
  | [], cs => some cs
  | _ :: _, [] => none
  | a :: start, c :: cs => if a = c then dropStart? start cs else none

def hasInfix (piece : List Char) : List Char → Bool
  | [] => piece.isEmpty
  | c :: rest => (dropStart? piece (c :: rest)).isSome || hasInfix piece rest

/-- The text before the first occurrence of `mark`, and the text after it. -/
def cut? (mark : List Char) : List Char → Option (List Char × List Char)
  | [] => if mark.isEmpty then some ([], []) else none
  | c :: rest =>
    match dropStart? mark (c :: rest) with
    | some after => some ([], after)
    | none => (cut? mark rest).map fun (before, after) => (c :: before, after)

theorem dropStart?_length {start cs after : List Char} (h : dropStart? start cs = some after) :
    after.length ≤ cs.length := by
  induction start generalizing cs with
  | nil => simp_all [dropStart?]
  | cons a start ih =>
    cases cs with
    | nil => simp [dropStart?] at h
    | cons c cs =>
      simp only [dropStart?] at h
      split at h
      · have := ih h
        simp only [List.length_cons]; omega
      · contradiction

theorem cut?_length {mark cs before after : List Char} (h : cut? mark cs = some (before, after)) :
    after.length ≤ cs.length := by
  induction cs generalizing before with
  | nil =>
    simp only [cut?] at h
    split at h <;> simp_all
  | cons c rest ih =>
    simp only [cut?] at h
    split at h
    · rename_i found
      simp only [Option.some.injEq, Prod.mk.injEq] at h
      have := dropStart?_length found
      rw [← h.2]; omega
    · obtain ⟨⟨b, a⟩, found, same⟩ := Option.map_eq_some_iff.1 h
      simp only [Prod.mk.injEq] at same
      have := ih (same.2 ▸ found)
      simp only [List.length_cons]; omega

end IssueFeed.Text
