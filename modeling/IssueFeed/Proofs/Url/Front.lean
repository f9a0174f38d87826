import IssueFeed.Proofs.Text.Trimming
import IssueFeed.Url.Basic

/-! The front of an address of the web.
Whether a text is such an address is settled by what stands before the path: the protocol and the
authority. What follows them may be anything. -/
namespace IssueFeed

open Text (trimBoth dropEndWhile isLetter isDigit lower)

namespace Url

variable {input scheme authority rest : List Char} {url : Url}

/-! ## Protocols -/

theorem scheme?_eq_some (found : scheme? input = some (scheme, rest)) :
    ∃ name, input = name ++ ':' :: rest ∧ scheme = name.map lower := by
  unfold scheme? at found
  cases input with
  | nil => cases found
  | cons first more =>
    dsimp only at found
    split at found
    · rename_i rest ends
      split_ifs at found
      cases found
      refine ⟨_, ?_, rfl⟩
      rw [← ends, List.takeWhile_append_dropWhile]
    · cases found

theorem scheme?_of_letters {name : List Char} (nonempty : name ≠ [])
    (letters : ∀ c ∈ name, isLetter c = true) (rest : List Char) :
    scheme? (name ++ ':' :: rest) = some (name.map lower, rest) := by
  cases name with
  | nil => exact absurd rfl nonempty
  | cons first more =>
    have parts : ∀ c ∈ first :: more,
        (isLetter c || isDigit c || c == '+' || c == '-' || c == '.') = true := by
      intro c member
      simp only [letters c member, Bool.true_or]
    simp only [scheme?, List.cons_append]
    rw [← List.cons_append, List.dropWhile_append_of_pos parts, List.takeWhile_append_of_pos parts]
    have colon : (isLetter ':' || isDigit ':' || ':' == '+' || ':' == '-' || ':' == '.') =
        false := by decide
    simp only [List.dropWhile_cons, List.takeWhile_cons, colon, Bool.false_eq_true, if_false,
      List.append_nil, letters first List.mem_cons_self, if_true]

theorem withPath_scheme (url : Url) (text : List Char) : (url.withPath text).scheme = url.scheme :=
  rfl

theorem readAuthority_parts (read : readAuthority scheme authority = .ok url) :
    url.scheme = scheme ∧ url.host.isSome = true := by
  simp only [readAuthority] at read
  split_ifs at read
  all_goals
    split at read
    · cases read
    · split at read
      · cases read
      · cases read
        exact ⟨rfl, rfl⟩

theorem readAfterSlashes_scheme (read : readAfterSlashes scheme input = .ok url) :
    url.scheme = scheme := by
  unfold readAfterSlashes at read
  dsimp only at read
  split at read
  · rename_i found
    cases read
    exact (withPath_scheme _ _).trans ((readAuthority_parts found).1)
  · cases read

theorem readFile_scheme (read : readFile input = .ok url) : url.scheme = "file".toList := by
  unfold readFile at read
  dsimp only at read
  split at read
  · split_ifs at read
    · cases read
      rfl
    · cases read
      rfl
    · split at read
      · cases read
      · cases read
        split_ifs
        · rfl
        · split
          · split_ifs <;> rfl
          · rfl
    · cases read
      rfl
  · cases read
    rfl

theorem readGeneral_scheme (read : readGeneral scheme input = .ok url) : url.scheme = scheme := by
  unfold readGeneral at read
  split at read
  · exact readAfterSlashes_scheme read
  · cases read
    rfl
  · cases read
    rfl

/-- What is read of a text. -/
def cleaned (input : List Char) : List Char :=
  (trimBoth isOuterBlank input).filter (!isLineBlank ·)

theorem readChars_scheme (read : readChars input = .ok url) :
    ∃ rest, scheme? (cleaned input) = some (url.scheme, rest) := by
  unfold readChars at read
  rw [← cleaned] at read
  split at read
  · cases read
  · rename_i scheme rest found
    refine ⟨rest, found.trans ?_⟩
    split_ifs at read with file hosted
    · rw [readFile_scheme read, eq_of_beq file]
    · rw [readAfterSlashes_scheme read]
    · rw [readGeneral_scheme read]

/-! ## Addresses of the web -/

theorem hosted_of_web (web : scheme = "http".toList ∨ scheme = "https".toList) :
    isHosted scheme = true ∧ isFile scheme = false := by
  rcases web with rfl | rfl <;> decide

theorem readAuthority_nil (hosted : isHosted scheme = true) :
    readAuthority scheme [] = .error .emptyHost := by
  simp [readAuthority, splitUser, splitPort, hosted]

/-- The parts of an address of the web; the path and all behind it are the tail. -/
structure Front where
  name : List Char
  slashes : List Char
  authority : List Char
  tail : List Char
  web : name.map lower = "http".toList ∨ name.map lower = "https".toList
  slashed : ∀ c ∈ slashes, isSlash true c = true
  nonempty : authority ≠ []
  within : ∀ c ∈ authority, endsAuthority true c = false
  closed : ∀ c ∈ tail.head?, endsAuthority true c = true

namespace Front

def protocol (front : Front) : List Char := front.name.map lower

def text (front : Front) : List Char :=
  front.name ++ ':' :: (front.slashes ++ (front.authority ++ front.tail))

theorem isLetter_of_lower {c : Char} (small : isLetter (lower c) = true) : isLetter c = true := by
  unfold lower at small
  split_ifs at small with capital
  · simp only [isLetter, capital, Bool.or_true]
  · exact small

theorem name_letters (front : Front) : ∀ c ∈ front.name, isLetter c = true := by
  have letters : (front.name.map lower).all isLetter = true := by
    rcases front.web with web | web <;> rw [web] <;> decide
  intro c member
  rw [List.all_map, List.all_eq_true] at letters
  exact isLetter_of_lower (letters c member)

theorem hosted (front : Front) :
    isHosted front.protocol = true ∧ isFile front.protocol = false :=
  hosted_of_web front.web

theorem scheme_text (front : Front) : scheme? front.text =
    some (front.protocol, front.slashes ++ (front.authority ++ front.tail)) := by
  have named : front.name ≠ [] := by
    rintro empty
    rcases front.web with web | web <;> rw [empty] at web <;> cases web
  exact scheme?_of_letters named front.name_letters _

theorem slashes_end (front : Front) :
    ∀ c ∈ (front.authority ++ front.tail).head?, isSlash true c = false := by
  intro c first
  rw [List.head?_append_of_ne_nil _ front.nonempty] at first
  have inner := front.within c (List.mem_of_mem_head? first)
  simp only [endsAuthority, Bool.or_eq_false_iff] at inner
  exact inner.1.1

theorem takeWhile_authority (front : Front) :
    (front.authority ++ front.tail).takeWhile (!endsAuthority true ·) = front.authority := by
  have inner : ∀ c ∈ front.authority, (!endsAuthority true c) = true := by
    intro c member
    rw [front.within c member, Bool.not_false]
  rw [List.takeWhile_append_of_pos inner]
  cases tail : front.tail with
  | nil => simp
  | cons c rest => simp [front.closed c (by rw [tail]; rfl)]

theorem readChars_eq (front : Front) (clean : cleaned input = front.text) :
    ∃ tail, readChars input = match readAuthority front.protocol front.authority with
      | .ok url => .ok (url.withPath tail)
      | .error fault => .error fault := by
  obtain ⟨hosted, notFile⟩ := front.hosted
  have special : isSpecial front.protocol = true := by rw [isSpecial, hosted, Bool.or_true]
  rw [readChars, ← cleaned, clean, front.scheme_text]
  simp only [notFile, hosted, Bool.false_eq_true, if_false, if_true]
  rw [List.dropWhile_append_of_pos front.slashed,
    Text.dropWhile_eq_self_of_head front.slashes_end]
  simp only [readAfterSlashes, special, front.takeWhile_authority]
  exact ⟨_, rfl⟩

/-- The text is an address of the web exactly if its authority can be read. -/
theorem readChars_isWeb_iff (front : Front) (clean : cleaned input = front.text) :
    (∃ url, readChars input = .ok url ∧ url.isWeb = true) ↔
      ∃ url, readAuthority front.protocol front.authority = .ok url := by
  obtain ⟨tail, read⟩ := front.readChars_eq clean
  rw [read]
  cases found : readAuthority front.protocol front.authority with
  | error fault => simp
  | ok url =>
    simp only [Except.ok.injEq, exists_eq_left', exists_eq', iff_true]
    rw [isWeb, withPath_scheme, (readAuthority_parts found).1]
    rcases front.web with web | web <;> simp [protocol, web]

end Front

theorem exists_front (read : readChars input = .ok url) (web : url.isWeb = true) :
    ∃ front : Front, cleaned input = front.text := by
  obtain ⟨rest, found⟩ := readChars_scheme read
  obtain ⟨name, written, named⟩ := scheme?_eq_some found
  simp only [isWeb, Bool.or_eq_true, beq_iff_eq] at web
  obtain ⟨hosted, notFile⟩ := hosted_of_web web
  refine ⟨⟨name, rest.takeWhile (isSlash true),
    (rest.dropWhile (isSlash true)).takeWhile (!endsAuthority true ·),
    (rest.dropWhile (isSlash true)).dropWhile (!endsAuthority true ·),
    named ▸ web, ?_, ?_, ?_, ?_⟩, ?_⟩
  · exact fun c member => List.mem_takeWhile_imp member
  · intro empty
    have special : isSpecial url.scheme = true := by rw [isSpecial, hosted, Bool.or_true]
    rw [readChars, ← cleaned, found] at read
    simp only [notFile, hosted, Bool.false_eq_true, if_false, if_true, readAfterSlashes, special,
      empty, readAuthority_nil hosted] at read
    cases read
  · intro c member
    have inner := List.mem_takeWhile_imp member
    rwa [Bool.not_eq_true'] at inner
  · intro c first
    have outer := Text.head_dropWhile _ _ c first
    rwa [Bool.not_eq_false'] at outer
  · rw [Front.text, List.takeWhile_append_dropWhile, List.takeWhile_append_dropWhile]
    exact written

/-- The blanks at the end of a text that are read where something follows them. -/
def blanksBehind (input : List Char) : List Char :=
  (input.rtakeWhile isOuterBlank).filter (!isLineBlank ·)

theorem isOuterBlank_blanksBehind {c : Char} (behind : c ∈ blanksBehind input) :
    isOuterBlank c = true ∧ isLineBlank c = false := by
  obtain ⟨member, kept⟩ := List.mem_filter.mp behind
  exact ⟨List.mem_rtakeWhile_imp member, by rwa [Bool.not_eq_true'] at kept⟩

/-- Where a text ends in slashes, what ends otherwise lies before them. -/
theorem append_slashes {front back kept : List Char} {slashes : List Char}
    (ends : ∀ c ∈ front.getLast?, c ≠ '/')
    (slashed : ∀ c ∈ slashes, c = '/') (same : kept ++ slashes = front ++ back) :
    ∃ more, kept = front ++ more ∧ back = more ++ slashes := by
  rcases List.append_eq_append_iff.mp same with ⟨more, whole, rest⟩ | ⟨more, whole, rest⟩
  · cases last : more.getLast? with
    | none =>
      rw [List.getLast?_eq_none_iff] at last
      subst last
      exact ⟨[], by simpa using whole.symm, by simpa using rest.symm⟩
    | some c =>
      have among : c ∈ slashes := by
        rw [rest]
        exact List.mem_append_left _ (List.mem_of_getLast? last)
      have final : front.getLast? = some c := by rw [whole, List.getLast?_append, last]; rfl
      exact absurd (slashed c among) (ends c final)
  · exact ⟨more, whole, rest⟩

theorem blanksBehind_append {blanks : List Char}
    (closed : ∀ c ∈ input.getLast?, isOuterBlank c = false)
    (blank : ∀ c ∈ blanks, isOuterBlank c = true) :
    blanksBehind (input ++ blanks) = blanks.filter (!isLineBlank ·) := by
  have first : ∀ c ∈ input.reverse.head?, isOuterBlank c = false := by
    rwa [List.head?_reverse]
  have behind : (input ++ blanks).rtakeWhile isOuterBlank = blanks := by
    rw [List.rtakeWhile, List.reverse_append, List.takeWhile_append_of_pos (by simpa using blank)]
    cases reversed : input.reverse with
    | nil => simp
    | cons c rest =>
      rw [reversed] at first
      simp [first c rfl]
  rw [blanksBehind, behind]

theorem head?_of_append_eq {front back kept slashes : List Char} (left : kept ≠ [])
    (right : front ≠ []) (same : kept ++ slashes = front ++ back) : kept.head? = front.head? := by
  rw [← List.head?_append_of_ne_nil kept left, same, List.head?_append_of_ne_nil front right]

/-- A text whose final slashes give way to a path, as it is read: of what is read of the text and
the blanks behind it, only slashes at the end are missing. -/
theorem cleaned_followed {mark : Char} (member : mark ∈ cleaned input) (other : mark ≠ '/')
    (path : List Char) :
    ∃ kept slashes back,
      cleaned (dropEndWhile (· == '/') input ++ '/' :: path) = kept ++ '/' :: back ∧
      kept ++ slashes = cleaned input ++ blanksBehind input ∧ ∀ c ∈ slashes, c = '/' := by
  obtain ⟨before, blanks, whole, leading, trailing⟩ := Text.trimBoth_parts isOuterBlank input
  obtain ⟨opens, closes⟩ := Text.trimmed_trimBoth isOuterBlank input
  have inner : cleaned input = (trimBoth isOuterBlank input).filter (!isLineBlank ·) := rfl
  rw [inner] at member ⊢
  generalize trimBoth isOuterBlank input = core at whole opens closes member ⊢
  have marked : mark ∈ core := (List.mem_filter.mp member).1
  have split : dropEndWhile (· == '/') (core ++ blanks) ++ (core ++ blanks).rtakeWhile (· == '/') =
      core ++ blanks := List.rdropWhile_append_rtakeWhile
  have slashed : ∀ c ∈ (core ++ blanks).rtakeWhile (· == '/'), c = '/' :=
    fun c inside => eq_of_beq (List.mem_rtakeWhile_imp (p := (· == '/')) inside)
  generalize kept_eq : dropEndWhile (· == '/') (core ++ blanks) = kept at split
  generalize (core ++ blanks).rtakeWhile (· == '/') = slashes at split slashed
  have starts : ∀ c ∈ (kept ++ '/' :: path).head?, isOuterBlank c = false := by
    have nonempty : kept ≠ [] := by
      rintro rfl
      rw [List.nil_append] at split
      exact other (slashed mark (split ▸ List.mem_append_left _ marked))
    rw [List.head?_append_of_ne_nil _ nonempty,
      head?_of_append_eq nonempty (List.ne_nil_of_mem marked) split]
    exact opens
  refine ⟨kept.filter (!isLineBlank ·), slashes,
    (dropEndWhile isOuterBlank path).filter (!isLineBlank ·), ?_, ?_, slashed⟩
  · rw [whole, Text.dropEndWhile_append (List.mem_append_left _ marked) (by simpa using other),
      kept_eq, cleaned, trimBoth, List.append_assoc, List.dropWhile_append_of_pos leading,
      Text.dropWhile_eq_self_of_head starts, Text.dropEndWhile_append_cons (by decide),
      List.filter_append, List.filter_cons_of_pos (by decide)]
  · have stay : slashes.filter (!isLineBlank ·) = slashes := by
      rw [List.filter_eq_self]
      intro c inside
      rw [slashed c inside]
      decide
    have behind : blanksBehind input = blanks.filter (!isLineBlank ·) := by
      rw [whole, ← List.append_assoc]
      refine blanksBehind_append (fun c last => ?_) trailing
      rw [List.getLast?_append_of_ne_nil _ (List.ne_nil_of_mem marked)] at last
      exact closes c last
    rw [behind, ← stay, ← List.filter_append, split, List.filter_append]

namespace Front

/-- What stands before the path. -/
def head (front : Front) : List Char :=
  front.name ++ ':' :: (front.slashes ++ front.authority)

theorem text_eq (front : Front) : front.text = front.head ++ front.tail := by
  simp [text, head]

theorem head_last (front : Front) : ∀ c ∈ front.head.getLast?, c ≠ '/' := by
  intro c last
  have ends : front.authority.getLast? = some c := by
    rw [← last, head, ← List.cons_append, ← List.append_assoc,
      List.getLast?_append_of_ne_nil _ front.nonempty]
  rintro rfl
  exact absurd (front.within _ (List.mem_of_getLast? ends)) (by decide)

/-- The parts of the text if something else stands behind the authority. -/
def withTail (front : Front) (more tail : List Char)
    (within : ∀ c ∈ more, endsAuthority true c = false)
    (closed : ∀ c ∈ tail.head?, endsAuthority true c = true) : Front where
  name := front.name
  slashes := front.slashes
  authority := front.authority ++ more
  tail := tail
  web := front.web
  slashed := front.slashed
  nonempty := List.append_ne_nil_of_left_ne_nil front.nonempty more
  within := List.forall_mem_append.mpr ⟨front.within, within⟩
  closed := closed

theorem withTail_text (front : Front) (more tail : List Char)
    (within : ∀ c ∈ more, endsAuthority true c = false)
    (closed : ∀ c ∈ tail.head?, endsAuthority true c = true) :
    (front.withTail more tail within closed).text = front.head ++ more ++ tail := by
  simp [text, head, withTail]

theorem slash_closes (path : List Char) :
    ∀ c ∈ ('/' :: path).head?, endsAuthority true c = true := by
  rintro c ⟨⟩
  rfl

theorem blank_within {c : Char} (blank : isOuterBlank c = true) : endsAuthority true c = false := by
  simp only [isOuterBlank, decide_eq_true_eq] at blank
  have apart : ∀ d : Char, 32 < d.toNat → (c == d) = false := by
    intro d printed
    rw [beq_eq_false_iff_ne]
    rintro rfl
    exact absurd printed (Nat.not_lt.mpr blank)
  simp only [endsAuthority, isSlash, apart '/' (by decide), apart '\\' (by decide),
    apart '?' (by decide), apart '#' (by decide), Bool.and_false, Bool.or_self]

/-- An address whose final slashes give way to a path. The blanks at its end become part of the
authority if they stand directly behind it. -/
theorem followed (front : Front) (clean : cleaned input = front.text) (path : List Char) :
    ∃ after : Front, cleaned (dropEndWhile (· == '/') input ++ '/' :: path) = after.text ∧
      after.protocol = front.protocol ∧
      after.authority = front.authority ++ if front.tail = [] then blanksBehind input else [] := by
  have colon : ':' ∈ cleaned input := by
    rw [clean, text]
    simp
  obtain ⟨kept, slashes, back, read, split, slashed⟩ := cleaned_followed colon (by decide) path
  rw [clean, front.text_eq, List.append_assoc] at split
  obtain ⟨more, rfl, behind⟩ := append_slashes front.head_last slashed split
  rw [read]
  by_cases bare : front.tail = []
  · rw [bare, List.nil_append] at behind
    have noSlashes : slashes = [] := by
      refine List.eq_nil_iff_forall_not_mem.mpr fun c member => ?_
      have blank : c ∈ blanksBehind input := by
        rw [behind]
        exact List.mem_append_right _ member
      rw [slashed c member] at blank
      cases (isOuterBlank_blanksBehind blank).1
    rw [noSlashes, List.append_nil] at behind
    refine ⟨front.withTail more ('/' :: back) ?_ (slash_closes _), ?_, rfl, ?_⟩
    · rw [← behind]
      exact fun c member => blank_within (isOuterBlank_blanksBehind member).1
    · rw [withTail_text]
    · rw [if_pos bare]
      exact congrArg (front.authority ++ ·) behind.symm
  · refine ⟨front.withTail [] (more ++ '/' :: back) nofun ?_, ?_, rfl, ?_⟩
    · cases more with
      | nil => exact slash_closes _
      | cons c rest =>
        intro d first
        apply front.closed
        rw [← List.head?_append_of_ne_nil _ bare, behind]
        exact first
    · rw [withTail_text, List.append_nil, List.append_assoc]
    · rw [if_neg bare]
      rfl

end Front

end Url

end IssueFeed
