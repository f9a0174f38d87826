import IssueFeed.Text.Blank

/-!
Attributes, as they stand in a tag: a key, an equals sign and a quoted value. Nothing is demanded of
a key but that it holds no blank and, after its first character, no equals sign.
-/
namespace IssueFeed.Xml

open Text (isXmlBlank)

structure Attribute where
  key : List Char
  value : List Char
  deriving DecidableEq, Repr

/-- The attributes of a tag up to the first fault. -/
structure Attributes where
  sound : List Attribute
  faulty : Bool
  deriving DecidableEq, Repr

/-- One attribute at the head of a text that begins with its key, and the text after it. -/
def attribute? : List Char → Option (Attribute × List Char)
  | [] => none
  | first :: rest =>
    let isKeyEnd (c : Char) : Bool := c == '=' || isXmlBlank c
    let key := first :: rest.takeWhile (!isKeyEnd ·)
    match (rest.dropWhile (!isKeyEnd ·)).dropWhile isXmlBlank with
    | '=' :: afterEquals =>
      match afterEquals.dropWhile isXmlBlank with
      | quote :: inside =>
        if quote = '"' ∨ quote = '\'' then
          match inside.dropWhile (· != quote) with
          | _ :: after => some (⟨key, inside.takeWhile (· != quote)⟩, after)
          | [] => none
        else none
      | [] => none
    | _ => none

theorem dropWhile_length_le {α : Type} (p : α → Bool) (xs : List α) :
    (xs.dropWhile p).length ≤ xs.length :=
  (List.dropWhile_sublist p).length_le

theorem attribute?_length {text : List Char} {found : Attribute} {after : List Char}
    (h : attribute? text = some (found, after)) : after.length < text.length := by
  cases text with
  | nil => simp [attribute?] at h
  | cons first rest =>
    simp only [attribute?] at h
    split at h <;> try contradiction
    rename_i afterEquals equals
    split at h <;> try contradiction
    rename_i quote inside opened
    split at h <;> try contradiction
    split at h <;> try contradiction
    rename_i closing tail closed
    simp only [Option.some.injEq, Prod.mk.injEq] at h
    have a := dropWhile_length_le (fun c => !(c == '=' || isXmlBlank c)) rest
    have b := dropWhile_length_le isXmlBlank
      (rest.dropWhile fun c => !(c == '=' || isXmlBlank c))
    have c := dropWhile_length_le isXmlBlank afterEquals
    have d := dropWhile_length_le (· != quote) inside
    rw [equals] at b
    rw [opened] at c
    rw [closed] at d
    rw [← h.2]
    simp only [List.length_cons] at b c d ⊢
    omega

def attributesOf (text : List Char) : Attributes :=
  match _trimmed : text.dropWhile isXmlBlank with
  | [] => ⟨[], false⟩
  | c :: rest =>
    match _read : attribute? (c :: rest) with
    | none => ⟨[], true⟩
    | some (found, after) =>
      let others := attributesOf after
      ⟨found :: others.sound, others.faulty⟩
termination_by text.length
decreasing_by
  have shorter := attribute?_length _read
  have := dropWhile_length_le isXmlBlank text
  rw [_trimmed] at this
  omega

/-- Whether no fault occurs and no key twice. -/
def Attributes.isSound (found : Attributes) : Bool :=
  !found.faulty && (found.sound.map (·.key)).Nodup

end IssueFeed.Xml
