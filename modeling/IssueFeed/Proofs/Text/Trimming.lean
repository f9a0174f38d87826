import IssueFeed.Text.Blank
import Mathlib.Data.List.DropRight
import Mathlib.Data.List.Infix

/-! Trimming and searching of character lists.
A trimmed list shows a character outside the class at both of its ends, and that is all trimming
does: what lies within, and every character outside the class, stays. -/
namespace IssueFeed.Text

variable {p q : Char → Bool} {cs rest mark : List Char}

theorem dropEndWhile_eq_rdropWhile (p : Char → Bool) (cs : List Char) :
    dropEndWhile p cs = cs.rdropWhile p := rfl

/-- Neither the first nor the last character is of the class. -/
def Trimmed (p : Char → Bool) (cs : List Char) : Prop :=
  (∀ c ∈ cs.head?, p c = false) ∧ (∀ c ∈ cs.getLast?, p c = false)

instance (p : Char → Bool) (cs : List Char) : Decidable (Trimmed p cs) :=
  decidable_of_decidable_of_iff (p := (cs.head?.all (!p ·) && cs.getLast?.all (!p ·)) = true)
    (by simp [Trimmed, Option.all_eq_true])

theorem dropWhile_eq_self_of_head (first : ∀ c ∈ cs.head?, p c = false) :
    cs.dropWhile p = cs := by
  cases cs with
  | nil => rfl
  | cons c rest => simp [first c rfl]

theorem dropEndWhile_eq_self_of_last (last : ∀ c ∈ cs.getLast?, p c = false) :
    dropEndWhile p cs = cs := by
  rw [dropEndWhile_eq_rdropWhile, List.rdropWhile_eq_self_iff]
  intro nonempty
  simp [last _ (List.getLast?_eq_some_getLast nonempty)]

theorem head_dropWhile (p : Char → Bool) (cs : List Char) :
    ∀ c ∈ (cs.dropWhile p).head?, p c = false := by
  intro c hc
  have kept := List.head?_dropWhile_not p cs
  rw [Option.mem_def.mp hc] at kept
  exact kept

theorem last_dropEndWhile (p : Char → Bool) (cs : List Char) :
    ∀ c ∈ (dropEndWhile p cs).getLast?, p c = false := by
  intro c hc
  rw [dropEndWhile, List.getLast?_reverse] at hc
  exact head_dropWhile p cs.reverse c hc

theorem head_dropEndWhile (first : ∀ c ∈ cs.head?, p c = false) :
    ∀ c ∈ (dropEndWhile q cs).head?, p c = false := by
  intro c hc
  obtain ⟨back, split⟩ : dropEndWhile q cs <+: cs := List.rdropWhile_prefix q cs
  apply first
  rw [← split, List.head?_append, Option.mem_def.mp hc]
  rfl

theorem trimmed_trimBoth (p : Char → Bool) (cs : List Char) : Trimmed p (trimBoth p cs) :=
  ⟨head_dropEndWhile (head_dropWhile p cs), last_dropEndWhile p (cs.dropWhile p)⟩

theorem Trimmed.trimBoth_eq (h : Trimmed p cs) : trimBoth p cs = cs := by
  rw [trimBoth, dropWhile_eq_self_of_head h.1, dropEndWhile_eq_self_of_last h.2]

theorem trimBoth_eq_self_iff : trimBoth p cs = cs ↔ Trimmed p cs := by
  constructor
  · intro same
    rw [← same]
    exact trimmed_trimBoth p cs
  · exact Trimmed.trimBoth_eq

theorem trimBoth_trimBoth (p : Char → Bool) (cs : List Char) :
    trimBoth p (trimBoth p cs) = trimBoth p cs :=
  (trimmed_trimBoth p cs).trimBoth_eq

theorem toList_trim (text : String) : (trim text).toList = trimBoth isBlank text.toList :=
  String.toList_ofList

theorem trimmed_trim (text : String) : Trimmed isBlank (trim text).toList := by
  rw [toList_trim]
  exact trimmed_trimBoth isBlank text.toList

theorem suffix_dropWhile {back : List Char} (first : ∀ c ∈ back.head?, p c = false)
    (ends : back <:+ cs) : back <:+ cs.dropWhile p := by
  induction cs with
  | nil => exact ends
  | cons c rest ih =>
    cases outside : p c with
    | false => simpa [outside] using ends
    | true =>
      rw [List.dropWhile_cons_of_pos outside]
      rcases List.suffix_cons_iff.mp ends with whole | later
      · rw [whole] at first
        rw [first c rfl] at outside
        cases outside
      · exact ih later

/-- Trimming does not reach into an ending that is trimmed itself. -/
theorem Trimmed.suffix_trimBoth {back : List Char} (trimmed : Trimmed p back)
    (ends : back <:+ cs) : back <:+ trimBoth p cs := by
  have kept := suffix_dropWhile trimmed.1 ends
  by_cases empty : back = []
  · rw [empty]
    exact List.nil_suffix
  · have last : ∀ c ∈ (cs.dropWhile p).getLast?, p c = false := by
      obtain ⟨front, split⟩ := kept
      rw [← split, List.getLast?_append_of_ne_nil front empty]
      exact trimmed.2
    rw [trimBoth, dropEndWhile_eq_self_of_last last]
    exact kept

theorem Trimmed.mono (smaller : ∀ c, p c = true → q c = true) (h : Trimmed q cs) :
    Trimmed p cs := by
  have excluded : ∀ c, q c = false → p c = false := by
    intro c outside
    cases inside : p c with
    | false => rfl
    | true => rw [smaller c inside] at outside; cases outside
  exact ⟨fun c hc => excluded c (h.1 c hc), fun c hc => excluded c (h.2 c hc)⟩

theorem trimBoth_parts (p : Char → Bool) (cs : List Char) :
    ∃ before after, cs = before ++ (trimBoth p cs ++ after) ∧ (∀ c ∈ before, p c = true) ∧
      ∀ c ∈ after, p c = true := by
  refine ⟨cs.takeWhile p, (cs.dropWhile p).rtakeWhile p, ?_, ?_, ?_⟩
  · rw [trimBoth, dropEndWhile_eq_rdropWhile, List.rdropWhile_append_rtakeWhile,
      List.takeWhile_append_dropWhile]
  · exact fun c member => List.mem_takeWhile_imp member
  · exact fun c member => List.mem_rtakeWhile_imp member

theorem dropEndWhile_append_cons {c : Char} (kept : p c = false) (cs rest : List Char) :
    dropEndWhile p (cs ++ c :: rest) = cs ++ c :: dropEndWhile p rest := by
  have stops : ¬ p c = true := by rw [kept]; exact Bool.false_ne_true
  rw [dropEndWhile, List.reverse_append, List.reverse_cons, List.append_assoc,
    List.dropWhile_append]
  split_ifs with blank
  · rw [List.singleton_append, List.dropWhile_cons_of_neg stops, dropEndWhile,
      List.isEmpty_iff.mp blank]
    simp
  · simp [dropEndWhile]

/-- The end of a text is dropped within its last part if not all of that is dropped. -/
theorem dropEndWhile_append {c : Char} (member : c ∈ cs) (kept : p c = false) (before : List Char) :
    dropEndWhile p (before ++ cs) = before ++ dropEndWhile p cs := by
  obtain ⟨front, back, rfl⟩ := List.append_of_mem member
  rw [← List.append_assoc, dropEndWhile_append_cons kept, dropEndWhile_append_cons kept,
    List.append_assoc]

/-- The end of a text is dropped together with what follows of the class. -/
theorem dropEndWhile_append_of_all {back : List Char} (inside : ∀ c ∈ back, p c = true)
    (cs : List Char) : dropEndWhile p (cs ++ back) = dropEndWhile p cs := by
  have dropped : ∀ c ∈ back.reverse, p c = true := by
    intro c member
    exact inside c (List.mem_reverse.mp member)
  rw [dropEndWhile, List.reverse_append, List.dropWhile_append_of_pos dropped, dropEndWhile]

/-- A trimmed text is what trimming leaves of it with characters of the class around it. -/
theorem Trimmed.trimBoth_surrounded {before after : List Char} (trimmed : Trimmed p cs)
    (front : ∀ c ∈ before, p c = true) (back : ∀ c ∈ after, p c = true) :
    trimBoth p (before ++ (cs ++ after)) = cs := by
  rw [trimBoth, List.dropWhile_append_of_pos front]
  cases cs with
  | nil =>
    rw [List.nil_append, List.dropWhile_eq_nil_iff.mpr back]
    rfl
  | cons c cs =>
    have first : ∀ d ∈ (c :: cs ++ after).head?, p d = false := trimmed.1
    rw [dropWhile_eq_self_of_head first, dropEndWhile_append_of_all back,
      dropEndWhile_eq_self_of_last trimmed.2]

/-- Characters of the class around a text make no difference to what is left of it. -/
theorem trimBoth_surrounded {before after : List Char} (front : ∀ c ∈ before, p c = true)
    (back : ∀ c ∈ after, p c = true) (cs : List Char) :
    trimBoth p (before ++ (cs ++ after)) = trimBoth p cs := by
  obtain ⟨ahead, behind, split, inFront, inBack⟩ := trimBoth_parts p cs
  have whole : before ++ (cs ++ after) =
      (before ++ ahead) ++ (trimBoth p cs ++ (behind ++ after)) := by
    conv_lhs => rw [split]
    simp only [List.append_assoc]
  rw [whole]
  apply (trimmed_trimBoth p cs).trimBoth_surrounded
  · intro c member
    exact (List.mem_append.mp member).elim (front c) (inFront c)
  · intro c member
    exact (List.mem_append.mp member).elim (inBack c) (back c)

/-- Dropping one class before another does not matter where the other stops outside both. -/
theorem dropWhile_dropWhile (first : ∀ c ∈ (cs.dropWhile q).head?, p c = false) :
    (cs.dropWhile p).dropWhile q = cs.dropWhile q := by
  induction cs with
  | nil => rfl
  | cons c rest ih =>
    cases blank : p c with
    | false => rw [List.dropWhile_cons_of_neg (by simp [blank])]
    | true =>
      cases outer : q c with
      | false =>
        rw [List.dropWhile_cons_of_neg (by simp [outer])] at first
        rw [first c rfl] at blank
        cases blank
      | true =>
        rw [List.dropWhile_cons_of_pos outer] at first
        rw [List.dropWhile_cons_of_pos blank, ih first, List.dropWhile_cons_of_pos outer]

theorem filter_dropWhile (dropped : ∀ c, p c = true → q c = false) (cs : List Char) :
    (cs.dropWhile p).filter q = cs.filter q := by
  induction cs with
  | nil => rfl
  | cons c rest ih =>
    cases h : p c with
    | false => simp [h]
    | true => simp [h, dropped c h, ih]

/-- Trimming takes nothing away from what a filter keeps that keeps none of the class. -/
theorem filter_trimBoth (dropped : ∀ c, p c = true → q c = false) (cs : List Char) :
    (trimBoth p cs).filter q = cs.filter q := by
  rw [trimBoth, dropEndWhile, List.filter_reverse, filter_dropWhile dropped, List.filter_reverse,
    List.reverse_reverse, filter_dropWhile dropped]

theorem isBlank_of_isXmlBlank {c : Char} (h : isXmlBlank c = true) : isBlank c = true := by
  simp only [isXmlBlank, Bool.or_eq_true, beq_iff_eq] at h
  rcases h with ((h | h) | h) | h <;> subst h <;> decide

theorem dropStart?_eq_some_iff {start after : List Char} :
    dropStart? start cs = some after ↔ cs = start ++ after := by
  induction start generalizing cs with
  | nil => simp [dropStart?]
  | cons a start ih =>
    cases cs with
    | nil => simp [dropStart?]
    | cons c cs =>
      by_cases same : a = c
      · simp [dropStart?, same, ih]
      · simp [dropStart?, same, Ne.symm same]

theorem dropStart?_isSome_iff {start : List Char} :
    (dropStart? start cs).isSome = true ↔ start <+: cs := by
  rw [Option.isSome_iff_exists]
  exact exists_congr fun after => dropStart?_eq_some_iff.trans eq_comm

theorem hasInfix_iff {piece : List Char} : hasInfix piece cs = true ↔ piece <:+: cs := by
  induction cs with
  | nil => simp [hasInfix]
  | cons c cs ih =>
    rw [hasInfix, Bool.or_eq_true, dropStart?_isSome_iff, ih, List.infix_cons_iff]

/-- The scan for a mark finds the one that is put behind a text without it, even where the text ends
like the mark begins. -/
theorem cut?_append_end {text : List Char} (absent : hasInfix [']', ']', '>'] text = false)
    (rest : List Char) :
    cut? [']', ']', '>'] (text ++ [']', ']', '>'] ++ rest) = some (text, rest) := by
  induction text with
  | nil => simp [cut?, dropStart?]
  | cons c text ih =>
    simp only [hasInfix, Bool.or_eq_false_iff] at absent
    have later : dropStart? [']', ']', '>'] (c :: text ++ [']', ']', '>'] ++ rest) = none := by
      cases text with
      | nil => simp [dropStart?]
      | cons d text =>
        cases text with
        | nil => simp [dropStart?]
        | cons e text => simpa [dropStart?] using absent.1
    simp only [List.cons_append] at later ⊢
    rw [cut?, later, ih absent.2]
    rfl

end IssueFeed.Text
