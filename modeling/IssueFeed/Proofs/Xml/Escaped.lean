import IssueFeed.Proofs.Text.Trimming
import IssueFeed.Xml.Escape

/-! Escaping keeps a text's meaning, opens no tag and leaves blanks alone, so that trimming the
escaped text is escaping the trimmed one. -/
namespace IssueFeed.Xml

open Text (isXmlBlank dropEndWhile dropEndWhile_eq_rdropWhile)

variable {c : Char} {text rest : List Char}

@[simp] theorem escape_nil : escape [] = [] := rfl

@[simp] theorem escape_cons (c : Char) (text : List Char) :
    escape (c :: text) = escapeChar c ++ escape text := rfl

theorem escape_append (front back : List Char) :
    escape (front ++ back) = escape front ++ escape back :=
  List.flatMap_append

theorem escapeChar_ne_nil (c : Char) : escapeChar c ≠ [] := by
  unfold escapeChar
  split_ifs <;> exact List.cons_ne_nil _ _

theorem escape_eq_nil_iff : escape text = [] ↔ text = [] := by
  cases text with
  | nil => exact Iff.rfl
  | cons c text => simp [escapeChar_ne_nil]

theorem escapeChar_opens_nothing (c : Char) : '<' ∉ escapeChar c := by
  unfold escapeChar
  split_ifs with opening <;> simp
  exact Ne.symm opening

theorem escape_opens_nothing (text : List Char) : ∀ c ∈ escape text, c ≠ '<' := by
  intro c hc
  obtain ⟨d, _, written⟩ := List.mem_flatMap.mp hc
  intro opening
  exact escapeChar_opens_nothing d (opening ▸ written)

theorem unescapeFrom_escapeChar (c : Char) (rest : List Char) :
    unescapeFrom none (escapeChar c ++ rest) = (unescapeFrom none rest).map (c :: ·) := by
  unfold escapeChar
  split_ifs with h₁ h₂ h₃ h₄ h₅
  · subst h₁; simp [unescapeFrom, reference?]
  · subst h₂; simp [unescapeFrom, reference?]
  · subst h₃; simp [unescapeFrom, reference?]
  · subst h₄; simp [unescapeFrom, reference?]
  · subst h₅; simp [unescapeFrom, reference?]
  · simp [unescapeFrom, h₃]

theorem unescape_escape (text : List Char) : unescape (escape text) = some text := by
  induction text with
  | nil => rfl
  | cons c text ih =>
    rw [unescape] at ih ⊢
    rw [escape_cons, unescapeFrom_escapeChar, ih]
    rfl

theorem escapeChar_blank (h : isXmlBlank c = true) : escapeChar c = [c] := by
  simp only [isXmlBlank, Bool.or_eq_true, beq_iff_eq] at h
  rcases h with ((h | h) | h) | h <;> subst h <;> rfl

theorem escapeChar_ends (h : isXmlBlank c = false) :
    (∀ d ∈ (escapeChar c).head?, isXmlBlank d = false) ∧
      (∀ d ∈ (escapeChar c).getLast?, isXmlBlank d = false) := by
  unfold escapeChar
  split_ifs
  case neg => simp [h]
  all_goals constructor <;> intro d hd <;> cases hd <;> rfl

theorem dropWhile_escape (text : List Char) :
    (escape text).dropWhile isXmlBlank = escape (text.dropWhile isXmlBlank) := by
  induction text with
  | nil => rfl
  | cons c text ih =>
    cases h : isXmlBlank c with
    | true => simp [escapeChar_blank h, h, ih]
    | false =>
      have first : ∀ d ∈ (escape (c :: text)).head?, isXmlBlank d = false := by
        intro d hd
        rw [escape_cons, List.head?_append_of_ne_nil _ (escapeChar_ne_nil c)] at hd
        exact (escapeChar_ends h).1 d hd
      rw [Text.dropWhile_eq_self_of_head first]
      simp [h]

theorem dropEndWhile_escape (text : List Char) :
    dropEndWhile isXmlBlank (escape text) = escape (dropEndWhile isXmlBlank text) := by
  simp only [dropEndWhile_eq_rdropWhile]
  induction text using List.reverseRecOn with
  | nil => rfl
  | append_singleton text c ih =>
    rw [escape_append]
    cases h : isXmlBlank c with
    | true =>
      rw [escape_cons, escapeChar_blank h, escape_nil, List.append_nil,
        List.rdropWhile_concat_pos _ _ _ h, List.rdropWhile_concat_pos _ _ _ h, ih]
    | false =>
      have last : ∀ d ∈ (escape text ++ escape [c]).getLast?, isXmlBlank d = false := by
        intro d hd
        rw [escape_cons, escape_nil, List.append_nil,
          List.getLast?_append_of_ne_nil _ (escapeChar_ne_nil c)] at hd
        exact (escapeChar_ends h).2 d hd
      have whole := Text.dropEndWhile_eq_self_of_last last
      rw [dropEndWhile_eq_rdropWhile] at whole
      rw [whole, List.rdropWhile_concat_neg _ _ _ (by simp [h]), escape_append]

end IssueFeed.Xml
