import IssueFeed.Proofs.Xml.Layout

/-! Beginnings of documents.
Markup that has been read stays read, whatever follows it; so a document that breaks off within
markup holds a fault. What is laid out within an element closes all the elements that it opens, and
no beginning of it closes the element around it. -/
namespace IssueFeed.Xml

open Text (isXmlBlank dropStart? cut?)

variable {mark text inside front before after rest : List Char} {token : Token}
  {start finish middle : Nat}

/-! ## Markup, cut short -/

theorem dropStart?_append (found : dropStart? mark text = some after) (rest : List Char) :
    dropStart? mark (text ++ rest) = some (after ++ rest) := by
  rw [Text.dropStart?_eq_some_iff] at found ⊢
  rw [found, List.append_assoc]

theorem cut?_contains (found : cut? mark text = some (before, after)) :
    text = before ++ mark ++ after := by
  induction text generalizing before with
  | nil =>
    rw [cut?] at found
    split_ifs at found with empty
    cases found
    rw [List.isEmpty_iff.mp empty]
    rfl
  | cons c text ih =>
    rw [cut?] at found
    split at found
    · rename_i dropped
      cases found
      exact Text.dropStart?_eq_some_iff.mp dropped
    · obtain ⟨⟨front, back⟩, later, same⟩ := Option.map_eq_some_iff.mp found
      cases same
      rw [ih later]
      rfl

theorem cut?_append (found : cut? mark text = some (before, after)) (rest : List Char) :
    cut? mark (text ++ rest) = some (before, after ++ rest) := by
  induction text generalizing before with
  | nil =>
    rw [cut?] at found
    split_ifs at found with empty
    cases found
    rw [List.isEmpty_iff.mp empty]
    cases rest <;> rfl
  | cons c text ih =>
    rw [cut?] at found
    rw [List.cons_append, cut?]
    split at found
    · rename_i dropped
      cases found
      rw [← List.cons_append, dropStart?_append dropped]
    · rename_i absent
      obtain ⟨⟨front, back⟩, later, same⟩ := Option.map_eq_some_iff.mp found
      cases same
      -- The mark is there further on, so the text is long enough to tell that it is not here.
      have still : dropStart? mark (c :: (text ++ rest)) = none := by
        rw [← Option.not_isSome_iff_eq_none, Text.dropStart?_isSome_iff] at absent ⊢
        intro here
        apply absent
        apply List.prefix_of_prefix_length_le here (List.prefix_append (c :: text) rest)
        rw [cut?_contains later]
        simp only [List.length_cons, List.length_append]
        omega
      rw [still, ih later]
      rfl

theorem balancedInside_append {depth : Nat}
    (found : balancedInside depth text = some (inside, after)) (rest : List Char) :
    balancedInside depth (text ++ rest) = some (inside, after ++ rest) := by
  induction text generalizing depth inside with
  | nil => cases found
  | cons c text ih =>
    simp only [balancedInside, List.cons_append] at found ⊢
    by_cases closing : c = '>' ∧ depth = 0
    · simp only [if_pos closing, Option.some.injEq, Prod.mk.injEq] at found ⊢
      exact ⟨found.1, by rw [found.2]⟩
    · rw [if_neg closing] at found ⊢
      obtain ⟨⟨front, back⟩, later, same⟩ := Option.map_eq_some_iff.mp found
      cases same
      rw [ih later]
      rfl

theorem declaration_append (read : declaration text = .ok (token, after)) (rest : List Char) :
    declaration (text ++ rest) = .ok (token, after ++ rest) := by
  unfold declaration at read
  split at read
  · -- A verbatim section.
    split at read <;> try contradiction
    rename_i opened
    split at read <;> try contradiction
    rename_i found
    cases read
    have reopened := dropStart?_append opened rest
    simp only [List.cons_append] at reopened ⊢
    simp only [declaration, reopened, cut?_append found]
  · -- A comment.
    unfold afterComment? at read
    split at read <;> try contradiction
    rename_i opened
    split at read <;> try contradiction
    rename_i found
    cases read
    have reopened := dropStart?_append opened rest
    simp only [List.cons_append] at reopened ⊢
    simp only [declaration, afterComment?, reopened, cut?_append found]
    rfl
  · -- A document type.
    rename_i c more notVerbatim notComment
    split at read <;> try contradiction
    rename_i named
    split at read <;> try contradiction
    rename_i found
    split at read <;> try contradiction
    rename_i word
    split_ifs at read with nameless
    cases read
    have goesOn := balancedInside_append found rest
    simp only [List.cons_append] at goesOn ⊢
    unfold declaration
    split <;> simp_all
  · contradiction

theorem markup_append (read : markup text = .ok (token, after)) (rest : List Char) :
    markup (text ++ rest) = .ok (token, after ++ rest) := by
  unfold markup at read
  split at read
  · contradiction
  · rw [List.cons_append, markup]
    exact declaration_append read rest
  · contradiction
  · rename_i more closed
    split at read <;> try contradiction
    rename_i found
    cases read
    have goesOn := cut?_append found rest
    -- What follows cannot turn the beginning into the empty instruction, which is refused.
    have begun : more ≠ [] := by
      rintro rfl
      cases found
    obtain ⟨c, more, rfl⟩ := List.exists_cons_of_ne_nil begun
    have other : c ≠ '>' := by
      rintro rfl
      exact closed more rfl
    simp only [List.cons_append] at goesOn ⊢
    unfold markup
    split <;> simp_all
  · split at read <;> try contradiction
    rename_i found
    cases read
    simp only [List.cons_append, markup, tagInside_append found]
  · rename_i first second third fourth
    split at read <;> try contradiction
    rename_i found
    cases read
    have goesOn := tagInside_append found rest
    cases text with
    | nil => cases found
    | cons c text =>
      simp only [List.cons_append] at goesOn ⊢
      unfold markup
      split <;> simp_all

/-- Markup that breaks off before its end is a fault. -/
theorem markup_cut (read : markup inside = .ok (token, [])) (begins : front <+: inside)
    (short : front ≠ inside) : ∃ what, markup front = .error what := by
  obtain ⟨back, rfl⟩ := begins
  cases found : markup front with
  | error what => exact ⟨what, rfl⟩
  | ok result =>
    obtain ⟨other, after⟩ := result
    rw [markup_append found back] at read
    simp only [Except.ok.injEq, Prod.mk.injEq, List.append_eq_nil_iff] at read
    exact absurd (by rw [read.2.2, List.append_nil]) short

/-! ## Elements that are open -/

/-- Whether the last open element is closed, where so many are open before the tokens. -/
def closes (depth : Nat) : List Token → Bool
  | [] => false
  | .opening _ selfClosing :: rest =>
    if selfClosing then depth == 0 || closes depth rest else closes (depth + 1) rest
  | .closing _ :: rest =>
    match depth with
    | 0 => false
    | 1 => true
    | depth + 2 => closes (depth + 1) rest
  | .fault _ :: _ => false
  | _ :: rest => closes depth rest

theorem closes_nothing (depth : Nat) : closes depth (tokens []) = false := by
  rw [tokens]
  rfl

/-- After the text another number of elements is open, and no beginning of it closes the last of
those that are open before. -/
structure Leads (start finish : Nat) (text : List Char) : Prop where
  onward : ∀ rest, closes start (tokens (text ++ rest)) = closes finish (tokens rest)
  within : ∀ front, front <+: text → front ≠ text → closes start (tokens front) = false

theorem prefix_append_cases {back : List Char} (begins : front <+: text ++ back) :
    front <+: text ∨ ∃ later, later <+: back ∧ front = text ++ later := by
  obtain ⟨rest, whole⟩ := begins
  rcases List.append_eq_append_iff.mp whole with ⟨more, same, -⟩ | ⟨later, same, split⟩
  · exact .inl ⟨more, same.symm⟩
  · exact .inr ⟨later, ⟨rest, split.symm⟩, same⟩

theorem Leads.beginning (leads : Leads start finish text) (begins : front <+: text) :
    closes start (tokens front) = false := by
  by_cases whole : front = text
  · have ends := leads.onward []
    rw [List.append_nil] at ends
    rw [whole, ends, closes_nothing]
  · exact leads.within front begins whole

theorem Leads.trans {back : List Char} (first : Leads start middle text)
    (second : Leads middle finish back) : Leads start finish (text ++ back) := by
  constructor
  · intro rest
    rw [List.append_assoc, first.onward, second.onward]
  · intro front begins short
    rcases prefix_append_cases begins with early | ⟨later, among, rfl⟩
    · exact first.beginning early
    · rw [first.onward]
      exact second.beginning among

theorem closes_dropText (depth : Nat) (text : List Char) :
    closes depth (tokens (text.dropWhile (· != '<'))) = closes depth (tokens text) := by
  cases text with
  | nil => rfl
  | cons c text =>
    by_cases opening : c = '<'
    · simp [opening]
    · have other : (c != '<') = true := bne_iff_ne.mpr opening
      rw [List.dropWhile_cons, if_pos other, tokens, if_neg opening]
      rfl

/-- A text without tags leaves everything as it is. -/
theorem leads_text (plain : ∀ c ∈ text, c ≠ '<') (depth : Nat) : Leads depth depth text := by
  have skipped : ∀ {text : List Char}, (∀ c ∈ text, c ≠ '<') → ∀ rest,
      closes depth (tokens (text ++ rest)) = closes depth (tokens rest) := by
    intro text plain rest
    have whole : ∀ c ∈ text, (c != '<') = true := fun c member => bne_iff_ne.mpr (plain c member)
    rw [← closes_dropText, List.dropWhile_append_of_pos whole, closes_dropText]
  constructor
  · exact skipped plain
  · intro front begins _
    have whole := skipped (fun c member => plain c (begins.subset member)) []
    rw [List.append_nil] at whole
    rw [whole, closes_nothing]

/-- Markup that breaks off closes nothing. -/
theorem closes_markup_cut (read : markup inside = .ok (token, []))
    (begins : front <+: '<' :: inside) (short : front ≠ '<' :: inside) (depth : Nat) :
    closes depth (tokens front) = false := by
  cases front with
  | nil => exact closes_nothing depth
  | cons c front =>
    obtain ⟨rfl, among⟩ := List.cons_prefix_cons.mp begins
    obtain ⟨what, refused⟩ := markup_cut read among (fun same => short (by rw [same]))
    rw [tokens, if_pos rfl]
    split <;> rename_i found <;> rw [refused] at found <;> cases found
    rfl

theorem leads_markup (read : markup inside = .ok (token, []))
    (leads : ∀ rest, closes start (token :: rest) = closes finish rest) :
    Leads start finish ('<' :: inside) := by
  constructor
  · intro rest
    rw [List.cons_append, tokens_markup (markup_append read rest), List.nil_append, leads]
  · intro front begins short
    exact closes_markup_cut read begins short start

/-- A text that breaks off before the end of its last markup closes nothing. -/
theorem Leads.unfinished (leads : Leads start finish text)
    (read : markup inside = .ok (token, [])) (begins : front <+: text ++ '<' :: inside)
    (short : front ≠ text ++ '<' :: inside) : closes start (tokens front) = false := by
  rcases prefix_append_cases begins with early | ⟨later, among, rfl⟩
  · exact leads.beginning early
  · rw [leads.onward]
    exact closes_markup_cut read among (fun same => short (by rw [same])) finish

theorem OpensElement.leads {name content : List Char} (opens : OpensElement (name ++ content))
    (depth : Nat) : Leads depth (depth + 1) (openingTag name content) := by
  have read := opens.markup_eq []
  have whole : openingTag name content = '<' :: (name ++ content ++ ['>']) := by
    simp [openingTag]
  rw [whole]
  exact leads_markup read fun rest => if_neg Bool.false_ne_true

theorem PlainName.leads_opening {name : List Char} (plain : PlainName name) (depth : Nat) :
    Leads depth (depth + 1) (openingTag name []) := by
  apply OpensElement.leads
  rw [List.append_nil]
  exact plain.opensElement

theorem PlainName.leads_closing {name : List Char} (plain : PlainName name) (depth : Nat) :
    Leads (depth + 2) (depth + 1) (closingTag name) :=
  leads_markup (plain.markup_closing []) fun _ => rfl

theorem leads_writtenText (text : List Char) (depth : Nat) :
    Leads depth depth (writtenText text) := by
  by_cases verbatim : WrittenVerbatim text
  · rw [writtenText_verbatim verbatim]
    have read := markup_verbatim verbatim.2 []
    rw [List.append_nil] at read
    exact leads_markup read fun _ => rfl
  · rw [writtenText_escaped verbatim]
    exact leads_text (escape_opens_nothing text) depth

/-- What is laid out within an element leaves it open. -/
theorem Laid.leads {elements : List Branch} (laid : Laid elements text) (depth : Nat) :
    Leads (depth + 1) (depth + 1) text := by
  have gaps : ∀ {gap : List Char} (depth : Nat), (∀ c ∈ gap, isXmlBlank c = true) →
      Leads depth depth gap := by
    intro gap depth blank
    apply leads_text
    rintro c member rfl
    exact absurd (blank '<' member) (by decide)
  induction laid generalizing depth with
  | gap blank => exact gaps (depth + 1) blank
  | @leaf gap name text after others blank plain _ ih =>
    apply (gaps (depth + 1) blank).trans
    apply (plain.leads_opening (depth + 1)).trans
    apply (leads_writtenText text (depth + 2)).trans
    exact (plain.leads_closing depth).trans (ih depth)
  | @branch gap name inside after children others blank plain _ _ within more =>
    apply (gaps (depth + 1) blank).trans
    apply (plain.leads_opening (depth + 1)).trans
    apply (within (depth + 1)).trans
    exact (plain.leads_closing depth).trans (more depth)

end IssueFeed.Xml
