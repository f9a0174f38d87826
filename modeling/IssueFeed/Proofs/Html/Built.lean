import IssueFeed.Html.Construction

/-! Pages evaluated step by step.
A page that holds markup throughout is cut into tokens before anything is built of them; what is
built then follows from the tokens alone. -/
namespace IssueFeed.Html

/-- The tokens of a text that is markup throughout, in the groups in which they are read, up to a
number of groups. -/
def markupTokens : Nat → List Char → List (List Token)
  | 0, _ => []
  | _ + 1, [] => []
  | steps + 1, c :: text =>
    let (tokens, rest) := nextTokens .markup false (c :: text)
    tokens :: markupTokens steps rest

/-- Whether reading on is reading markup before each of the groups. -/
def Builder.staysInMarkup (builder : Builder) : List (List Token) → Bool
  | [] => true
  | tokens :: groups =>
    builder.reading == .markup && !builder.isForeign &&
      (tokens.foldl Builder.take builder).staysInMarkup groups

theorem Builder.run_markup {builder : Builder} {text : List Char} {groups : List (List Token)}
    {steps : Nat} (read : markupTokens steps text = groups) (ends : groups.length < steps)
    (stays : builder.staysInMarkup groups = true) :
    builder.run text = (groups.flatten ++ [Token.finish]).foldl Builder.take builder := by
  -- The induction is on the groups; as there are steps left, the text ends where they do.
  induction groups generalizing builder text steps with
  | nil =>
    obtain ⟨left, rfl⟩ := Nat.exists_eq_add_of_lt ends
    cases text with
    | nil => rw [run, dif_pos rfl]; rfl
    | cons c text => cases read
  | cons tokens groups ih =>
    obtain ⟨left, rfl⟩ : ∃ left, steps = left + 1 := ⟨steps - 1, by omega⟩
    cases text with
    | nil => cases read
    | cons c text =>
      simp only [staysInMarkup, Bool.and_eq_true, beq_iff_eq, Bool.not_eq_true'] at stays
      obtain ⟨⟨inMarkup, outside⟩, later⟩ := stays
      rcases found : nextTokens .markup false (c :: text) with ⟨first, rest⟩
      rw [markupTokens, found] at read
      obtain ⟨rfl, others⟩ := List.cons.inj read
      rw [run, dif_neg (List.cons_ne_nil c text), inMarkup, outside, found]
      change (first.foldl Builder.take builder).run rest = _
      rw [ih others (Nat.lt_of_succ_lt_succ ends) later, List.flatten_cons, List.append_assoc]
      exact List.foldl_append.symm

/-- A page without a mark in front, whose lines end in line feeds alone, is built of its tokens. -/
theorem page_built {body : String} {groups : List (List Token)} {steps : Nat}
    (plain : withLineFeeds (withoutMark body.toList) = body.toList)
    (read : markupTokens steps body.toList = groups) (ends : groups.length < steps)
    (stays : ({} : Builder).staysInMarkup groups = true) :
    ({} : Builder).run (withLineFeeds (withoutMark body.toList)) =
      (groups.flatten ++ [Token.finish]).foldl Builder.take {} := by
  rw [plain, Builder.run_markup read ends stays]

/-- The elements that have been built, each with its number. -/
def Builder.elements (built : Builder) : List (Nat × Element) :=
  built.draft.roots.flatMap fun root => (built.draft.finish built.draft.entries.size root []).2

/-- Where no element stands before one made earlier, a page is read off what has been built. -/
theorem elements_built {body : String} {built : Builder}
    (read : ({} : Builder).run (withLineFeeds (withoutMark body.toList)) = built)
    (ordered : built.elements.Pairwise fun a b => a.1 ≤ b.1) :
    (Document.ofText body).elements = built.elements.map (·.2) := by
  rw [Document.ofText, read, Draft.document, ← Builder.elements, List.mergeSort_of_pairwise]
  simpa using ordered

end IssueFeed.Html
