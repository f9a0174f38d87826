import IssueFeed.Text.Alphabet
import Mathlib.Data.List.SplitBy

/-! Texts made plain.
Making a text plain leaves plain characters only, and it leaves a text of such characters as it is;
so doing it twice is doing it once. It goes run by run: the longest runs of plain characters stay,
and each longest run of others becomes one space. -/
namespace IssueFeed.Text

variable {c : Char} {cs : List Char}

theorem plainFrom_kept (plain : isPlain c = true) (inRun : Bool) (cs : List Char) :
    plainFrom inRun (c :: cs) = c :: plainFrom false cs :=
  if_pos plain

theorem plainFrom_replaced (other : isPlain c = false) (cs : List Char) :
    plainFrom false (c :: cs) = ' ' :: plainFrom true cs :=
  (if_neg (Bool.eq_false_iff.mp other)).trans (if_neg Bool.false_ne_true)

theorem plainFrom_dropped (other : isPlain c = false) (cs : List Char) :
    plainFrom true (c :: cs) = plainFrom true cs :=
  (if_neg (Bool.eq_false_iff.mp other)).trans (if_pos rfl)

theorem plainFrom_isPlain (inRun : Bool) (cs : List Char) :
    ∀ c ∈ plainFrom inRun cs, isPlain c = true := by
  induction cs generalizing inRun with
  | nil => exact nofun
  | cons c cs ih =>
    cases plain : isPlain c with
    | true =>
      rw [plainFrom_kept plain]
      exact List.forall_mem_cons.mpr ⟨plain, ih false⟩
    | false =>
      cases inRun with
      | true =>
        rw [plainFrom_dropped plain]
        exact ih true
      | false =>
        rw [plainFrom_replaced plain]
        exact List.forall_mem_cons.mpr ⟨by decide, ih true⟩

theorem plainFrom_eq_self (plain : ∀ c ∈ cs, isPlain c = true) (inRun : Bool) :
    plainFrom inRun cs = cs := by
  induction cs generalizing inRun with
  | nil => rfl
  | cons c cs ih =>
    obtain ⟨first, others⟩ := List.forall_mem_cons.mp plain
    rw [plainFrom_kept first, ih others]

theorem plain_isPlain (text : String) : ∀ c ∈ (plain text).toList, isPlain c = true := by
  rw [plain, String.toList_ofList]
  exact plainFrom_isPlain false text.toList

theorem plain_plain (text : String) : plain (plain text) = plain text := by
  rw [plain, plainFrom_eq_self (plain_isPlain text), String.ofList_toList]

/-! ## Texts one after the other -/

/-- Whether a run of other characters is under way behind a text, given whether one was before. -/
def runAfter (inRun : Bool) (cs : List Char) : Bool :=
  cs.foldl (fun _ c => !isPlain c) inRun

theorem runAfter_concat (inRun : Bool) (cs : List Char) (c : Char) :
    runAfter inRun (cs ++ [c]) = !isPlain c := by
  rw [runAfter, List.foldl_concat]

theorem runAfter_eq (inRun : Bool) (cs : List Char) :
    runAfter inRun cs = (cs.getLast?.map fun c => !isPlain c).getD inRun := by
  induction cs using List.reverseRec with
  | nil => rfl
  | append_singleton cs c => rw [runAfter_concat, List.getLast?_concat]; rfl

theorem plainFrom_append (inRun : Bool) (cs ds : List Char) :
    plainFrom inRun (cs ++ ds) = plainFrom inRun cs ++ plainFrom (runAfter inRun cs) ds := by
  induction cs generalizing inRun with
  | nil => rfl
  | cons c cs ih =>
    have onwards : runAfter inRun (c :: cs) = runAfter (!isPlain c) cs := rfl
    rw [onwards, List.cons_append]
    cases kept : isPlain c with
    | true => simp [plainFrom_kept, kept, ih]
    | false => cases inRun <;> simp [plainFrom_replaced, plainFrom_dropped, kept, ih]

/-- A run that is under way matters only where it goes on. -/
theorem plainFrom_started {cs : List Char} (starts : ∀ c ∈ cs.head?, isPlain c = true) :
    plainFrom true cs = plainFrom false cs := by
  cases cs with
  | nil => rfl
  | cons c cs => rw [plainFrom_kept (starts c rfl), plainFrom_kept (starts c rfl)]

/-- A text whose last character is not plain is made to end in a space. -/
theorem plainFrom_ends {cs : List Char} (goesOn : runAfter false cs = true) :
    ∃ front, plainFrom false cs = front ++ [' '] := by
  induction cs using List.reverseRec with
  | nil => cases goesOn
  | append_singleton cs c ih =>
    rw [runAfter_concat, Bool.not_eq_true'] at goesOn
    rw [plainFrom_append]
    cases before : runAfter false cs with
    | true =>
      obtain ⟨front, made⟩ := ih before
      exact ⟨front, by rw [made, plainFrom_dropped goesOn]; exact List.append_nil _⟩
    | false => exact ⟨plainFrom false cs, by rw [plainFrom_replaced goesOn]; rfl⟩

/-- A text whose first character is not plain is made to begin with a space, and behind a run that
is under way without that. -/
theorem plainFrom_begins (other : isPlain c = false) (cs : List Char) :
    plainFrom false (c :: cs) = ' ' :: plainFrom true (c :: cs) := by
  rw [plainFrom_replaced other, plainFrom_dropped other]

/-- A run of other characters goes on from the end of one text into the next. -/
def RunsOn (cs ds : List Char) : Prop :=
  (∃ c ∈ cs.getLast?, isPlain c = false) ∧ ∃ d ∈ ds.head?, isPlain d = false

theorem runAfter_eq_true_iff {cs : List Char} :
    runAfter false cs = true ↔ ∃ c ∈ cs.getLast?, isPlain c = false := by
  rw [runAfter_eq]
  cases cs.getLast? <;> simp

/-- Texts are made plain one by one, unless a run goes on from the one into the other. -/
theorem plainFrom_apart {cs ds : List Char} (apart : ¬ RunsOn cs ds) :
    plainFrom false (cs ++ ds) = plainFrom false cs ++ plainFrom false ds := by
  rw [plainFrom_append]
  cases goesOn : runAfter false cs with
  | false => rfl
  | true =>
    rw [plainFrom_started]
    intro d first
    by_contra other
    exact apart ⟨runAfter_eq_true_iff.mp goesOn, d, first, Bool.not_eq_true _ ▸ other⟩

/-- Where a run goes on, the space that ends the first text and the one that begins the second are
one. -/
theorem plainFrom_joined {cs ds : List Char} (joined : RunsOn cs ds) :
    ∃ front back, plainFrom false cs = front ++ [' '] ∧ plainFrom false ds = ' ' :: back ∧
      plainFrom false (cs ++ ds) = front ++ ' ' :: back := by
  obtain ⟨goesOn, d, first, other⟩ := joined
  rw [← runAfter_eq_true_iff] at goesOn
  obtain ⟨front, ends⟩ := plainFrom_ends goesOn
  cases ds with
  | nil => cases first
  | cons second rest =>
    cases first
    refine ⟨front, plainFrom true (d :: rest), ends, plainFrom_begins other rest, ?_⟩
    rw [plainFrom_append, goesOn, ends, List.append_assoc]
    rfl

/-- Spaces aside, the plain characters stay and the others go. -/
theorem filter_plainFrom (inRun : Bool) (cs : List Char) :
    (plainFrom inRun cs).filter (· != ' ') = cs.filter fun c => isPlain c && c != ' ' := by
  induction cs generalizing inRun with
  | nil => rfl
  | cons c cs ih =>
    rw [List.filter_cons]
    cases kept : isPlain c with
    | true => simp [plainFrom_kept, kept, List.filter_cons, ih]
    | false => cases inRun <;> simp [plainFrom_replaced, plainFrom_dropped, kept, ih]

/-! ## Runs -/

/-- Both characters are plain or neither is. -/
def sameKind (a b : Char) : Bool :=
  isPlain a == isPlain b

/-- A text cut into its longest runs of plain and of other characters. -/
def runs (cs : List Char) : List (List Char) :=
  cs.splitBy sameKind

/-- What becomes of a run. -/
def flattened (run : List Char) : List Char :=
  if run.all isPlain then run else [' ']

variable {first : Char} {run : List Char}

theorem run_uniform (chained : (first :: run).IsChain fun a b => sameKind a b = true) :
    ∀ c ∈ first :: run, isPlain c = isPlain first := by
  induction run generalizing first with
  | nil => simp
  | cons second run ih =>
    obtain ⟨same, later⟩ := List.isChain_cons_cons.mp chained
    refine List.forall_mem_cons.mpr ⟨rfl, fun c member => ?_⟩
    exact (ih later c member).trans (eq_of_beq same).symm

theorem plainFrom_true_eq_nil (others : ∀ c ∈ run, isPlain c = false) :
    plainFrom true run = [] := by
  induction run with
  | nil => rfl
  | cons c run ih =>
    obtain ⟨other, later⟩ := List.forall_mem_cons.mp others
    rw [plainFrom_dropped other, ih later]

/-- A run becomes what it becomes also where a run of the other kind is under way. -/
theorem plainFrom_run
    (chained : (first :: run).IsChain fun a b => sameKind a b = true) (inRun : Bool)
    (fresh : inRun = true → isPlain first = true) :
    plainFrom inRun (first :: run) = flattened (first :: run) := by
  have uniform := run_uniform chained
  cases kind : isPlain first with
  | true =>
    simp only [kind] at uniform
    rw [plainFrom_eq_self uniform, flattened, if_pos (List.all_eq_true.mpr uniform)]
  | false =>
    simp only [kind] at uniform
    have closed : inRun = false := by simpa [kind] using fresh
    have others : ∀ c ∈ run, isPlain c = false := (List.forall_mem_cons.mp uniform).2
    rw [closed, plainFrom_begins kind, plainFrom_true_eq_nil uniform, flattened,
      if_neg (by simp [kind])]

/-- Runs of which no two neighbours are of a kind become what they become one by one. -/
theorem plainFrom_flatten {found : List (List Char)} (filled : [] ∉ found)
    (chained : ∀ run ∈ found, run.IsChain fun a b => sameKind a b = true)
    (apart : found.IsChain fun before after => ∃ ends begins,
      sameKind (before.getLast ends) (after.head begins) = false)
    (inRun : Bool) (fresh : inRun = true → ∀ c ∈ found.flatten.head?, isPlain c = true) :
    plainFrom inRun found.flatten = found.flatMap flattened := by
  induction found generalizing inRun with
  | nil => rfl
  | cons run found ih =>
    obtain ⟨boundary, later⟩ := List.isChain_cons.mp apart
    obtain ⟨uniform, others⟩ := List.forall_mem_cons.mp chained
    obtain ⟨nonempty, rest⟩ := not_or.mp (List.mem_cons.not.mp filled)
    cases run with
    | nil => exact absurd rfl nonempty
    | cons first run =>
      rw [List.flatten_cons, plainFrom_append, List.flatMap_cons,
        plainFrom_run uniform inRun fun under => fresh under first rfl,
        ih rest others later]
      -- The run that ends here is not of the kind of the next one.
      intro under c begins
      cases found with
      | nil => cases begins
      | cons next found =>
        obtain ⟨ends, nonempty, differ⟩ := boundary next rfl
        rw [runAfter_eq, List.getLast?_eq_some_getLast ends, Option.map_some, Option.getD_some,
          Bool.not_eq_true'] at under
        rw [List.flatten_cons, List.head?_append_of_ne_nil _ nonempty,
          List.head?_eq_some_head nonempty] at begins
        cases begins
        simpa [sameKind, under] using differ

theorem plainFrom_runs (cs : List Char) : plainFrom false cs = (runs cs).flatMap flattened := by
  have whole : (runs cs).flatten = cs := List.flatten_splitBy sameKind cs
  have flat : plainFrom false (runs cs).flatten = (runs cs).flatMap flattened :=
    plainFrom_flatten (List.nil_notMem_splitBy sameKind cs)
      (fun _ => List.isChain_of_mem_splitBy) (List.isChain_getLast_head_splitBy sameKind cs) false
      nofun
  rwa [whole] at flat

end IssueFeed.Text
