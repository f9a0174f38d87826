import IssueFeed.CommandLine.Arguments
import Mathlib.Tactic.SplitIfs

/-! Arguments that differ in one word.
The command's word can be put in, left out, or replaced by another's, and the option for details can
be put in front; nothing else of what the arguments say changes. -/
namespace IssueFeed.CommandLine

open Text (cut?)

variable {options next : Options} {argument : String} {rest : List String}
  {invocation : Invocation}

/-- What an argument does that is neither a command's word nor the end of the options. -/
def readArgument (options : Options) (argument : String) : Step :=
  match argument.toList with
  | '-' :: '-' :: text => longOption options text
  | '-' :: c :: text => shortOptions options (c :: text)
  | _ =>
    match options.waiting with
    | some (name, none) => .ok { options with waiting := some (name, some argument) }
    | _ => .error .unusable

/-- The argument is a word that ends the options. -/
def EndsOptions (options : Options) (argument : String) : Prop :=
  argument = "--" ∨
    options.wantsValue = false ∧ (argument = "help" ∨ (command? argument).isSome = true)

theorem usageFrom_inner (inner : ¬ EndsOptions options argument) (rest : List String) :
    usageFrom options (argument :: rest) =
      match readArgument options argument with
      | .ok next => usageFrom next rest
      | .error usage => usage := by
  simp only [EndsOptions, not_or, not_and] at inner
  obtain ⟨notEnd, noWord⟩ := inner
  rw [usageFrom]
  split
  · rename_i known
    exact absurd (by rw [known]; rfl) (noWord ‹_›).2
  · have noHelp : (argument = "help" && !options.wantsValue) = false := by
      cases wants : options.wantsValue with
      | true => simp
      | false => simp [(noWord wants).1]
    rw [noHelp, if_neg Bool.false_ne_true, if_neg notEnd]
    split
    · rename_i text found
      cases read : longOption options text <;> simp only [readArgument, found, read]
    · rename_i letter text _ found
      cases read : shortOptions options (letter :: text) <;> simp only [readArgument, found, read]
    · rw [readArgument]
      rcases options.waiting with _ | ⟨name, _ | value⟩ <;> simp_all

/-! ## The option for details -/

def Options.detailed (options : Options) : Options := { options with verbose := true }

/-- A change that is made as well where details are asked for, unless it asks for them itself. -/
def KeepsDetail (change : Options → Option Options) : Prop :=
  ∀ options next, change options = some next → next.verbose = false →
    options.verbose = false ∧ change options.detailed = some next.detailed

theorem KeepsDetail.bind {first second : Options → Option Options} (before : KeepsDetail first)
    (after : KeepsDetail second) : KeepsDetail fun options => (first options).bind second := by
  intro options last changed quiet
  obtain ⟨next, changes, changesThen⟩ := Option.bind_eq_some_iff.mp changed
  obtain ⟨still, again⟩ := after next last changesThen quiet
  obtain ⟨start, first⟩ := before options next changes still
  exact ⟨start, Option.bind_eq_some_iff.mpr ⟨_, first, again⟩⟩

theorem keepsDetail_set (name : PathOption) (value : String) : KeepsDetail (·.set name value) := by
  intro options next changed quiet
  cases name with
  | config =>
    simp only [Options.set] at changed ⊢
    split_ifs at changed with empty given
    cases changed
    exact ⟨quiet, by rw [if_neg empty, Options.detailed, if_neg given]; rfl⟩
  | output =>
    simp only [Options.set] at changed ⊢
    split_ifs at changed with empty given
    cases changed
    exact ⟨quiet, by rw [if_neg empty, Options.detailed, if_neg given]; rfl⟩

theorem keepsDetail_settled : KeepsDetail Options.settled := by
  rintro ⟨config, output, verbose, _ | ⟨name, _ | value⟩⟩ next changed quiet
  · cases changed
    exact ⟨quiet, rfl⟩
  · cases changed
  · exact keepsDetail_set name value ⟨config, output, verbose, none⟩ next changed quiet

theorem setVerbose_shows (quiet : next.verbose = false) : options.setVerbose ≠ some next := by
  unfold Options.setVerbose
  split_ifs
  · exact nofun
  · rintro ⟨⟩
    cases quiet

theorem keepsDetail_setVerbose : KeepsDetail Options.setVerbose :=
  fun _ _ changed quiet => absurd changed (setVerbose_shows quiet)

/-- What an argument does to the options: it never stands for a whole command, and it does the same
where details are asked for. -/
structure Ordinary (step : Options → Step) : Prop where
  unfinished : ∀ options invocation, step options ≠ .error (.invocation invocation)
  kept : ∀ options next, step options = .ok next → next.verbose = false →
    options.verbose = false ∧ step options.detailed = .ok next.detailed

theorem orUnusable_eq_ok_iff {changed : Option Options} :
    orUnusable changed = .ok next ↔ changed = some next := by
  cases changed <;> simp [orUnusable]

theorem ordinary_orUnusable {change : Options → Option Options} (kept : KeepsDetail change) :
    Ordinary fun options => orUnusable (change options) := by
  constructor
  · intro options invocation
    cases change options <;> exact nofun
  · intro options next read quiet
    obtain ⟨start, again⟩ := kept options next (orUnusable_eq_ok_iff.mp read) quiet
    exact ⟨start, orUnusable_eq_ok_iff.mpr again⟩

theorem ordinary_unusable : Ordinary fun _ => .error .unusable :=
  ⟨fun _ _ => nofun, fun _ _ => nofun⟩

theorem ordinary_assign (name : PathOption) (value : String) : Ordinary (assign · name value) :=
  ordinary_orUnusable (keepsDetail_settled.bind (keepsDetail_set name value))

theorem ordinary_expect (name : PathOption) : Ordinary (expect · name) := by
  have same : ∀ options, expect options name = orUnusable
      (options.settled.map fun settled => { settled with waiting := some (name, none) }) := by
    intro options
    unfold expect
    cases options.settled <;> rfl
  simp only [same]
  refine ordinary_orUnusable fun options next changed quiet => ?_
  obtain ⟨settled, settles, rfl⟩ := Option.map_eq_some_iff.mp changed
  obtain ⟨start, again⟩ := keepsDetail_settled options settled settles quiet
  exact ⟨start, by rw [again]; rfl⟩

theorem ordinary_endWith {usage : Usage}
    (uncommanded : ∀ invocation, usage ≠ .invocation invocation) : Ordinary (endWith · usage) := by
  have fails : ∀ options, endWith options usage = .error usage ∨
      endWith options usage = .error .unusable := by
    intro options
    unfold endWith
    split_ifs
    · exact .inl rfl
    · exact .inr rfl
  constructor
  · intro options invocation ends
    rcases fails options with failed | failed
    · exact uncommanded invocation (Except.error.inj (failed.symm.trans ends))
    · cases failed.symm.trans ends
  · intro options next read
    rcases fails options with failed | failed <;> cases failed.symm.trans read

theorem ordinary_longOption (text : List Char) : Ordinary (longOption · text) := by
  unfold longOption
  cases cut? ['='] text
  all_goals
    dsimp only
    split
    · exact ordinary_assign _ _
    · exact ordinary_expect _
    · exact ordinary_assign _ _
    · exact ordinary_expect _
    · exact ordinary_orUnusable (keepsDetail_settled.bind keepsDetail_setVerbose)
    · exact ordinary_endWith nofun
    · exact ordinary_endWith nofun
    · exact ordinary_unusable

theorem ordinary_valueBehind (name : PathOption) (rest : List Char) :
    Ordinary (valueBehind · name rest) := by
  unfold valueBehind
  split
  · exact ordinary_expect _
  · exact ordinary_assign _ _
  · exact ordinary_assign _ _

theorem ordinary_shortOptions (letters : List Char) : Ordinary (shortOptions · letters) := by
  induction letters with
  | nil =>
    refine ⟨fun _ _ => nofun, fun options next read quiet => ?_⟩
    cases read
    exact ⟨quiet, rfl⟩
  | cons letter rest ih =>
    unfold shortOptions
    split
    · cases ‹_ :: _ = []›
    · exact ordinary_valueBehind _ _
    · exact ordinary_valueBehind _ _
    · exact ordinary_endWith nofun
    · exact ordinary_endWith nofun
    · cases ‹letter :: rest = _›
      constructor
      · intro options invocation
        split
        · exact ih.unfinished _ invocation
        · exact nofun
      · intro options last read quiet
        split at read
        · rename_i next changed
          obtain ⟨settled, -, shown⟩ := Option.bind_eq_some_iff.mp changed
          exact absurd shown (setVerbose_shows (ih.kept next last read quiet).1)
        · cases read
    · exact ordinary_unusable

theorem ordinary_readArgument (argument : String) : Ordinary (readArgument · argument) := by
  unfold readArgument
  split
  · exact ordinary_longOption _
  · exact ordinary_shortOptions _
  · refine ⟨?_, ?_⟩
    · rintro ⟨config, output, verbose, _ | ⟨name, _ | value⟩⟩ invocation <;> exact nofun
    · rintro ⟨config, output, verbose, _ | ⟨name, _ | value⟩⟩ next read quiet
      · cases read
      · cases read
        exact ⟨quiet, rfl⟩
      · cases read

/-! ## The end of the arguments -/

theorem usageFrom_word {command : Command} {word : String} (free : options.wantsValue = false)
    (known : command? word = some command) (rest : List String) :
    usageFrom options (word :: rest) = afterCommand options command rest := by
  rw [usageFrom, free, known]

theorem usageFrom_closed (options : Options) (rest : List String) :
    usageFrom options ("--" :: rest) = if rest.isEmpty then options.finish .run else .unusable := by
  rw [usageFrom]
  cases options.wantsValue <;> rfl

theorem usageFrom_help (free : options.wantsValue = false) (rest : List String) :
    usageFrom options ("help" :: rest) = afterHelp rest := by
  rw [usageFrom, free]
  rfl

theorem afterHelp_not_invocation (rest : List String) :
    afterHelp rest ≠ .invocation invocation := by
  unfold afterHelp
  split
  · exact nofun
  · split_ifs <;> exact nofun
  · exact nofun

/-- Nothing is left, or only the mark of the end of the options. -/
def IsEnd (rest : List String) : Prop := rest = [] ∨ rest = ["--"]

theorem usageFrom_end (ended : IsEnd rest) : usageFrom options rest = options.finish .run := by
  rcases ended with rfl | rfl
  · rfl
  · rw [usageFrom_closed]
    rfl

theorem afterCommand_end {command : Command} (ended : IsEnd rest) :
    afterCommand options command rest = options.finish command := by
  rcases ended with rfl | rfl <;> rfl

theorem isEnd_of_afterCommand {command : Command}
    (parsed : afterCommand options command rest = .invocation invocation) : IsEnd rest := by
  unfold afterCommand at parsed
  split at parsed
  · exact .inl rfl
  · exact .inr rfl
  · split_ifs at parsed

theorem finish_eq_invocation_iff {command : Command} :
    options.finish command = .invocation invocation ↔
      ∃ settled, options.settled = some settled ∧ settled.invocation command = invocation := by
  unfold Options.finish
  cases options.settled <;> simp

theorem wantsValue_of_settled (settled : options.settled = some next) :
    options.wantsValue = false := by
  rcases options with ⟨config, output, verbose, _ | ⟨name, _ | value⟩⟩
  · rfl
  · cases settled
  · rfl

/-! ## The arguments of an invocation -/

/-- The arguments that are left stand for an invocation: options, and then a command's word or
none. -/
inductive Spells : Options → List String → Invocation → Prop where
  | plain {options settled : Options} {rest : List String} (ended : IsEnd rest)
    (settles : options.settled = some settled) : Spells options rest (settled.invocation .run)
  | word {options settled : Options} {word : String} {command : Command} {rest : List String}
    (known : command? word = some command) (ended : IsEnd rest)
    (settles : options.settled = some settled) :
    Spells options (word :: rest) (settled.invocation command)
  | option {options next : Options} {argument : String} {rest : List String}
    {invocation : Invocation} (inner : ¬ EndsOptions options argument)
    (read : readArgument options argument = .ok next) (spells : Spells next rest invocation) :
    Spells options (argument :: rest) invocation

theorem Spells.usageFrom_eq (spells : Spells options rest invocation) :
    usageFrom options rest = .invocation invocation := by
  induction spells with
  | plain ended settles =>
    rw [usageFrom_end ended]
    exact finish_eq_invocation_iff.mpr ⟨_, settles, rfl⟩
  | word known ended settles =>
    rw [usageFrom_word (wantsValue_of_settled settles) known, afterCommand_end ended]
    exact finish_eq_invocation_iff.mpr ⟨_, settles, rfl⟩
  | option inner read _ ih =>
    rw [usageFrom_inner inner, read]
    exact ih

theorem spells_of_usageFrom (parsed : usageFrom options rest = .invocation invocation) :
    Spells options rest invocation := by
  induction rest generalizing options with
  | nil =>
    obtain ⟨settled, settles, rfl⟩ := finish_eq_invocation_iff.mp parsed
    exact .plain (.inl rfl) settles
  | cons argument rest ih =>
    by_cases ends : EndsOptions options argument
    · rcases ends with rfl | ⟨free, rfl | known⟩
      · rw [usageFrom_closed] at parsed
        split_ifs at parsed with last
        rw [List.isEmpty_iff.mp last]
        obtain ⟨settled, settles, rfl⟩ := finish_eq_invocation_iff.mp parsed
        exact .plain (.inr rfl) settles
      · rw [usageFrom_help free] at parsed
        exact absurd parsed (afterHelp_not_invocation _)
      · obtain ⟨command, known⟩ := Option.isSome_iff_exists.mp known
        rw [usageFrom_word free known] at parsed
        have ended := isEnd_of_afterCommand parsed
        rw [afterCommand_end ended] at parsed
        obtain ⟨settled, settles, rfl⟩ := finish_eq_invocation_iff.mp parsed
        exact .word known ended settles
    · rw [usageFrom_inner ends] at parsed
      cases read : readArgument options argument with
      | error usage =>
        rw [read] at parsed
        exact absurd (read.trans (congrArg Except.error parsed))
          ((ordinary_readArgument _).unfinished _ _)
      | ok next =>
        rw [read] at parsed
        exact .option ends read (ih parsed)

theorem usageOf_eq_invocation_iff :
    usageOf rest = .invocation invocation ↔ Spells {} rest invocation :=
  ⟨spells_of_usageFrom, Spells.usageFrom_eq⟩

/-- Between two parts of the arguments any command's word may stand, or none for an update. -/
def TakesWord (options : Options) (front back : List String) (invocation : Invocation) : Prop :=
  Spells options (front ++ back) { invocation with command := .run } ∧
    ∀ word command, command? word = some command →
      Spells options (front ++ word :: back) { invocation with command := command }

theorem TakesWord.cons {front back : List String} (inner : ¬ EndsOptions options argument)
    (read : readArgument options argument = .ok next)
    (takes : TakesWord next front back invocation) :
    TakesWord options (argument :: front) back invocation :=
  ⟨.option inner read takes.1, fun word command known =>
    .option inner read (takes.2 word command known)⟩

/-- The arguments have a place for the command's word, where it stands unless it is left out. -/
theorem Spells.takesWord (spells : Spells options rest invocation) :
    ∃ front back, TakesWord options front back invocation ∧
      (rest = front ++ back ∧ invocation.command = .run ∨
        ∃ word, command? word = some invocation.command ∧ rest = front ++ word :: back) := by
  induction spells with
  | plain ended settles =>
    exact ⟨[], _, ⟨.plain ended settles, fun _ _ known => .word known ended settles⟩,
      .inl ⟨rfl, rfl⟩⟩
  | word known ended settles =>
    exact ⟨[], _, ⟨.plain ended settles, fun _ _ named => .word named ended settles⟩,
      .inr ⟨_, known, rfl⟩⟩
  | option inner read _ ih =>
    obtain ⟨front, back, takes, ⟨rfl, plain⟩ | ⟨word, known, rfl⟩⟩ := ih
    · exact ⟨_ :: front, back, takes.cons inner read, .inl ⟨rfl, plain⟩⟩
    · exact ⟨_ :: front, back, takes.cons inner read, .inr ⟨word, known, rfl⟩⟩

theorem Spells.detailed (spells : Spells options rest invocation)
    (quiet : invocation.verbose = false) :
    options.verbose = false ∧
      Spells options.detailed rest { invocation with verbose := true } := by
  induction spells with
  | plain ended settles =>
    obtain ⟨start, again⟩ := keepsDetail_settled _ _ settles quiet
    exact ⟨start, .plain ended again⟩
  | word known ended settles =>
    obtain ⟨start, again⟩ := keepsDetail_settled _ _ settles quiet
    exact ⟨start, .word known ended again⟩
  | option inner read _ ih =>
    obtain ⟨still, later⟩ := ih quiet
    obtain ⟨start, again⟩ := (ordinary_readArgument _).kept _ _ read still
    exact ⟨start, .option inner again later⟩

/-- Where details are not asked for, they can be asked for in front. -/
theorem usageOf_detailed {arguments : List String}
    (parsed : usageOf arguments = .invocation invocation) (quiet : invocation.verbose = false) :
    usageOf ("-v" :: arguments) = .invocation { invocation with verbose := true } := by
  have inner : ¬ EndsOptions {} "-v" := by
    unfold EndsOptions
    decide
  exact usageOf_eq_invocation_iff.mpr
    (.option inner rfl ((usageOf_eq_invocation_iff.mp parsed).detailed quiet).2)

end IssueFeed.CommandLine
