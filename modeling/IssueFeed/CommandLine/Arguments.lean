import IssueFeed.Text.Blank

/-!
The arguments of the command. Options come before the command's name and each may be given once; an
option's value follows it, in the same argument or in the next.
-/
namespace IssueFeed.CommandLine

open Text (cut? dropStart?)

inductive Command where
  | run
  | validate
  | info
  deriving DecidableEq, Repr

structure Invocation where
  configPath : String := "data/config.toml"
  /-- Put in the place of the configured path of the feed. -/
  output : Option String := none
  verbose : Bool := false
  command : Command := .run
  deriving DecidableEq, Repr

inductive Usage where
  | invocation (invocation : Invocation)
  | help
  | version
  | unusable
  deriving DecidableEq, Repr

inductive PathOption where
  | config
  | output
  deriving DecidableEq, Repr

/-- The options read so far. The last one waits for its value, or for what follows it to show that
its value stands. -/
structure Options where
  config : Option String := none
  output : Option String := none
  verbose : Bool := false
  waiting : Option (PathOption × Option String) := none
  deriving DecidableEq, Repr

namespace Options

/-- Takes a value for an option; an empty one is refused, and a second one too. -/
def set (options : Options) (name : PathOption) (value : String) : Option Options :=
  if value.isEmpty then none
  else
    match name with
    | .config => if options.config.isSome then none else some { options with config := some value }
    | .output => if options.output.isSome then none else some { options with output := some value }

def settled (options : Options) : Option Options :=
  match options.waiting with
  | none => some options
  | some (_, none) => none
  | some (name, some value) => { options with waiting := none }.set name value

def setVerbose (options : Options) : Option Options :=
  if options.verbose then none else some { options with verbose := true }

def invocation (options : Options) (command : Command) : Invocation :=
  { configPath := options.config.getD "data/config.toml"
    output := options.output
    verbose := options.verbose
    command := command }

def finish (options : Options) (command : Command) : Usage :=
  match options.settled with
  | some options => .invocation (options.invocation command)
  | none => .unusable

end Options

abbrev Step := Except Usage Options

def orUnusable (options : Option Options) : Step :=
  match options with
  | some options => .ok options
  | none => .error .unusable

def expect (options : Options) (name : PathOption) : Step :=
  (orUnusable options.settled).map fun options => { options with waiting := some (name, none) }

def assign (options : Options) (name : PathOption) (value : String) : Step :=
  orUnusable (options.settled.bind (·.set name value))

/-- Ends with a usage, unless an option before lacks its value. -/
def endWith (options : Options) (usage : Usage) : Step :=
  if options.settled.isSome then .error usage else .error .unusable

def longOption (options : Options) (text : List Char) : Step :=
  let (name, value) :=
    match cut? ['='] text with
    | some (name, value) => (String.ofList name, some (String.ofList value))
    | none => (String.ofList text, none)
  match name, value with
  | "config", some value => assign options .config value
  | "config", none => expect options .config
  | "output", some value => assign options .output value
  | "output", none => expect options .output
  | "verbose", none => orUnusable (options.settled.bind (·.setVerbose))
  | "help", none => endWith options .help
  | "version", none => endWith options .version
  | _, _ => .error .unusable

/-- An option of one letter and what stands behind it in the same argument. -/
def valueBehind (options : Options) (name : PathOption) (rest : List Char) : Step :=
  match rest with
  | [] => expect options name
  | '=' :: value => assign options name (String.ofList value)
  | value => assign options name (String.ofList value)

/-- An argument that begins with one hyphen, given what follows it: options of one letter, of which
the last may have a value. -/
def shortOptions (options : Options) : List Char → Step
  | [] => .ok options
  | 'c' :: rest => valueBehind options .config rest
  | 'o' :: rest => valueBehind options .output rest
  | 'h' :: _ => endWith options .help
  | 'V' :: _ => endWith options .version
  | 'v' :: rest =>
    match options.settled.bind (·.setVerbose) with
    | some options => shortOptions options rest
    | none => .error .unusable
  | _ => .error .unusable

def command? (name : String) : Option Command :=
  match name with
  | "run" => some .run
  | "validate" => some .validate
  | "info" => some .info
  | _ => none

def afterCommand (options : Options) (command : Command) : List String → Usage
  | [] => options.finish command
  | ["--"] => options.finish command
  | argument :: _ =>
    if argument = "--help" || argument.toList.take 2 = ['-', 'h'] then .help else .unusable

def afterHelp (arguments : List String) : Usage :=
  match arguments with
  | [] => .help
  | [name] => if (command? name).isSome || name = "help" then .help else .unusable
  | _ => .unusable

def Options.wantsValue (options : Options) : Bool :=
  match options.waiting with
  | some (_, none) => true
  | _ => false

def usageFrom (options : Options) : List String → Usage
  | [] => options.finish .run
  | argument :: rest =>
    let ifOption (step : Step) : Usage :=
      match step with
      | .ok options => usageFrom options rest
      | .error usage => usage
    match options.wantsValue, command? argument with
    | false, some command => afterCommand options command rest
    | _, _ =>
      if argument = "help" && !options.wantsValue then afterHelp rest
      else if argument = "--" then if rest.isEmpty then options.finish .run else .unusable
      else
        match argument.toList with
        | '-' :: '-' :: text => ifOption (longOption options text)
        | '-' :: c :: text => ifOption (shortOptions options (c :: text))
        | _ =>
          match options.waiting with
          | some (name, none) =>
            usageFrom { options with waiting := some (name, some argument) } rest
          | _ => .unusable

def usageOf (arguments : List String) : Usage :=
  usageFrom {} arguments

end IssueFeed.CommandLine
