import SplitDns.Text.Number
import SplitDns.Text.Search

/-!
# Arguments

The commands of the program and how they are written. Options stand before the positional
arguments of their level or between them; each has a short and a long name, takes a value, and may
be given once. Two hyphens end the options. Arguments are judged from left to right, so a request
for help counts only as long as everything before it was in order.
-/

namespace SplitDns.CommandLine

open SplitDns.Text

inductive Command where
  | run
  /-- Writes the sample configuration. -/
  | generate (output : String)
  | classify (name : String)
  | addPattern (className pattern : String)
  | removePattern (className pattern : String)
  | listPatterns
  | lookup (pattern : String)
  /-- Shows the last rows of the audit log. -/
  | log (limit : Nat)
  deriving DecidableEq, Repr

/-- What the program is asked to do. -/
structure Invocation where
  /-- The path of the configuration file. -/
  config : String
  /-- The level of log lines, instead of the configured one. -/
  logLevel : Option String
  command : Command
  deriving DecidableEq, Repr

/-- Why there is no invocation. -/
inductive Stop where
  | usage
  | help
  | version
  deriving DecidableEq, Repr

/-- What may stand as the value of an option. -/
inductive ValueKind where
  | text
  /-- Any text but the empty one. -/
  | path
  | number
  deriving DecidableEq

def number? (value : String) : Option Nat :=
  (readNumber 0xFFFFFFFFFFFFFFFF value.toList).toOption

def ValueKind.admits (kind : ValueKind) (value : String) : Bool :=
  match kind with
  | .text => true
  | .path => value != ""
  | .number => (number? value).isSome

/-- An option that takes a value. -/
structure Flag where
  short : Char
  long : String
  kind : ValueKind
  deriving DecidableEq

/-- The arguments that may stand together. -/
structure Level where
  flags : List Flag
  places : Nat
  /-- The first positional argument names a subcommand, with a level of its own. -/
  branches : Bool
  /-- The level knows the option for the version. -/
  hasVersion : Bool

structure Given where
  values : List (Flag × String)
  /-- The last option, when its value was an argument of its own: it has not been judged yet. -/
  waiting : Option (Flag × String)
  positional : List String

def Given.empty : Given :=
  ⟨[], none, []⟩

/-- Notes the value of an option, which must fit it and be the first one for it. -/
def Given.set (given : Given) (flag : Flag) (value : String) : Except Stop Given :=
  if (given.values.lookup flag).isNone && flag.kind.admits value then
    .ok { given with values := given.values ++ [(flag, value)] }
  else
    .error .usage

/-- Judges the option that waits. -/
def Given.settle (given : Given) : Except Stop Given :=
  match given.waiting with
  | none => .ok given
  | some (flag, value) => { given with waiting := none }.set flag value

def Given.value? (given : Given) (flag : Flag) : Option String :=
  given.values.lookup flag

/-- Adds positional arguments, as many as there are places for. -/
def Given.place (given : Given) (level : Level) (arguments : List String) : Except Stop Given :=
  if given.positional.length + arguments.length ≤ level.places then
    .ok { given with positional := given.positional ++ arguments }
  else
    .error .usage

/-- How an argument reads where options may stand. -/
inductive Shape where
  | escape
  | long (name : String) (value : Option String)
  | short (letters : List Char)
  | plain

def shapeOf (argument : String) : Shape :=
  match argument.toList with
  | ['-', '-'] => .escape
  | '-' :: '-' :: text =>
      match cutFirst? '=' text with
      | some (name, value) => .long (String.ofList name) (some (String.ofList value))
      | none => .long (String.ofList text) none
  | '-' :: letter :: letters => .short (letter :: letters)
  | _ => .plain

inductive Meaning where
  | stop (reason : Stop)
  | valued (flag : Flag) (value : Option String)

def longMeaning (level : Level) (name : String) (value : Option String) : Meaning :=
  match level.flags.find? (·.long == name) with
  | some flag => .valued flag value
  | none =>
      if value.isNone && name == "help" then .stop .help
      else if value.isNone && name == "version" && level.hasVersion then .stop .version
      else .stop .usage

/-- The value that follows the letter of an option in the same argument. -/
def attached? : List Char → Option String
  | [] => none
  | '=' :: value => some (String.ofList value)
  | value => some (String.ofList value)

def shortMeaning (level : Level) : List Char → Meaning
  | [] => .stop .usage
  | letter :: letters =>
      match level.flags.find? (·.short == letter) with
      | some flag => .valued flag (attached? letters)
      | none =>
          if letter = 'h' then .stop .help
          else if letter = 'V' ∧ level.hasVersion then .stop .version
          else .stop .usage

/--
Reads the arguments of a level; gives those from a subcommand on. An option that waits when a
subcommand comes is left waiting: the subcommand is read first.
-/
def readLevel (level : Level) (given : Given) (arguments : List String) :
    Except Stop (Given × List String) :=
  match arguments with
  | [] => .ok (given, [])
  | argument :: rest =>
      let proceed : Meaning → Except Stop (Given × List String)
        | .stop reason => do
            let _ ← given.settle
            .error reason
        | .valued flag (some value) => do
            readLevel level (← (← given.settle).set flag value) rest
        | .valued flag none =>
            match rest with
            | [] => .error .usage
            | value :: rest =>
                match shapeOf value with
                | .plain => do
                    readLevel level { (← given.settle) with waiting := some (flag, value) } rest
                | _ => .error .usage
      match shapeOf argument with
      | .escape => do return ((← given.place level rest), [])
      | .long name value => proceed (longMeaning level name value)
      | .short letters => proceed (shortMeaning level letters)
      | .plain =>
          if level.branches then .ok (given, argument :: rest)
          else do readLevel level (← given.place level [argument]) rest
  termination_by arguments.length

def configFlag : Flag := ⟨'c', "config", .path⟩

def logLevelFlag : Flag := ⟨'l', "log-level", .text⟩

def outputFlag : Flag := ⟨'o', "output", .path⟩

def limitFlag : Flag := ⟨'n', "limit", .number⟩

/-- The path of the configuration file, where none is given. -/
def defaultPath : String := "dnsroute.toml"

/-- The number of rows of the audit log that are shown, where none is given. -/
def defaultLimit : Nat := 50

def programLevel : Level :=
  ⟨[configFlag, logLevelFlag], 0, true, true⟩

def patternLevel : Level :=
  ⟨[], 0, true, false⟩

/-- A level of so many positional arguments. -/
def leaf (flags : List Flag) (places : Nat) : Level :=
  ⟨flags, places, false, false⟩

/-- Reads a level in which every place is taken. -/
def readLeaf (flags : List Flag) (places : Nat) (arguments : List String) : Except Stop Given := do
  let given ← (← readLevel (leaf flags places) .empty arguments).1.settle
  if given.positional.length = places then .ok given else .error .usage

def readOne (command : String → Command) (arguments : List String) : Except Stop Command := do
  match (← readLeaf [] 1 arguments).positional with
  | [argument] => .ok (command argument)
  | _ => .error .usage

def readTwo (command : String → String → Command) (arguments : List String) :
    Except Stop Command := do
  match (← readLeaf [] 2 arguments).positional with
  | [first, second] => .ok (command first second)
  | _ => .error .usage

def readNone (command : Command) (arguments : List String) : Except Stop Command := do
  let _ ← readLeaf [] 0 arguments
  return command

/-- The subcommands that edit and list patterns. -/
def patternNames : List String :=
  ["add", "remove", "list", "help"]

def programNames : List String :=
  ["run", "gen-config", "classify", "pattern", "lookup", "log", "help"]

/-- What comes of a request for help on a subcommand for patterns. -/
def patternHelp : List String → Stop
  | [] => .help
  | [name] => if patternNames.contains name then .help else .usage
  | _ => .usage

/-- What comes of a request for help on a subcommand, which each name leads one level down to. -/
def programHelp : List String → Stop
  | [] => .help
  | "pattern" :: names => patternHelp names
  | [name] => if programNames.contains name then .help else .usage
  | _ => .usage

def patternCommand (arguments : List String) : Except Stop Command := do
  match (← readLevel patternLevel .empty arguments).2 with
  | "add" :: rest => readTwo .addPattern rest
  | "remove" :: rest => readTwo .removePattern rest
  | "list" :: rest => readNone .listPatterns rest
  | "help" :: names => .error (patternHelp names)
  | _ => .error .usage

/-- Reads a command from its name on. -/
def command : List String → Except Stop Command
  | "run" :: rest => readNone .run rest
  | "gen-config" :: rest => do
      return .generate (((← readLeaf [outputFlag] 0 rest).value? outputFlag).getD defaultPath)
  | "classify" :: rest => readOne .classify rest
  | "pattern" :: rest => patternCommand rest
  | "lookup" :: rest => readOne .lookup rest
  | "log" :: rest => do
      let limit := (← readLeaf [limitFlag] 0 rest).value? limitFlag
      return .log ((limit.bind number?).getD defaultLimit)
  | "help" :: names => .error (programHelp names)
  | _ => .error .usage

def parse (arguments : List String) : Except Stop Invocation := do
  let (given, rest) ← readLevel programLevel .empty arguments
  let command ← command rest
  let given ← given.settle
  return ⟨(given.value? configFlag).getD defaultPath, given.value? logLevelFlag, command⟩

end SplitDns.CommandLine
