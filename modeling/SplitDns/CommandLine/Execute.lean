import SplitDns.CommandLine.Arguments
import SplitDns.CommandLine.Output
import SplitDns.CommandLine.Report
import SplitDns.Config.Read
import SplitDns.Config.Sample
import SplitDns.Engine.Session
import SplitDns.Text.Quoted

/-!
# Executing commands

A command reads the configuration and works on what is outside of the program: files, audit
databases, the set tool and the network. Its outcome is an exit code with the texts it prints. What
it printed before it failed stays printed.
-/

namespace SplitDns.CommandLine

open SplitDns.Admin
open SplitDns.AddressSet
open SplitDns.Exchange
open SplitDns.Text (quoted)

variable {Network Tool : Type}

/-- What commands work with: how the set tool is run, and how queries are put to resolvers. -/
structure Host (Network Tool : Type) where
  runner : Runner Tool
  transport : Transport Network
  surroundings : Surroundings

/-- What commands work on. -/
structure World (Network Tool : Type) where
  outside : Outside Tool
  network : Network
  /-- What happens while the proxy runs, up to the signal that ends it. -/
  events : List Event

/-- The program is alone on its host, and its calls do not overlap. -/
instance caller : Files.Caller :=
  .first

/-- What a command printed, and how it ended. -/
structure Outcome where
  printed : List String
  result : Except Failure Unit

namespace Outcome

def done (printed : List String) : Outcome :=
  ⟨printed, .ok ()⟩

def failed (failure : Failure) : Outcome :=
  ⟨[], .error failure⟩

end Outcome

variable (host : Host Network Tool) (world : World Network Tool)

def backend (config : Config) : Backend Tool :=
  config.sets.tool.backend host.runner

/-- The world after the sets and files have changed. -/
def World.update (sets : Tool) (files : Files.Store) : World Network Tool :=
  { world with outside := { world.outside with sets := sets, files := files } }

/-- A failure if set operations have failed. -/
def tallied (tally : Admin.Tally) : Except Failure Unit :=
  if tally.failed = 0 then .ok ()
  else .error ⟨s!"{Text.decimal tally.failed} address-set operation(s) failed", []⟩

def generate (output : String) : Outcome × World Network Tool :=
  match world.outside.files.write output (Text.utf8 Config.sample) with
  | .error cause =>
      (.failed ⟨"Failed to write configuration to " ++ quoted output, [cause.message]⟩, world)
  | .ok files =>
      (.done ["Sample configuration written to " ++ quoted output, "",
          "Edit the routing classes and upstreams before running."],
        world.update world.outside.sets files)

/-- Tells where a name is routed. -/
def classify (config : Config) (name : String) : Outcome :=
  let store := config.patternStore.reload world.outside.files
  match store.match? name with
  | none => .done [directLine name (config.defaultResolver host.surroundings)]
  | some (index, pattern) =>
      .done ((config.classes[index]?).toList.map (classifiedLine name pattern))

def editOutcome (summary : String) (lines : Change → List String) :
    Except Error Change → Outcome
  | .error error => .failed (.of summary error)
  | .ok change => ⟨lines change, tallied change.tally⟩

def addPattern [Files.Caller] (config : Config) (className pattern : String) :
    Outcome × World Network Tool :=
  let (result, sets, files) := (Domain.of config).addPattern (backend host config) className
    pattern world.outside.sets world.outside.files
  (editOutcome ("Failed to add pattern to class " ++ className) addedLines result,
    world.update sets files)

def removePattern [Files.Caller] (config : Config) (className pattern : String) :
    Outcome × World Network Tool :=
  let (result, sets, files) := (Domain.of config).removePattern (backend host config) className
    pattern world.outside.sets world.outside.files
  (editOutcome ("Failed to remove pattern from class " ++ className) removedLines result,
    world.update sets files)

def listPatterns (config : Config) : Outcome :=
  match (Domain.of config).list world.outside.files with
  | .error error => .failed (.of "Failed to list patterns" error)
  | .ok listing => .done (listing.flatMap listingLines)

def lookup (config : Config) (pattern : String) : Outcome × World Network Tool :=
  let (result, sets) := (Domain.of config).lookup (backend host config) pattern
    world.outside.sets world.outside.files
  let outcome := match result with
    | .error error => .failed (.of "Failed to look up recorded domains" error)
    | .ok entries => .done (lookupLines pattern entries)
  (outcome, world.update sets world.outside.files)

def showLog (config : Config) (limit : Nat) : Outcome × World Network Tool :=
  match config.auditDatabase with
  | none =>
      (.failed ⟨"Audit log is disabled: set audit.database in the configuration", []⟩, world)
  | some path =>
      match world.outside.databases.recent? world.outside.files path limit with
      | none => (.failed (.of ("Failed to read audit log " ++ quoted path) .audit), world)
      | some (rows, databases) =>
          (.done (logLines rows),
            { world with outside := { world.outside with databases := databases } })

/-- Runs the proxy until it is told to end. -/
def runEngine [Files.Caller] (config : Config) : Outcome × World Network Tool :=
  match Engine.new config host.surroundings with
  | .error error => (.failed (.of "Failed to create routing engine" error), world)
  | .ok engine =>
      let (result, network, outside) := engine.run host.transport (backend host config)
        world.events world.network world.outside
      let outcome := match result with
        | .error error => .failed (.of "Routing engine failed" error)
        | .ok _ => .done []
      (outcome, { world with network := network, outside := outside })

/-- Executes a command that needs the configuration. -/
def executeWith [Files.Caller] (config : Config) : Command → Outcome × World Network Tool
  | .run => runEngine host world config
  | .generate output => generate world output
  | .classify name => (classify host world config name, world)
  | .addPattern className pattern => addPattern host world config className pattern
  | .removePattern className pattern => removePattern host world config className pattern
  | .listPatterns => (listPatterns world config, world)
  | .lookup pattern => lookup host world config pattern
  | .log limit => showLog world config limit

/-- Executes an invocation. Only writing the sample goes without a configuration. -/
def execute [Files.Caller] (invocation : Invocation) : Outcome × World Network Tool :=
  match invocation.command with
  | .generate output => generate world output
  | command =>
      match Config.load world.outside.files invocation.config with
      | .error error =>
          (.failed (.of ("Failed to load configuration from " ++ quoted invocation.config)
            error), world)
      | .ok config => executeWith host world config command

/-- How the program ends, as others see it. -/
structure Exit where
  code : Nat
  stdout : String
  stderr : String
  deriving DecidableEq, Repr

def Outcome.exit (outcome : Outcome) : Exit :=
  let stdout := unlines outcome.printed
  match outcome.result with
  | .ok () => ⟨0, stdout, ""⟩
  | .error failure => ⟨1, stdout, failure.report⟩

/-- How the program is used. -/
def usageLines : List String :=
  [ "Usage: dnsroute [--config <path>] [--log-level <level>] <command>",
    "",
    "  run                              serve queries until a signal ends the program",
    "  gen-config [--output <path>]     write a sample configuration",
    "  classify <name>                  show where a name is routed",
    "  pattern add <class> <pattern>    route a pattern to a class",
    "  pattern remove <class> <pattern> route a pattern to a class no longer",
    "  pattern list                     show the patterns of all classes",
    "  lookup <pattern>                 show recorded names that contain a pattern",
    "  log [--limit <rows>]             show the last rows of the audit log" ]

def versionLine : String := "dnsroute 0.1.0"

def Stop.exit : Stop → Exit
  | .usage => ⟨2, "", unlines usageLines⟩
  | .help => ⟨0, unlines usageLines, ""⟩
  | .version => ⟨0, unlines [versionLine], ""⟩

/-- Executes the arguments of the program. -/
def respond [Files.Caller] (arguments : List String) : Exit × World Network Tool :=
  match parse arguments with
  | .error stop => (stop.exit, world)
  | .ok invocation =>
      let (outcome, world) := execute host world invocation
      (outcome.exit, world)

end SplitDns.CommandLine
