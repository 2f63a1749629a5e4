import SplitDns.AddressSet.Backend
import SplitDns.Text.Search
import SplitDns.Text.Utf8

/-!
# Address sets kept by a tool

A backend that runs one command per call. What the tool writes to its error stream tells a
missing set and a non-member apart from a command that failed.
-/

namespace SplitDns.AddressSet

open SplitDns.Address
open SplitDns.Text

/-- What a run of the tool leaves behind. -/
structure Output where
  status : ExitStatus
  stdout : Octets
  stderr : Octets

/-- Why a run gave no output. -/
inductive RunFailure where
  | spawn (cause : IoError)
  | overran
  deriving DecidableEq

/-- Runs a program with arguments, for at most the given time. -/
abbrev Runner (State : Type) :=
  String → List String → Duration → State → Except RunFailure Output × State

structure CommandSettings where
  program : String
  limit : Duration
  /-- The capacity of new sets, where it is not the tool's own default. -/
  capacity : Option Nat

def CommandSettings.default : CommandSettings :=
  ⟨"ipset", .ofSeconds 3, none⟩

def isPartOf (part text : String) : Bool :=
  containsText text.toList part.toList

def isSetMissing (complaint : String) : Bool :=
  isPartOf "does not exist" complaint

/-- The complaint is that the address is no member of a set that exists. -/
def isMemberMissing (complaint : String) : Bool :=
  isPartOf "is NOT in set" complaint || isPartOf "it's not added" complaint

def Output.complaint (output : Output) : String :=
  String.ofList (lossyUtf8 output.stderr)

namespace CommandSettings

def createArguments (settings : CommandSettings) (set : String) : List String :=
  let capacity := match settings.capacity with
    | some count => ["maxelem", decimal count]
    | none => []
  ["create", set, "hash:ip", "family", "inet"] ++ capacity ++ ["-exist"]

/-- A command line as it is shown to administrators. -/
def commandLine (settings : CommandSettings) (arguments : List String) : String :=
  settings.program ++ String.join (arguments.map (" " ++ ·))

/-- The error that a failed run means. -/
def failure (settings : CommandSettings) (set : String) (arguments : List String)
    (output : Output) : Error :=
  let complaint := String.ofList (trim output.complaint.toList)
  if isSetMissing complaint then .notFound set
  else .commandFailed (settings.commandLine arguments) output.status complaint

/-- The set name has to be valid, and the sets hold IPv4 addresses. -/
def check (set : String) (address : Ip) : Except Error Unit := do
  checkName set
  if address.isV6 then .error (.invalidFamily address) else .ok ()

variable {State : Type}

def run (settings : CommandSettings) (runner : Runner State) (arguments : List String)
    (state : State) : Except Error Output × State :=
  let (result, state) := runner settings.program arguments settings.limit state
  let result := result.mapError fun
    | .spawn cause => Error.spawn cause
    | .overran => Error.timeout settings.limit
  (result, state)

def runSuccessfully (settings : CommandSettings) (runner : Runner State) (set : String)
    (arguments : List String) (state : State) : Except Error Output × State :=
  let (result, state) := settings.run runner arguments state
  (result.bind fun output =>
    if output.status.isSuccess then .ok output
    else .error (settings.failure set arguments output), state)

/-- Runs a command that fails for addresses that are no members. -/
def runOnMember (settings : CommandSettings) (runner : Runner State) (set : String)
    (arguments : List String) (state : State) : Except Error Bool × State :=
  let (result, state) := settings.run runner arguments state
  (result.bind fun output =>
    if output.status.isSuccess then .ok true
    else if isMemberMissing output.complaint then .ok false
    else .error (settings.failure set arguments output), state)

def create (settings : CommandSettings) (runner : Runner State) (set : String) (state : State) :
    Except Error Unit × State :=
  match checkName set with
  | .error error => (.error error, state)
  | .ok () =>
      let (result, state) :=
        settings.runSuccessfully runner set (settings.createArguments set) state
      (result.map fun _ => (), state)

def add (settings : CommandSettings) (runner : Runner State) (set : String) (address : Ip)
    (state : State) : Except Error Unit × State :=
  match check set address with
  | .error error => (.error error, state)
  | .ok () =>
      let (result, state) :=
        settings.runSuccessfully runner set ["add", set, address.text, "-exist"] state
      (result.map fun _ => (), state)

def remove (settings : CommandSettings) (runner : Runner State) (set : String) (address : Ip)
    (state : State) : Except Error Bool × State :=
  match check set address with
  | .error error => (.error error, state)
  | .ok () => settings.runOnMember runner set ["del", set, address.text] state

def test (settings : CommandSettings) (runner : Runner State) (set : String) (address : Ip)
    (state : State) : Except Error Bool × State :=
  match check set address with
  | .error error => (.error error, state)
  | .ok () => settings.runOnMember runner set ["test", set, address.text] state

def save (settings : CommandSettings) (runner : Runner State) (state : State) :
    Except Error String × State :=
  let (result, state) := settings.runSuccessfully runner "" ["save"] state
  (result.map fun output => String.ofList (lossyUtf8 output.stdout), state)

def backend (settings : CommandSettings) (runner : Runner State) : Backend State :=
  ⟨settings.create runner, settings.add runner, settings.remove runner, settings.test runner,
    settings.save runner⟩

end CommandSettings

end SplitDns.AddressSet
