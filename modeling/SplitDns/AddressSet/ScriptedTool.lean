import SplitDns.AddressSet.Command
import SplitDns.Files.Store

/-!
# A scripted set tool

A host on which one program plays a list of outcomes, one for each run, and keeps the argument
lists it was run with. It is the only one among the files of the host that can be run; a program
that is named without a slash is looked for among the few that every host has.
-/

namespace SplitDns.AddressSet

structure Outcome where
  output : Output
  /-- The time that the run takes. -/
  duration : Duration

def Outcome.success : Outcome :=
  ⟨⟨.code 0, [], []⟩, 0⟩

structure ScriptedTool where
  files : Files.Store
  /-- The key of the tool among the files. -/
  program : String
  outcomes : List Outcome
  /-- The outcome of the runs after those listed. -/
  otherwise : Outcome
  /-- The arguments of all runs so far, the first run first. -/
  runs : List (List String)

namespace ScriptedTool

/-- A tool that was not run yet, in the working directory of a host with these files. -/
def new (files : Files.Store) (outcomes : List Outcome) (otherwise : Outcome) : ScriptedTool :=
  let files := (files.put "ipset" (.file .empty)).put "ipset.d" .directory
  ⟨files, "ipset", outcomes, otherwise, []⟩

def next (tool : ScriptedTool) : Outcome :=
  (tool.outcomes[tool.runs.length]?).getD tool.otherwise

/-- Finds the tool at a path. No other file can be run. -/
def find (tool : ScriptedTool) (path : String) : Except IoError Unit := do
  let target ← tool.files.locate path
  match ← tool.files.at? target with
  | none => throw .notFound
  | some .directory => throw .permissionDenied
  | some (.file _) =>
      if target.slash then throw .notADirectory
      else if target.key ≠ tool.program then throw .permissionDenied

/-- The programs of every host: two do nothing and end well or badly, one repeats its arguments. -/
def standard? (name : String) (arguments : List String) : Option Output :=
  match name with
  | "true" => some ⟨.code 0, [], []⟩
  | "false" => some ⟨.code 1, [], []⟩
  | "echo" => some ⟨.code 0, (Text.utf8 (" ".intercalate arguments ++ "\n")).toList, []⟩
  | _ => none

/-- Where the programs of every host are. -/
def standardDirectories : List String :=
  ["/bin/", "/usr/bin/"]

/-- Runs a program that is not the tool. -/
def runOther (program : String) (arguments : List String) : Except IoError Output :=
  match standard? program arguments with
  | some output => .ok output
  | none =>
      if program = "." || program = ".." then .error .permissionDenied
      else if Files.nameLimit < program.utf8ByteSize then .error .nameTooLong
      else .error .notFound

def runner : Runner ScriptedTool := fun program arguments limit tool =>
  if program.toList.contains '\x00' then (.error (.spawn .zeroInArgument), tool)
  else if program.toList.contains '/' then
    match standardDirectories.findSome? fun directory =>
        (program.dropPrefix? directory).bind (standard? ·.toString arguments) with
    | some output => (.ok output, tool)
    | none =>
        match tool.find program with
        | .error cause => (.error (.spawn cause), tool)
        | .ok () =>
            let outcome := tool.next
            let tool := { tool with runs := tool.runs ++ [arguments] }
            if limit ≤ outcome.duration && outcome.duration != 0 then (.error .overran, tool)
            else (.ok outcome.output, tool)
  else
    ((runOther program arguments).mapError .spawn, tool)

/-- The argument lists of all runs, each in one line. -/
def argumentLines (tool : ScriptedTool) : List String :=
  tool.runs.map (" ".intercalate ·)

end ScriptedTool

end SplitDns.AddressSet
