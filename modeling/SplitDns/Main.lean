import SplitDns.CommandLine.Execute

/-!
# The program

Carries out its arguments on the files of the host and writes back those that changed. It opens no
socket and starts no other program: exchanges end as on a host without network, and runs of the
set tool as on one that does not permit them. Audit databases last as long as the program.
-/

namespace SplitDns.CommandLine

/-- A host without network. -/
def noNetwork : Exchange.Transport Unit := fun _ _ _ state =>
  (.error (.failure (.send .networkUnreachable)), state)

/-- A host that runs no other programs. -/
def noTool : AddressSet.Runner Unit := fun _ _ _ state =>
  (.error (.spawn .permissionDenied), state)

def configuredPaths (config : Config) : List String :=
  config.classes.map ClassSettings.patterns ++
    [config.persistence.mapFile, config.persistence.setFile] ++ config.auditDatabase.toList

/-- The files that arguments name. -/
def argumentPaths (arguments : List String) : List String :=
  match parse arguments with
  | .error _ => []
  | .ok ⟨config, _, .generate output⟩ => [config, output]
  | .ok ⟨config, _, _⟩ => [config]

def pathsOfConfig (files : Files.Store) (arguments : List String) : List String :=
  match parse arguments with
  | .error _ => []
  | .ok invocation => ((Config.load files invocation.config).map configuredPaths).toOption.getD []

def directoryOf (path : String) : String :=
  Files.pathKey (Files.startOf path ++ (Files.pathParts path).dropLast)

/-- The content of a file of the host, if it can be read. -/
def content? (path : String) : IO (Option ByteArray) := do
  try return some (← IO.FS.readBinFile path)
  catch _ => return none

/-- Adds what the host has at a path, or the directory for a file to come. -/
def fetch (files : Files.Store) (path : String) : IO Files.Store := do
  let here ← IO.currentDir
  if ← (here / path).isDir then return files.install path .directory
  match ← content? path with
  | some content => return files.install path (.file content)
  | none =>
      let directory := directoryOf path
      if ← (here / directory).isDir then return files.install directory .directory
      return files

/-- Writes a file to the host if it is not as it was. -/
def putBack (before after : Files.Store) (path : String) : IO Unit :=
  match (after.read path).toOption with
  | none => return
  | some content =>
      if (before.read path).toOption = some content then return
      else IO.FS.writeBinFile path content

/-- Carries out the arguments and gives the exit code. -/
def program (arguments : List String) : IO UInt32 := do
  let resolverText := (← content? resolverFile).bind Text.ofUtf8?
  let given := argumentPaths arguments
  let files ← given.foldlM fetch .empty
  let configured := pathsOfConfig files arguments
  let files ← configured.foldlM fetch files
  let host : Host Unit Unit :=
    ⟨noTool, noNetwork, ⟨← IO.getEnv resolverVariable, resolverText⟩⟩
  let (exit, world) := respond host ⟨⟨files, .empty, (), [], ""⟩, (), []⟩ arguments
  (given ++ configured).forM (putBack files world.outside.files)
  (← IO.getStdout).putStr exit.stdout
  (← IO.getStderr).putStr exit.stderr
  return UInt32.ofNat exit.code

end SplitDns.CommandLine

def main (arguments : List String) : IO UInt32 :=
  SplitDns.CommandLine.program arguments
