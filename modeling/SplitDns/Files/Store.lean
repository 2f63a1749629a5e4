import SplitDns.Files.Path
import SplitDns.IoError
import SplitDns.SortedMap
import SplitDns.Text.Utf8

/-!
# Files

Files and directories by path. The directories above the working directory and the root are always
there; what else they hold is only what was put into them by such a path.
-/

namespace SplitDns.Files

open SplitDns.Text

/-- Contents are compared octet by octet. -/
instance decidableEqContent : DecidableEq ByteArray :=
  fun left right => decidable_of_iff (left.data = right.data) ByteArray.ext_iff.symm

inductive Entry where
  | file (content : ByteArray)
  | directory
  deriving DecidableEq

/-- The entries by path, with a slash between the parts of a path. -/
abbrev Store := SortedMap Entry

structure Target where
  /-- The directory before the last step, or the one that a path without a name leads to. -/
  directory : List String
  /-- The last step, if it names an entry of that directory. -/
  name : Option String
  /-- A slash follows the name: only a directory is meant. -/
  slash : Bool

/-- The names that lead to the entry. -/
def Target.parts (target : Target) : List String :=
  target.directory ++ target.name.toList

def Target.key (target : Target) : String :=
  pathKey target.parts

namespace Store

/-- The entry that a list of names leads to. -/
def entry? (store : Store) (parts : List String) : Option Entry :=
  if isOutermost parts then some .directory else store.find? (pathKey parts)

/-- The entry with a name in a directory; a name may be too long to look for. -/
def lookup (store : Store) (directory : List String) (name : String) :
    Except IoError (Option Entry) :=
  if name.utf8ByteSize ≤ nameLimit then .ok (store.entry? (directory ++ [name]))
  else .error .nameTooLong

/-- Takes one step of a path, to a directory. -/
def enter (store : Store) (directory : List String) (step : String) :
    Except IoError (List String) := do
  if step = "." then return directory
  else if step = ".." then return parentOf directory
  else
    match ← store.lookup directory step with
    | some .directory => return directory ++ [step]
    | some (.file _) => throw .notADirectory
    | none => throw .notFound

/-- Follows a path up to its last step, through directories that exist. -/
def locate (store : Store) (path : String) : Except IoError Target :=
  if path.toList.contains '\x00' then .error .zeroInPath
  else if path.isEmpty then .error .notFound
  else if pathLimit < path.utf8ByteSize then .error .nameTooLong
  else do
    let steps := stepsOf path
    let directory ← steps.dropLast.foldlM store.enter (startOf path)
    match steps.getLast? with
    | none => return ⟨directory, none, true⟩
    | some last =>
        if last = "." || last = ".." then return ⟨← store.enter directory last, none, true⟩
        else return ⟨directory, some last, path.endsWith "/"⟩

def at? (store : Store) (target : Target) : Except IoError (Option Entry) :=
  match target.name with
  | none => .ok (some .directory)
  | some name => store.lookup target.directory name

def read (store : Store) (path : String) : Except IoError ByteArray := do
  let target ← store.locate path
  match ← store.at? target with
  | some (.file content) => if target.slash then throw .notADirectory else return content
  | some .directory => throw .isADirectory
  | none => throw .notFound

def readText (store : Store) (path : String) : Except IoError String := do
  match ofUtf8? (← store.read path) with
  | some text => .ok text
  | none => .error .notUtf8

/-- Creates or overwrites a file. -/
def write (store : Store) (path : String) (content : ByteArray) : Except IoError Store := do
  let target ← store.locate path
  if target.slash then throw .isADirectory
  match ← store.at? target with
  | some .directory => throw .isADirectory
  | _ => return store.put target.key (.file content)

/-- Moves a file, over another file if there is one. -/
def rename (store : Store) (source target : String) : Except IoError Store := do
  let source ← store.locate source
  let target ← store.locate target
  if source.name.isNone || target.name.isNone then throw .busy
  match ← store.at? source with
  | none => throw .notFound
  | some entry =>
      let found ← store.at? target
      if target.slash then throw .notADirectory
      else if found = some .directory then throw .isADirectory
      else return (store.erase source.key).put target.key entry

def remove (store : Store) (path : String) : Except IoError Store := do
  let target ← store.locate path
  match ← store.at? target with
  | some (.file _) => return store.erase target.key
  | some .directory => throw .isADirectory
  | none => throw .notFound

/-- Makes a directory where there is nothing. -/
def makeDirectory (store : Store) (parts : List String) : Store :=
  if (store.entry? parts).isSome then store else store.put (pathKey parts) .directory

/-- Takes one step of a path and makes the directory it leads to. -/
def enterNew (state : Store × List String) (step : String) : Store × List String :=
  let (store, directory) := state
  if step = "." then state
  else if step = ".." then (store, parentOf directory)
  else (store.makeDirectory (directory ++ [step]), directory ++ [step])

/-- Puts an entry at a path and makes the directories above it. -/
def install (store : Store) (path : String) (entry : Entry) : Store :=
  let steps := stepsOf path
  let (store, directory) := steps.dropLast.foldl enterNew (store, startOf path)
  match steps.getLast? with
  | none => store
  | some last =>
      if last = "." || last = ".." then store
      else store.put (pathKey (directory ++ [last])) entry

/-- The entries below the working directory. -/
def listing (store : Store) : List (String × Entry) :=
  store.pairs.filter fun pair =>
    !(pair.1.startsWith "/" || (stepsOf pair.1).head? == some "..")

end Store

end SplitDns.Files
