import SplitDns.Audit.Location
import SplitDns.Audit.Log
import SplitDns.Files.Store

/-!
# Audit databases

Tables that outlive the program, by the file they are in. Opening one that does not exist creates
it, unless its name forbids that; a directory, and a file that holds something else, cannot be
opened. A database without a file is gone once it is closed.
-/

namespace SplitDns.Audit

open SplitDns.Files

/-- The tables of the database files by their keys in the file store. -/
abbrev Databases := SortedMap Table

/-- Where the table of a database lives. -/
inductive Place where
  | file (key : String)
  | memory
  deriving DecidableEq

/-- An open database. -/
structure Handle where
  place : Place
  writable : Bool
  deriving DecidableEq

/-- What the names of the files beside a database add to its own name, in octets. -/
def sideNameSize : Nat := 8

/-- A file of so many octets holds no database yet. -/
def isBlankFile (content : ByteArray) : Bool :=
  content.size ≤ 1

namespace Databases

/-- Whether the names lead to a file. -/
def isFile (databases : Databases) (files : Store) (parts : List String) : Bool :=
  databases.contains (pathKey parts) ||
    match files.entry? parts with
    | some (.file _) => true
    | _ => false

/--
Follows the steps of a path to a database. Two dots take back the name before them, whether there
is such a directory or not.
-/
def follow? (databases : Databases) (files : Store) (directory : List String) :
    List String → Option (List String)
  | [] => some directory
  | step :: rest =>
      if step = "." then databases.follow? files directory rest
      else if step = ".." then databases.follow? files (parentOf directory) rest
      else if databases.isFile files directory || nameLimit < step.utf8ByteSize then none
      else databases.follow? files (directory ++ [step]) rest

/-- The names that lead to the file of a database, in a directory that exists. -/
def locate? (databases : Databases) (files : Store) (path : String) : Option (List String) := do
  let parts ← databases.follow? files (startOf path) (stepsOf path)
  let name ← parts.getLast?
  if isOutermost parts || nameLimit < name.utf8ByteSize + sideNameSize then none
  else if files.entry? parts.dropLast = some .directory then some parts
  else none

/-- Whether a database can be opened where there was none. -/
def isFree (files : Store) (parts : List String) (access : Access) : Bool :=
  match files.entry? parts with
  | none => access == .create
  | some .directory => false
  | some (.file content) => access != .readOnly && isBlankFile content

/-- Finds a database that can be opened. -/
def handle? (databases : Databases) (files : Store) (name : String) : Option Handle := do
  let location ← Location.ofName? name
  let writable := location.access != .readOnly
  if location.inMemory then
    if writable then some ⟨.memory, true⟩ else none
  else
    let parts ← databases.locate? files location.path
    let key := pathKey parts
    if databases.contains key || isFree files parts location.access then some ⟨.file key, writable⟩
    else none

def table (databases : Databases) : Place → Table
  | .memory => .empty
  | .file key => (databases.find? key).getD .empty

def keep (databases : Databases) (place : Place) (table : Table) : Databases :=
  match place with
  | .memory => databases
  | .file key => databases.put key table

/-- Opens a database, and creates it if need be. -/
def open? (databases : Databases) (files : Store) (name : String) :
    Option (Handle × Databases) :=
  (databases.handle? files name).map fun handle =>
    (handle, databases.keep handle.place (databases.table handle.place))

/-- The last rows of a database, the newest first; `none` if it cannot be opened. -/
def recent? (databases : Databases) (files : Store) (name : String) (limit : Nat) :
    Option (List Row × Databases) :=
  (databases.open? files name).map fun opened =>
    ((opened.2.table opened.1.place).recent limit, opened.2)

end Databases

end SplitDns.Audit
