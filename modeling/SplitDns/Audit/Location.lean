import SplitDns.Text.LowerCase
import SplitDns.Text.Percent
import SplitDns.Text.Search
import SplitDns.Text.Utf8

/-!
# Naming a database

A database is named by the path of its file, or by a URI of the scheme `file` with options that
narrow down how it is opened. Some names are for a database in memory.
-/

namespace SplitDns.Audit

open SplitDns.Text

/-- How a database is opened. -/
inductive Access where
  | readOnly
  /-- For writing too, if it exists. -/
  | existing
  | create
  /-- Without a file. -/
  | memory
  deriving DecidableEq

def Access.ofName? : String → Option Access
  | "ro" => some .readOnly
  | "rw" => some .existing
  | "rwc" => some .create
  | "memory" => some .memory
  | _ => none

/-- How much an access permits. -/
def Access.rank : Access → Nat
  | .readOnly => 1
  | .existing => 2
  | .create => 3
  | .memory => 4

/-- An access in place of another one, which must not permit less. -/
def Access.narrow? (access wanted : Access) : Option Access :=
  if wanted = .memory || wanted.rank ≤ access.rank then some wanted else none

/-- A named database. -/
structure Location where
  path : String
  access : Access
  /-- There is no file behind the name. -/
  inMemory : Bool
  deriving DecidableEq

/-- The parts of a URI after the scheme. -/
structure Uri where
  path : String
  /-- The options with their values, in order. -/
  options : List (String × String)

/-- A part of a URI without its escapes. An escaped zero ends it. -/
def unescaped (part : List Char) : String :=
  String.ofList (lossyUtf8 ((percentOctets part).takeWhile (· ≠ 0)))

/-- The option that a part of a query sets; one without a name sets none. -/
def optionOf? (part : List Char) : Option (String × String) :=
  let (name, value) := (cutFirst? '=' part).getD (part, [])
  if unescaped name = "" then none else some (unescaped name, unescaped value)

/-- Drops an authority, which must be empty or the local host. -/
def dropAuthority? : List Char → Option (List Char)
  | '/' :: '/' :: rest =>
      let authority := rest.takeWhile (· ≠ '/')
      if authority = [] || authority = "localhost".toList then some (rest.dropWhile (· ≠ '/'))
      else none
  | text => some text

/-- Reads what stands after the scheme. -/
def Uri.ofText? (text : List Char) : Option Uri := do
  let text ← dropAuthority? text
  let text := text.takeWhile (· ≠ '#')
  match cutFirst? '?' text with
  | none => some ⟨unescaped text, []⟩
  | some (path, query) => some ⟨unescaped path, (split '&' query).filterMap optionOf?⟩

/-- The ways of access to files, the usual one first. -/
def fileSystems : List String :=
  ["unix", "unix-none", "unix-dotfile", "unix-excl"]

/-- The store of databases that have no file. -/
def memorySystem : String := "memdb"

/-- A value that switches an option on. -/
def isOn (value : String) : Bool :=
  let digits := value.toList.takeWhile Char.isDigit
  if digits = [] then
    ["on", "yes", "true"].contains (String.ofList (asciiLower value.toList))
  else
    ((readNumber 0x7FFFFFFF digits).toOption.getD 0) % 256 != 0

/-- The access that the options of a URI lead to, starting from the widest. -/
def Uri.access? (uri : Uri) : Option Access :=
  uri.options.foldlM (fun access option =>
    match option.1 with
    | "mode" => (Access.ofName? option.2).bind access.narrow?
    | "cache" => if option.2 = "shared" || option.2 = "private" then some access else none
    | _ => some access) .create

/-- The store that the last option for it chooses. -/
def Uri.system (uri : Uri) : String :=
  (uri.options.reverse.lookup "vfs").getD "unix"

namespace Location

/-- Paths that stand for a database in memory. -/
def isMemoryPath (path : String) : Bool :=
  path == "" || path == ":memory:"

/-- A database that a URI names. -/
def ofUri? (uri : Uri) : Option Location := do
  let access ← uri.access?
  let access := if ((uri.options.lookup "immutable").map isOn).getD false && access != .memory
    then .readOnly else access
  if uri.system = memorySystem then some ⟨uri.path, access, true⟩
  else if fileSystems.contains uri.system then
    some ⟨uri.path, access, access == .memory || isMemoryPath uri.path⟩
  else none

/-- The database with a name; there are names that no database can have. -/
def ofName? (name : String) : Option Location :=
  if name.toList.contains '\x00' then none
  else
    match name.toList with
    | 'f' :: 'i' :: 'l' :: 'e' :: ':' :: rest => (Uri.ofText? rest).bind ofUri?
    | _ => some ⟨name, .create, isMemoryPath name⟩

end Location

end SplitDns.Audit
