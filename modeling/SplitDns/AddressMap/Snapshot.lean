import SplitDns.AddressMap.Basic
import SplitDns.Files.Replace
import SplitDns.Json.Text
import SplitDns.Text.LowerCase

/-!
# Snapshots

The address map as a JSON text: one object whose members are lists of texts, two blanks for every
level. Reading takes every JSON text of that shape; of members with one name the last counts. A
map is loaded from a file as far as the file can be read.
-/

namespace SplitDns.Snapshot

open SplitDns.Files
open SplitDns.Json
open SplitDns.Text

/-- Items in lines of their own between two brackets. -/
def block (opening closing : Char) (indent : Nat) (items : List (List Char)) : List Char :=
  if items.isEmpty then [opening, closing]
  else
    let margin (depth : Nat) := '\n' :: List.replicate (2 * depth) ' '
    [opening] ++ join [','] (items.map (margin (indent + 1) ++ ·)) ++ margin indent ++ [closing]

def memberText (pair : String × List String) : List Char :=
  quote pair.1 ++ [':', ' '] ++ block '[' ']' 1 (pair.2.map quote)

def toJson (snapshot : Snapshot) : String :=
  String.ofList (block '{' '}' 0 (snapshot.pairs.map memberText))

/-- Reads items with commas between them up to a closing bracket. -/
def items? {Item : Type} (item : List Char → Option (Item × List Char)) (closing : Char)
    (text : List Char) : Option (List Item × List Char) :=
  match item (skipSpace text) with
  | none => none
  | some (first, rest) =>
      match skipSpace rest with
      | [] => none
      | character :: rest =>
          if character = closing then some ([first], rest)
          else if character = ',' ∧ rest.length < text.length then
            (items? item closing rest).map fun others => (first :: others.1, others.2)
          else none
  termination_by text.length

/-- Reads a bracketed list of items, which may be empty. -/
def list? {Item : Type} (item : List Char → Option (Item × List Char)) (opening closing : Char)
    (text : List Char) : Option (List Item × List Char) :=
  match text with
  | [] => none
  | character :: rest =>
      if character = opening then
        match skipSpace rest with
        | [] => none
        | next :: after =>
            if next = closing then some ([], after) else items? item closing rest
      else none

def member? (text : List Char) : Option ((String × List String) × List Char) := do
  let (name, rest) ← unquote? text
  match skipSpace rest with
  | ':' :: rest =>
      let (addresses, rest) ← list? unquote? '[' ']' (skipSpace rest)
      return ((name, addresses), rest)
  | _ => none

def ofJson? (text : String) : Option Snapshot := do
  let (members, rest) ← list? member? '{' '}' (skipSpace text.toList)
  if (skipSpace rest).isEmpty then return .ofList members else none

/-- Why a snapshot file could not be read. -/
inductive ReadError where
  | io (cause : IoError)
  | malformed
  deriving DecidableEq

def read (store : Store) (path : String) : Except ReadError Snapshot := do
  let text ← (store.readText path).mapError .io
  match ofJson? text with
  | some snapshot => .ok snapshot
  | none => .error .malformed

/-- The pattern as it is looked for in names. -/
def searchText (pattern : String) : List Char :=
  lowerCase (trim pattern.toList)

/-- The entries whose name contains a pattern, in the order of names. -/
def matching (snapshot : Snapshot) (pattern : String) : List (String × List String) :=
  let wanted := searchText pattern
  snapshot.pairs.filter fun pair => !wanted.isEmpty && containsText pair.1.toList wanted

/-- Puts a text into a list of texts in order, unless it is there. -/
def insertText (text : String) : List String → List String
  | [] => [text]
  | other :: rest =>
      if text < other then text :: other :: rest
      else if text = other then other :: rest
      else other :: insertText text rest

/-- The addresses of all names that contain a pattern, each once and in order. -/
def addressesMatching (snapshot : Snapshot) (pattern : String) : List String :=
  ((snapshot.matching pattern).flatMap Prod.snd).foldl (fun texts text => insertText text texts) []

end SplitDns.Snapshot

namespace SplitDns.AddressMap

open SplitDns.Files

/-- The map of a snapshot file; a file that cannot be read gives the empty map. -/
def load (store : Store) (path : String) : AddressMap :=
  match Snapshot.read store path with
  | .ok snapshot => ofSnapshot snapshot
  | .error _ => empty

/-- Writes the map to a snapshot file. -/
def save [Caller] (map : AddressMap) (store : Store) (path : String) :
    Except IoError Unit × Store :=
  store.replaceText path map.snapshot.toJson

end SplitDns.AddressMap
