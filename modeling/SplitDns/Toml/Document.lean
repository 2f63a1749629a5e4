import SplitDns.Toml.Value

/-!
# TOML documents

A document is a list of sections: pairs before the first header, then a header with its pairs each
time. The header of a table leads to its place from the root; a header in double brackets adds a
table to a list. No table has two headers and no key has two values.
-/

namespace SplitDns.Toml

structure Header where
  key : Key
  /-- The header adds a table to a list. -/
  isElement : Bool

structure Section where
  header : Option Header
  pairs : List (Key × Value)

def header? : List Char → Option (Header × List Char)
  | '[' :: '[' :: text =>
      match key? text with
      | some (key, ']' :: ']' :: rest) => some (⟨key, true⟩, rest)
      | _ => none
  | '[' :: text =>
      match key? text with
      | some (key, ']' :: rest) => some (⟨key, false⟩, rest)
      | _ => none
  | _ => none

/-- A part of a document that takes a line of its own. -/
inductive Statement where
  | header (header : Header)
  | pair (key : Key) (value : Value)

def statement? (text : List Char) : Option (Statement × List Char) :=
  if text.head? = some '[' then
    (header? text).map fun read => (.header read.1, read.2)
  else
    (pair? (value? depthLimit) text).map fun read => (.pair read.1.1 read.1.2, read.2)

/-- Reads statements up to the end of the text. -/
def statements? (text : List Char) : Option (List Statement) :=
  match skipBlanks text with
  | [] => some []
  | '#' :: comment =>
      (lineEnd? ('#' :: comment)).bind fun rest =>
        if rest.length < text.length then statements? rest else none
  | start =>
      match newline? start with
      | some rest => if rest.length < text.length then statements? rest else none
      | none =>
          match statement? start with
          | none => none
          | some (statement, after) =>
              (lineEnd? after).bind fun rest =>
                if rest.length < text.length then
                  (statements? rest).map fun others => statement :: others
                else none
  termination_by text.length

/-- The pairs before the first header, and the sections from there on. -/
def sections : List Statement → List (Key × Value) × List Section
  | [] => ([], [])
  | .pair key value :: rest =>
      let (pairs, others) := sections rest
      ((key, value) :: pairs, others)
  | .header header :: rest =>
      let (pairs, others) := sections rest
      ([], ⟨some header, pairs⟩ :: others)

/-- Adds pairs to the entries of a table. -/
def addPairs? (pairs : List (Key × Value)) (entries : Entries) : Option Entries :=
  pairs.foldlM (fun entries pair => addAlong? pair.1.path pair.1.last pair.2 entries) entries

/-- Changes the entries of the table that a path leads to, and makes the tables that are missing. -/
def changeAt? (path : List String) (change : Entries → Option Entries) (entries : Entries) :
    Option Entries :=
  match path with
  | [] => change entries
  | step :: rest =>
      match entries.lookup step with
      | none =>
          (changeAt? rest change []).map fun inner => entries ++ [(step, .table .passage inner)]
      | some (.table .braces _) => none
      | some (.table origin inner) =>
          (changeAt? rest change inner).map fun inner =>
            replaceEntry step (.table origin inner) entries
      | some (.tables elements) =>
          elements.getLast?.bind fun inner =>
            (changeAt? rest change inner).map fun inner =>
              replaceEntry step (.tables (elements.dropLast ++ [inner])) entries
      | some _ => none

def addTable? (key : String) (pairs : List (Key × Value)) (entries : Entries) : Option Entries :=
  match entries.lookup key with
  | none => (addPairs? pairs []).map fun inner => entries ++ [(key, .table .header inner)]
  | some (.table .passage inner) =>
      (addPairs? pairs inner).map fun inner => replaceEntry key (.table .header inner) entries
  | some _ => none

/-- Adds a table with its pairs to the list under a header. -/
def addElement? (key : String) (pairs : List (Key × Value)) (entries : Entries) :
    Option Entries := do
  let inner ← addPairs? pairs []
  match entries.lookup key with
  | none => return entries ++ [(key, .tables [inner])]
  | some (.tables elements) => return replaceEntry key (.tables (elements ++ [inner])) entries
  | some _ => none

def addSection? (document : Entries) (part : Section) : Option Entries :=
  match part.header with
  | none => addPairs? part.pairs document
  | some header =>
      let add := if header.isElement then addElement? else addTable?
      changeAt? header.key.path (add header.key.last part.pairs) document

/-- The mark that a text may begin with. -/
def byteOrderMark : Char := '\uFEFF'

/-- Reads a document. -/
def parse? (text : String) : Option Entries := do
  let characters := match text.toList with
    | first :: rest => if first = byteOrderMark then rest else first :: rest
    | [] => []
  let (pairs, others) := sections (← statements? characters)
  (⟨none, pairs⟩ :: others).foldlM addSection? []

end SplitDns.Toml
