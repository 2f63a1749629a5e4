import SplitDns.Toml.Scalar
import SplitDns.Toml.Text

/-!
# Values in TOML

What a document holds, and how the value of a key is read. A table remembers how it came about,
because that decides where it may still grow: a table in braces never does, a table that only
stands on the way to another one may get a header of its own, and one made by a dotted key may
get more keys.
-/

namespace SplitDns.Toml

/-- How a table came about. -/
inductive Origin where
  | braces
  | header
  /-- On the way of the header of another table. -/
  | passage
  | dotted
  deriving DecidableEq

inductive Value where
  | text (content : String)
  | integer (value : Int)
  | float
  | boolean (value : Bool)
  /-- A date, a time or both. -/
  | moment
  | array (items : List Value)
  | table (origin : Origin) (entries : List (String × Value))
  /-- Tables under equal headers, each with its entries. -/
  | tables (elements : List (List (String × Value)))

abbrev Entries := List (String × Value)

/-- Puts in a value for a key that has one. -/
def replaceEntry (key : String) (value : Value) (entries : Entries) : Entries :=
  entries.map fun entry => if entry.1 = key then (key, value) else entry

/-- Adds an entry under a new key. -/
def addEntry? (key : String) (value : Value) (entries : Entries) : Option Entries :=
  match entries.lookup key with
  | some _ => none
  | none => some (entries ++ [(key, value)])

/--
Adds an entry under a dotted key. The tables on its way have to be open, and the one that gets the
entry made by dotted keys.
-/
def addAlong? (path : List String) (key : String) (value : Value) (entries : Entries) :
    Option Entries :=
  match path with
  | [] => addEntry? key value entries
  | step :: rest =>
      match entries.lookup step with
      | none =>
          (addAlong? rest key value []).map fun inner =>
            entries ++ [(step, .table .dotted inner)]
      | some (.table origin inner) =>
          if origin = .dotted ∨ (origin = .passage ∧ rest ≠ []) then
            (addAlong? rest key value inner).map fun inner =>
              replaceEntry step (.table origin inner) entries
          else none
      | some (.tables elements) =>
          match rest, elements.getLast? with
          | _ :: _, some inner =>
              (addAlong? rest key value inner).map fun inner =>
                replaceEntry step (.tables (elements.dropLast ++ [inner])) entries
          | _, _ => none
      | some _ => none

def isWordChar (character : Char) : Bool :=
  isBare character || character == '+' || character == '.' || character == ':'

/-- The word at the start of a text; one blank may stand between a date and a time. -/
def word (text : List Char) : List Char :=
  let first := text.takeWhile isWordChar
  match text.drop first.length with
  | ' ' :: rest =>
      if isDate first && (rest.head?.map Char.isDigit).getD false then
        first ++ ' ' :: rest.takeWhile isWordChar
      else first
  | _ => first

def wordValue? (word : List Char) : Option Value :=
  if word = ['t', 'r', 'u', 'e'] then some (.boolean true)
  else if word = ['f', 'a', 'l', 's', 'e'] then some (.boolean false)
  else if isMoment word then some .moment
  else
    match integer? word with
    | some value => some (.integer value)
    | none => if isFloat word then some .float else none

def scalar? (text : List Char) : Option (Value × List Char) :=
  match text.head? with
  | some '"' => (text? text).map fun read => (.text (String.ofList read.1), read.2)
  | some '\'' => (text? text).map fun read => (.text (String.ofList read.1), read.2)
  | _ =>
      let found := word text
      (wordValue? found).map fun value => (value, text.drop found.length)

/-- Reads values with commas between them up to the closing bracket; a last comma may follow. -/
def itemsRest? (value? : List Char → Option (Value × List Char)) (text : List Char) :
    Option (List Value × List Char) :=
  match skipLines text with
  | ']' :: rest => some ([], rest)
  | start =>
      match value? start with
      | none => none
      | some (first, after) =>
          match skipLines after with
          | ']' :: rest => some ([first], rest)
          | ',' :: rest =>
              if rest.length < text.length then
                (itemsRest? value? rest).map fun others => (first :: others.1, others.2)
              else none
          | _ => none
  termination_by text.length

/-- Reads a key, an equals sign and a value, with blanks around them. -/
def pair? (value? : List Char → Option (Value × List Char)) (text : List Char) :
    Option ((Key × Value) × List Char) :=
  match key? text with
  | some (key, '=' :: rest) =>
      (value? (skipBlanks rest)).map fun read => ((key, read.1), skipBlanks read.2)
  | _ => none

/-- Reads pairs with commas between them up to the closing brace. -/
def pairsRest? (value? : List Char → Option (Value × List Char)) (entries : Entries)
    (text : List Char) : Option (Entries × List Char) :=
  match pair? value? text with
  | none => none
  | some ((key, value), after) =>
      match addAlong? key.path key.last value entries with
      | none => none
      | some entries =>
          match after with
          | '}' :: rest => some (entries, rest)
          | ',' :: rest =>
              if rest.length < text.length then pairsRest? value? entries rest else none
          | _ => none
  termination_by text.length

/-- Reads a value with at most so many brackets around each other. -/
def value? : Nat → List Char → Option (Value × List Char)
  | 0, text => scalar? text
  | depth + 1, text =>
      match text with
      | '[' :: rest =>
          (itemsRest? (value? depth) rest).map fun read => (.array read.1, read.2)
      | '{' :: rest =>
          match skipBlanks rest with
          | '}' :: rest => some (.table .braces [], rest)
          | _ =>
              (pairsRest? (value? depth) [] rest).map fun read => (.table .braces read.1, read.2)
      | _ => scalar? text

end SplitDns.Toml
