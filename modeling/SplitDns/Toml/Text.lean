import SplitDns.Text.Number
import SplitDns.Toml.Blank

/-!
# Texts and keys in TOML

A text stands in double quotes, with escapes, or in single quotes, as it is. Three quotes on
either side let it run over several lines. A key is a text on one line or a bare word.
-/

namespace SplitDns.Toml

open SplitDns.Text

def hexValue? (digits : List Char) : Option Nat :=
  (digits.mapM hexDigit?).map fun values => values.foldl (fun value digit => value * 16 + digit) 0

/-- The character with a code point in so many hexadecimal digits, and the rest. -/
def codePoint? (count : Nat) (text : List Char) : Option (Char × List Char) :=
  let digits := text.take count
  if digits.length < count then none
  else
    (hexValue? digits).bind fun code =>
      if code.isValidChar then some (Char.ofNat code, text.drop count) else none

/-- The character that the text after a backslash stands for, and the rest. -/
def escape? : List Char → Option (Char × List Char)
  | 'b' :: rest => some ('\x08', rest)
  | 't' :: rest => some ('\t', rest)
  | 'n' :: rest => some ('\n', rest)
  | 'f' :: rest => some ('\x0c', rest)
  | 'r' :: rest => some ('\r', rest)
  | '"' :: rest => some ('"', rest)
  | '\\' :: rest => some ('\\', rest)
  | 'u' :: rest => codePoint? 4 rest
  | 'U' :: rest => codePoint? 8 rest
  | _ => none

/-- Reads up to the closing double quote. -/
def basicRest? (text : List Char) : Option (List Char × List Char) :=
  match text with
  | [] => none
  | '"' :: rest => some ([], rest)
  | '\\' :: rest =>
      (escape? rest).bind fun (character, after) =>
        if after.length ≤ rest.length then
          (basicRest? after).map fun read => (character :: read.1, read.2)
        else none
  | character :: rest =>
      if isVisible character then
        (basicRest? rest).map fun read => (character :: read.1, read.2)
      else none
  termination_by text.length

/-- Reads up to the closing single quote. -/
def literalRest? (text : List Char) : Option (List Char × List Char) :=
  match text.dropWhile fun character => character != '\'' && isVisible character with
  | '\'' :: rest => some (text.takeWhile fun character => character != '\'', rest)
  | _ => none

/-- The text after a backslash that ends a line, without the blanks and lines that follow. -/
def continuation? (text : List Char) : Option (List Char) :=
  (newline? (skipBlanks text)).map skipMargin
where
  skipMargin (text : List Char) : List Char :=
    match newline? (skipBlanks text) with
    | some rest => if rest.length < text.length then skipMargin rest else rest
    | none => skipBlanks text
  termination_by text.length

/--
Reads up to the three closing quotes. One or two quotes more may stand right before them; only
double quotes allow escapes.
-/
def multilineRest? (quote : Char) (text : List Char) : Option (List Char × List Char) :=
  match text with
  | [] => none
  | character :: rest =>
      let go (read after : List Char) : Option (List Char × List Char) :=
        if after.length ≤ rest.length then
          (multilineRest? quote after).map fun others => (read ++ others.1, others.2)
        else none
      if character = quote then
        let run := text.takeWhile (· == quote)
        let after := text.drop run.length
        if run.length < 3 then go run after
        else if run.length ≤ 5 then some (run.drop 3, after)
        else none
      else if character = '\\' ∧ quote = '"' then
        match continuation? rest with
        | some after => go [] after
        | none => (escape? rest).bind fun (character, after) => go [character] after
      else if isVisible character then go [character] rest
      else (newline? text).bind fun after => go ['\n'] after
  termination_by text.length

/-- The text after one line end, if there is one. -/
def dropNewline (text : List Char) : List Char :=
  (newline? text).getD text

/-- Reads a text on one line. -/
def line? : List Char → Option (List Char × List Char)
  | '"' :: rest => basicRest? rest
  | '\'' :: rest => literalRest? rest
  | _ => none

def text? (text : List Char) : Option (List Char × List Char) :=
  match text with
  | '"' :: '"' :: '"' :: rest => multilineRest? '"' (dropNewline rest)
  | '\'' :: '\'' :: '\'' :: rest => multilineRest? '\'' (dropNewline rest)
  | _ => line? text

def isBare (character : Char) : Bool :=
  character.isAlphanum || character == '_' || character == '-'

def keyPart? (text : List Char) : Option (String × List Char) :=
  match line? text with
  | some (part, rest) => some (String.ofList part, rest)
  | none =>
      let part := text.takeWhile isBare
      if part.isEmpty then none else some (String.ofList part, text.drop part.length)

/-- Reads a key: parts with points between them, and blanks around each. -/
def keyParts? (text : List Char) : Option (List String × List Char) :=
  match keyPart? (skipBlanks text) with
  | none => none
  | some (part, rest) =>
      match skipBlanks rest with
      | '.' :: after =>
          if after.length < text.length then
            (keyParts? after).map fun others => (part :: others.1, others.2)
          else none
      | after => some ([part], after)
  termination_by text.length

/-- The most parts of a key, and the most brackets around a value. -/
def depthLimit : Nat := 79

/-- A key: the tables that lead to its place, and its last part. -/
structure Key where
  path : List String
  last : String

/-- Reads a key with at most as many parts as the limit. -/
def key? (text : List Char) : Option (Key × List Char) :=
  match keyParts? text with
  | none => none
  | some (parts, rest) =>
      if depthLimit < parts.length then none
      else parts.getLast?.map fun last => (⟨parts.dropLast, last⟩, rest)

end SplitDns.Toml
