import SplitDns.Text.Number

/-!
# Texts in JSON

A text stands in quotes. The quote, the backslash and control characters below U+0020 are
escaped, with a short form where there is one. Reading takes every escape, also pairs of
surrogates, and refuses control characters that are not escaped.
-/

namespace SplitDns.Json

open SplitDns.Text

/-- Four hexadecimal digits. -/
def fourDigits (value : Nat) : List Char :=
  let digits := digitsOf 16 value
  List.replicate (4 - digits.length) '0' ++ digits

def escapeChar (character : Char) : List Char :=
  match character with
  | '"' => ['\\', '"']
  | '\\' => ['\\', '\\']
  | '\n' => ['\\', 'n']
  | '\r' => ['\\', 'r']
  | '\t' => ['\\', 't']
  | '\x08' => ['\\', 'b']
  | '\x0c' => ['\\', 'f']
  | _ => if character.toNat < 0x20 then '\\' :: 'u' :: fourDigits character.toNat else [character]

def quote (text : String) : List Char :=
  '"' :: text.toList.flatMap escapeChar ++ ['"']

/-- The character of a one-letter escape. -/
def shortEscape? : Char → Option Char
  | '"' => some '"'
  | '\\' => some '\\'
  | '/' => some '/'
  | 'b' => some '\x08'
  | 'f' => some '\x0c'
  | 'n' => some '\n'
  | 'r' => some '\r'
  | 't' => some '\t'
  | _ => none

/-- Four hexadecimal digits and the rest. -/
def readUnit? : List Char → Option (Nat × List Char)
  | a :: b :: c :: d :: rest => do
      let a ← hexDigit? a
      let b ← hexDigit? b
      let c ← hexDigit? c
      let d ← hexDigit? d
      return (((a * 16 + b) * 16 + c) * 16 + d, rest)
  | _ => none

def isHighUnit (unit : Nat) : Bool :=
  0xD800 ≤ unit && unit < 0xDC00

def isLowUnit (unit : Nat) : Bool :=
  0xDC00 ≤ unit && unit < 0xE000

/-- The lower half of a pair of units, as the escape that follows the upper half. -/
def readLowUnit? : List Char → Option (Nat × List Char)
  | '\\' :: 'u' :: rest => (readUnit? rest).filter fun read => isLowUnit read.1
  | _ => none

/-- The character of one code unit, or of two that form a pair. -/
def readEscapedUnit? (text : List Char) : Option (Char × List Char) :=
  match readUnit? text with
  | none => none
  | some (unit, rest) =>
      if isHighUnit unit then
        (readLowUnit? rest).map fun low =>
          (Char.ofNat (0x10000 + (unit - 0xD800) * 0x400 + (low.1 - 0xDC00)), low.2)
      else if isLowUnit unit then none
      else some (Char.ofNat unit, rest)

theorem length_readUnit? {text : List Char} {read : Nat × List Char}
    (found : readUnit? text = some read) : read.2.length < text.length := by
  unfold readUnit? at found
  split at found
  · simp only [bind, Option.bind, pure] at found
    grind
  · cases found

theorem length_readLowUnit? {text : List Char} {read : Nat × List Char}
    (found : readLowUnit? text = some read) : read.2.length < text.length := by
  unfold readLowUnit? at found
  split at found
  · have shorter := length_readUnit? (Option.filter_eq_some_iff.mp found).1
    simp only [List.length_cons]
    omega
  · cases found

theorem length_readEscapedUnit? {text : List Char} {read : Char × List Char}
    (found : readEscapedUnit? text = some read) : read.2.length < text.length := by
  unfold readEscapedUnit? at found
  split at found
  · cases found
  next unit rest first =>
    have shorter := length_readUnit? first
    split at found
    · obtain ⟨low, second, rfl⟩ := Option.map_eq_some_iff.mp found
      have := length_readLowUnit? second
      simp only at shorter ⊢
      omega
    · split at found
      · cases found
      · cases found
        exact shorter

/-- Reads up to the closing quote. -/
def unquoteRest? : List Char → Option (List Char × List Char)
  | [] => none
  | '"' :: rest => some ([], rest)
  | '\\' :: 'u' :: rest =>
      match found : readEscapedUnit? rest with
      | none => none
      | some (character, after) =>
          have _shorter : after.length < rest.length := length_readEscapedUnit? found
          (unquoteRest? after).map fun read => (character :: read.1, read.2)
  | '\\' :: letter :: rest =>
      (shortEscape? letter).bind fun character =>
        (unquoteRest? rest).map fun read => (character :: read.1, read.2)
  | character :: rest =>
      if character = '\\' || character.toNat < 0x20 then none
      else (unquoteRest? rest).map fun read => (character :: read.1, read.2)
  termination_by text => text.length

/-- Reads a quoted text and gives the rest. -/
def unquote? : List Char → Option (String × List Char)
  | '"' :: rest => (unquoteRest? rest).map fun read => (String.ofList read.1, read.2)
  | _ => none

/-- Removes white space of the format from the start. -/
def skipSpace (text : List Char) : List Char :=
  text.dropWhile fun character =>
    character == ' ' || character == '\n' || character == '\t' || character == '\r'

end SplitDns.Json
