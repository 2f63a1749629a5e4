import SplitDns.Text.Number
import SplitDns.Text.Search

/-!
# Numbers and times in TOML

Whole words for integers, floating-point numbers, dates and times. Integers fit in 64 bits with
sign. A positive number that is too large for a double is malformed.
-/

namespace SplitDns.Toml

open SplitDns.Text

/-- Digits with single underscores between them. -/
def grouped? (isDigit : Char → Bool) (text : List Char) : Option (List Char) :=
  let groups := split '_' text
  if groups.all fun group => !group.isEmpty && group.all isDigit then some groups.flatten else none

/-- Decimal digits without a leading zero. -/
def plainDigits? (text : List Char) : Option (List Char) :=
  if text.head? = some '0' ∧ text.length ≠ 1 then none else grouped? Char.isDigit text

/-- A sign, if there is one: whether it is negative, and the rest. -/
def cutSign : List Char → Bool × List Char
  | '-' :: rest => (true, rest)
  | '+' :: rest => (false, rest)
  | text => (false, text)

def valueOf (base : Nat) (digits : List Char) : Nat :=
  digits.foldl (fun value digit => value * base + (hexDigit? digit).getD 0) 0

def isOctal (character : Char) : Bool :=
  '0' ≤ character && character ≤ '7'

def isBinary (character : Char) : Bool :=
  character == '0' || character == '1'

def isHex (character : Char) : Bool :=
  (hexDigit? character).isSome

/-- The digits of an unsigned integer with its base. -/
def unsigned? : List Char → Option Nat
  | '0' :: 'x' :: digits => (grouped? isHex digits).map (valueOf 16)
  | '0' :: 'o' :: digits => (grouped? isOctal digits).map (valueOf 8)
  | '0' :: 'b' :: digits => (grouped? isBinary digits).map (valueOf 2)
  | _ => none

def maxInteger : Int := 9223372036854775807

def minInteger : Int := -9223372036854775808

def integer? (word : List Char) : Option Int :=
  let signed := cutSign word
  let value := match unsigned? word with
    | some value => some (value : Int)
    | none =>
        (plainDigits? signed.2).map fun digits =>
          if signed.1 then -(valueOf 10 digits : Int) else valueOf 10 digits
  value.filter fun value => minInteger ≤ value && value ≤ maxInteger

/-- Sign, digits before and after the point, and exponent of a floating-point number. -/
structure Decimal where
  negative : Bool
  whole : List Char
  fraction : List Char
  exponent : Int

/-- The exponent of a number, in the text after its letter. -/
def exponent? (text : List Char) : Option Int :=
  let signed := cutSign text
  (grouped? Char.isDigit signed.2).map fun digits =>
    if signed.1 then -(valueOf 10 digits : Int) else valueOf 10 digits

def isExponentMark (character : Char) : Bool :=
  character == 'e' || character == 'E'

/-- What stands before and after the exponent mark. -/
def cutExponent (text : List Char) : List Char × Option (List Char) :=
  match text.dropWhile fun character => !isExponentMark character with
  | [] => (text, none)
  | _ :: rest => (text.takeWhile fun character => !isExponentMark character, some rest)

/-- Reads a number with a fraction, an exponent or both. -/
def decimal? (word : List Char) : Option Decimal := do
  let (negative, text) := cutSign word
  let (mantissa, mark) := cutExponent text
  let exponent ← match mark with
    | some text => exponent? text
    | none => some 0
  match cutFirst? '.' mantissa with
  | some (whole, fraction) =>
      return ⟨negative, ← plainDigits? whole, ← grouped? Char.isDigit fraction, exponent⟩
  | none =>
      if mark.isSome then return ⟨negative, ← plainDigits? mantissa, [], exponent⟩ else none

/-- The least number that rounds to a double beyond all finite ones. -/
def overflowBound : Nat := (1 <<< 1024) - (1 <<< 970)

/-- Whether the size of the number is at least the bound. -/
def Decimal.overflows (number : Decimal) : Bool :=
  let digits := (number.whole ++ number.fraction).dropWhile (· == '0')
  let scale : Int := number.exponent - number.fraction.length
  let magnitude : Int := digits.length + scale
  if digits.isEmpty || magnitude < 309 then false
  else if 309 < magnitude then true
  else
    overflowBound * Nat.pow 10 (-scale).toNat ≤ valueOf 10 digits * Nat.pow 10 scale.toNat

def isFloat (word : List Char) : Bool :=
  match decimal? word with
  | some number => number.negative || !number.overflows
  | none =>
      let name := (cutSign word).2
      name == ['i', 'n', 'f'] || name == ['n', 'a', 'n']

/-- The value of two digits in a range. -/
def twoDigits? (low high : Nat) (tens ones : Char) : Option Nat := do
  let value := (← decimalDigit? tens) * 10 + (← decimalDigit? ones)
  if low ≤ value && value ≤ high then some value else none

def daysIn (year month : Nat) : Nat :=
  if month = 2 then
    if year % 4 = 0 ∧ (year % 100 ≠ 0 ∨ year % 400 = 0) then 29 else 28
  else if month = 4 ∨ month = 6 ∨ month = 9 ∨ month = 11 then 30
  else 31

def isDate : List Char → Bool
  | [a, b, c, d, '-', e, f, '-', g, h] =>
      match twoDigits? 0 99 a b, twoDigits? 0 99 c d, twoDigits? 1 12 e f with
      | some century, some year, some month =>
          (twoDigits? 1 (daysIn (century * 100 + year) month) g h).isSome
      | _, _, _ => false
  | _ => false

/-- The text after a time of day. -/
def afterTime? : List Char → Option (List Char)
  | a :: b :: ':' :: c :: d :: ':' :: e :: f :: rest => do
      let _ ← twoDigits? 0 23 a b
      let _ ← twoDigits? 0 59 c d
      let _ ← twoDigits? 0 60 e f
      match rest with
      | '.' :: digits =>
          if (digits.head?.map Char.isDigit).getD false then some (digits.dropWhile Char.isDigit)
          else none
      | _ => some rest
  | _ => none

def isOffset : List Char → Bool
  | [] => true
  | ['Z'] => true
  | ['z'] => true
  | [sign, a, b, ':', c, d] =>
      (sign == '+' || sign == '-') && (twoDigits? 0 23 a b).isSome && (twoDigits? 0 59 c d).isSome
  | _ => false

def isTime (word : List Char) : Bool :=
  afterTime? word == some []

/-- A date, a time, or both with an offset or without. -/
def isMoment (word : List Char) : Bool :=
  isTime word ||
    (isDate (word.take 10) &&
      match word.drop 10 with
      | [] => true
      | mark :: time =>
          (mark == 'T' || mark == 't' || mark == ' ') && (afterTime? time).any isOffset)

end SplitDns.Toml
