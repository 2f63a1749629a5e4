/-!
# Numbers in text

Reading a natural number below a bound, with the cause when that fails, and the digits of a
number in a base.
-/

namespace SplitDns.Text

/-- Why a text is not a number in range. -/
inductive NumberError where
  | empty
  | badDigit
  | tooLarge
  deriving DecidableEq, Repr

def NumberError.message : NumberError → String
  | .empty => "cannot parse integer from empty string"
  | .badDigit => "invalid digit found in string"
  | .tooLarge => "number too large to fit in target type"

def decimalDigit? (character : Char) : Option Nat :=
  if character.isDigit then some (character.toNat - '0'.toNat) else none

/-- The value of a hexadecimal digit of either case. -/
def hexDigit? (character : Char) : Option Nat :=
  if character.isDigit then some (character.toNat - '0'.toNat)
  else if 'a' ≤ character && character ≤ 'f' then some (character.toNat - 'a'.toNat + 10)
  else if 'A' ≤ character && character ≤ 'F' then some (character.toNat - 'A'.toNat + 10)
  else none

/--
Reads digits after the value read so far. The first character that is no digit, or that takes the
value past the limit, decides the error.
-/
def readDigits (limit : Nat) (value : Nat) : List Char → Except NumberError Nat
  | [] => .ok value
  | character :: rest =>
      match decimalDigit? character with
      | none => .error .badDigit
      | some digit =>
          if limit < value * 10 + digit then .error .tooLarge
          else readDigits limit (value * 10 + digit) rest

/-- Reads a decimal number up to `limit`; one plus sign may stand before the digits. -/
def readNumber (limit : Nat) : List Char → Except NumberError Nat
  | [] => .error .empty
  | '+' :: [] => .error .badDigit
  | '+' :: digits => readDigits limit 0 digits
  | digits => readDigits limit 0 digits

/-- Reads a decimal number up to `limit`, written with digits only. -/
def digits? (limit : Nat) (text : List Char) : Option Nat :=
  if text.isEmpty then none else (readDigits limit 0 text).toOption

theorem readDigits_le {limit value : Nat} {text : List Char} {result : Nat}
    (bounded : value ≤ limit) (read : readDigits limit value text = .ok result) :
    result ≤ limit := by
  induction text generalizing value with
  | nil =>
      simp only [readDigits, Except.ok.injEq] at read
      omega
  | cons character rest inductionHypothesis =>
      unfold readDigits at read
      split at read
      · cases read
      · split at read
        · cases read
        · exact inductionHypothesis (by omega) read

/-- The digits of a number in lower case, without leading zeros. -/
def digitsOf (base value : Nat) : List Char :=
  Nat.toDigits base value

/-- The decimal text of a number. -/
def decimal (value : Nat) : String :=
  String.ofList (digitsOf 10 value)

end SplitDns.Text
