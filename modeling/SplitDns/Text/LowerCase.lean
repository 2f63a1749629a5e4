import SplitDns.Text.CaseTable
import SplitDns.Text.CodeRanges

/-!
# Lower case

The full lower-case form of a text: one character may become two, and a sigma at the end of a
word has a form of its own. `asciiLower` changes the letters A to Z only.
-/

namespace SplitDns.Text

/-- Changes the letters A to Z and nothing else. -/
def asciiLower (text : List Char) : List Char :=
  text.map Char.toLower

/-- The code point that a run assigns to `code`, if it covers it. -/
def CaseRun.lower? (run : CaseRun) (code : Nat) : Option Nat :=
  if run.first ≤ code && code ≤ run.last && (code - run.first) % run.step == 0 then
    some (run.target + (code - run.first))
  else
    none

/-- The lower-case form of a character that stands alone. -/
def lowerChar (character : Char) : List Char :=
  if character.toNat < 128 then [character.toLower]
  else if character.toNat = 0x130 then ['i', Char.ofNat 0x307]
  else
    match lowerCaseRuns.findSome? (·.lower? character.toNat) with
    | some code => [Char.ofNat code]
    | none => [character]

/-- Whether the first character that is not case-ignorable is cased. -/
def casedNext (text : List Char) : Bool :=
  match text.dropWhile (inRanges caseIgnorableRanges) with
  | [] => false
  | character :: _ => inRanges casedRanges character

/--
Lower-cases a text whose preceding characters, nearest first, are `before`. A capital sigma ends
a word when a cased character stands before it and none after it.
-/
def lowerFrom (before : List Char) : List Char → List Char
  | [] => []
  | character :: rest =>
      let lowered :=
        if character = 'Σ' then
          if casedNext before && !casedNext rest then ['ς'] else ['σ']
        else
          lowerChar character
      lowered ++ lowerFrom (character :: before) rest

/-- The full lower-case form of a text. -/
def lowerCase (text : List Char) : List Char :=
  lowerFrom [] text

end SplitDns.Text
