import SplitDns.Error
import SplitDns.Text.Number

/-!
# Reporting errors

A command that fails says what it tried and then why, one cause a line, numbered when there are
several.
-/

namespace SplitDns.CommandLine

open SplitDns.Text

/-- What an error of an exchange came from, the nearest cause first. -/
def exchangeCauses : Exchange.Error → List String
  | .io cause => [cause.message]
  | _ => []

def setCauses : AddressSet.Error → List String
  | .spawn cause => [cause.message]
  | _ => []

/-- What an error came from, the nearest cause first. -/
def causes : Error → List String
  | .configSyntax => ["malformed document"]
  | .io cause => [cause.message]
  | .snapshotSyntax => ["malformed snapshot"]
  | .exchange cause => cause.message :: exchangeCauses cause
  | .set cause => cause.message :: setCauses cause
  | .audit => ["unusable database"]
  | _ => []

/-- A failed command: what it tried, and what came in between. -/
structure Failure where
  summary : String
  causes : List String
  deriving DecidableEq, Repr

def Failure.of (summary : String) (error : Error) : Failure :=
  ⟨summary, error.message :: CommandLine.causes error⟩

/-- The text with a margin at the start of every line but the first. -/
def indented (margin : List Char) (text : String) : List Char :=
  text.toList.flatMap fun character => if character = '\n' then '\n' :: margin else [character]

def blanks (count : Nat) : List Char :=
  List.replicate count ' '

/-- A cause with its number, which ends in the fifth column. -/
def numberedCause (number : Nat) (text : String) : List Char :=
  let digits := digitsOf 10 number
  '\n' :: blanks (5 - digits.length) ++ digits ++ [':', ' '] ++ indented (blanks 7) text

def causeLines : List String → List Char
  | [] => []
  | [cause] => "\n\nCaused by:\n".toList ++ blanks 4 ++ indented (blanks 4) cause
  | causes =>
      "\n\nCaused by:".toList ++
        (causes.zipIdx.flatMap fun pair => numberedCause pair.2 pair.1)

def Failure.report (failure : Failure) : String :=
  "Error: " ++ failure.summary ++ String.ofList (causeLines failure.causes) ++ "\n"

end SplitDns.CommandLine
