import SplitDns.Text.Blank
import SplitDns.Text.Lines
import SplitDns.Text.LowerCase
import SplitDns.Text.Search

/-!
# Pattern files

A pattern file holds one pattern per line. Blank space around it and letter case do not matter,
empty lines and lines that begin with a number sign hold none, and of equal patterns the first
counts.
-/

namespace SplitDns.Pattern

open SplitDns.Text

/-- The pattern of a line, or of a text that an administrator gives. -/
def canonical (text : List Char) : List Char :=
  lowerCase (trim text)

/-- The pattern that a line holds, if it holds one. -/
def ofLine? (line : List Char) : Option (List Char) :=
  match trim line with
  | [] => none
  | '#' :: _ => none
  | text => some (lowerCase text)

/-- Keeps the first of equal items. -/
def distinct (items : List (List Char)) : List (List Char) :=
  items.foldl (fun kept item => if kept.contains item then kept else kept ++ [item]) []

def parseChars (text : List Char) : List (List Char) :=
  distinct ((lines text).filterMap ofLine?)

/-- The patterns of a file in file order. -/
def parse (text : String) : List String :=
  (parseChars text.toList).map String.ofList

/-- Why a text cannot be a pattern. -/
inductive Problem where
  | empty
  | comment (pattern : String)
  | blank (pattern : String)
  deriving DecidableEq

def Problem.message : Problem → String
  | .empty => "pattern is empty"
  | .comment pattern => s!"'{pattern}' would be read as a comment"
  | .blank pattern => s!"'{pattern}' contains whitespace"

/-- The canonical form of a pattern that a file can hold. -/
def normalize (text : String) : Except Problem String :=
  let pattern := canonical text.toList
  if pattern.isEmpty then .error .empty
  else if pattern.head? = some '#' then .error (.comment (String.ofList pattern))
  else if pattern.any isBlank then .error (.blank (String.ofList pattern))
  else .ok (String.ofList pattern)

/-- The text with a line for the pattern at its end; `none` if the pattern is there. -/
def appended? (text pattern : List Char) : Option (List Char) :=
  if (parseChars text).contains pattern then none
  else
    let text := if text.isEmpty || text.getLast? = some '\n' then text else text ++ ['\n']
    some (text ++ pattern ++ ['\n'])

/-- The text without the lines that hold the pattern; `none` if there is none. -/
def removed? (text pattern : List Char) : Option (List Char) :=
  let all := lines text
  let kept := all.filter fun line => canonical line ≠ pattern
  if kept.length = all.length then none else some (kept.flatMap (· ++ ['\n']))

end SplitDns.Pattern
