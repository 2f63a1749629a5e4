/-!
# Space between the parts of a TOML text

Blanks are spaces and tabs. A line ends with a line feed, which a carriage return may precede; a
carriage return elsewhere is malformed. A comment runs from a number sign to the end of its line
and holds no control characters except tabs.
-/

namespace SplitDns.Toml

def isBlank (character : Char) : Bool :=
  character == ' ' || character == '\t'

/-- Characters that may stand for themselves in texts and comments: all but most controls. -/
def isVisible (character : Char) : Bool :=
  isBlank character || (0x20 < character.toNat && character.toNat != 0x7F)

def skipBlanks (text : List Char) : List Char :=
  text.dropWhile isBlank

/-- The text after a line feed, with a carriage return before it or not. -/
def newline? : List Char → Option (List Char)
  | '\n' :: rest => some rest
  | '\r' :: '\n' :: rest => some rest
  | _ => none

/-- The text after a comment, if one begins here. -/
def skipComment : List Char → List Char
  | '#' :: rest => rest.dropWhile isVisible
  | text => text

/-- The text after what may follow a statement on its line. -/
def lineEnd? (text : List Char) : Option (List Char) :=
  match skipComment (skipBlanks text) with
  | [] => some []
  | rest => newline? rest

/-- The text after blanks, comments and line ends; a comment has to end its line. -/
def skipLines (text : List Char) : List Char :=
  match newline? (skipComment (skipBlanks text)) with
  | some rest => if rest.length < text.length then skipLines rest else rest
  | none => skipBlanks text
  termination_by text.length

end SplitDns.Toml
