import SplitDns.Text.Search

/-!
# Paths

A path is a list of steps, from the working directory or, after a slash, from the root. A
directory is given by the names that lead to it; above the working directory these are two dots
each, and the root is an empty name.
-/

namespace SplitDns.Files

open SplitDns.Text

/-- The longest name of an entry, in octets. -/
def nameLimit : Nat := 255

/-- The longest path, in octets. -/
def pathLimit : Nat := 4095

def stepsOf (path : String) : List String :=
  ((split '/' path.toList).filter (· ≠ [])).map String.ofList

/-- The steps of a path, without those that stay where they are. -/
def pathParts (path : String) : List String :=
  (stepsOf path).filter (· ≠ ".")

/-- The directory where a path starts. -/
def startOf (path : String) : List String :=
  if path.startsWith "/" then [""] else []

/-- The directory above another one. The root is above itself. -/
def parentOf (directory : List String) : List String :=
  match directory.getLast? with
  | none => [".."]
  | some ".." => directory ++ [".."]
  | some "" => directory
  | some _ => directory.dropLast

/-- A directory above the working directory, or the working directory, or the root. -/
def isOutermost (parts : List String) : Bool :=
  parts.all fun part => part = "" || part = ".."

def pathKey (parts : List String) : String :=
  "/".intercalate parts

theorem parentOf_append (directory : List String) {name : String} (proper : name ≠ "")
    (below : name ≠ "..") : parentOf (directory ++ [name]) = directory := by
  simp [parentOf]

end SplitDns.Files
