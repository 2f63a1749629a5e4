import SplitDns.Dns.Name
import SplitDns.Files.Store
import SplitDns.Pattern.File

/-!
# Routing by patterns

Every class of names has a list of patterns, loaded from a file. A name belongs to the first class
with a pattern that the name contains; a name without class is routed directly.
-/

namespace SplitDns

inductive Route where
  | direct
  /-- To the class with the given place in the list of classes. -/
  | proxied (index : Nat)
  deriving DecidableEq, Repr

namespace Route

def isProxied : Route → Bool
  | .direct => false
  | .proxied _ => true

def index? : Route → Option Nat
  | .direct => none
  | .proxied index => some index

/-- The name of the route for names without class. -/
def directName : String := "direct"

end Route

namespace Pattern

open SplitDns.Dns
open SplitDns.Files
open SplitDns.Text

/-- A class with its pattern file and the patterns that were loaded from it. -/
structure Class where
  name : String
  path : String
  patterns : List String

/-- The classes, those that come first take precedence. -/
structure Store where
  classes : List Class

namespace Store

/-- The store of classes with their files, with no patterns loaded. -/
def new (sources : List (String × String)) : Store :=
  ⟨sources.map fun source => ⟨source.1, source.2, []⟩⟩

def className (store : Store) : Route → String
  | .direct => Route.directName
  | .proxied index => (store.classes[index]?).elim Route.directName Class.name

def classIndex? (store : Store) (name : String) : Option Nat :=
  store.classes.findIdx? (·.name == name)

def patterns (store : Store) (index : Nat) : List String :=
  (store.classes[index]?).elim [] Class.patterns

/-- Puts in a list for one class; says whether it differs from the old one. -/
def replace (store : Store) (index : Nat) (patterns : List String) : Bool × Store :=
  match store.classes[index]? with
  | none => (false, store)
  | some found =>
      if found.patterns = patterns then (false, store)
      else (true, ⟨store.classes.set index { found with patterns := patterns }⟩)

def firstMatch? (name : List Char) (patterns : List String) : Option String :=
  patterns.find? fun pattern => containsText name pattern.toList

/-- The first class of a list, counted from `index`, with a pattern that a name contains. -/
def firstClass? (name : List Char) (index : Nat) : List Class → Option (Nat × String)
  | [] => none
  | candidate :: rest =>
      match firstMatch? name candidate.patterns with
      | some pattern => some (index, pattern)
      | none => firstClass? name (index + 1) rest

/-- The class of a name and the pattern that decides it. -/
def match? (store : Store) (name : String) : Option (Nat × String) :=
  let name := normalizeChars name.toList
  if name.isEmpty then none else firstClass? name 0 store.classes

def classify (store : Store) (name : String) : Route :=
  match store.match? name with
  | some (index, _) => .proxied index
  | none => .direct

/-- Reads the file of a class again; a file that cannot be read changes nothing. -/
def reloadClass (files : Files.Store) (found : Class) : Class :=
  match files.readText found.path with
  | .ok text => { found with patterns := parse text }
  | .error _ => found

/-- Reads all files again. -/
def reload (store : Store) (files : Files.Store) : Store :=
  ⟨store.classes.map (reloadClass files)⟩

/-- The number of files that can be read. -/
def readable (store : Store) (files : Files.Store) : Nat :=
  store.classes.countP fun found => (files.readText found.path).toBool

end Store

end Pattern

end SplitDns
