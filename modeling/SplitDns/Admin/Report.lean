import SplitDns.Admin.Files
import SplitDns.Pattern.Store

/-!
# Listing and looking up

What patterns the classes have and how many addresses each has covered, and for the names that
contain a pattern: the class they belong to now, and the classes whose sets hold their addresses.
Every address is looked up once.
-/

namespace SplitDns.Admin

open SplitDns.Address
open SplitDns.AddressSet

variable {Sets : Type}

/-- A pattern with the number of addresses that it has covered. -/
structure PatternEntry where
  pattern : String
  addresses : Nat
  deriving DecidableEq, Repr

structure ClassListing where
  className : String
  patterns : List PatternEntry
  deriving DecidableEq, Repr

def listClass (snapshot : Snapshot) (files : Files.Store) (settings : ClassSettings) :
    Except Error ClassListing := do
  let text ← patternText files settings.patterns
  return ⟨settings.name, (Pattern.parse text).map fun pattern =>
    ⟨pattern, (snapshot.addressesMatching pattern).length⟩⟩

/-- The patterns of all classes. -/
def Domain.list (domain : Domain) (files : Files.Store) : Except Error (List ClassListing) := do
  let snapshot ← domain.snapshot files
  domain.classes.mapM (listClass snapshot files)

/-- An address with the names of the classes whose sets hold it. -/
structure AddressEntry where
  address : String
  memberOf : List String
  deriving DecidableEq, Repr

structure NameEntry where
  name : String
  /-- The class that the name belongs to now. -/
  className : String
  addresses : List AddressEntry
  deriving DecidableEq, Repr

/-- Asks the sets of classes for an address. A set that cannot be asked counts as not having it. -/
def holders (backend : Backend Sets) (address : Ip) (classes : List ClassSettings) (sets : Sets) :
    List String × Sets :=
  match classes with
  | [] => ([], sets)
  | settings :: rest =>
      let (result, sets) := backend.test settings.set address sets
      let (names, sets) := holders backend address rest sets
      (if result matches .ok true then settings.name :: names else names, sets)

/-- The classes whose sets hold the address that a text gives. -/
def memberOf (backend : Backend Sets) (classes : List ClassSettings) (text : String)
    (sets : Sets) : List String × Sets :=
  match Ip.parse? text.toList with
  | some address => holders backend address classes sets
  | none => ([], sets)

/-- What was found out about addresses so far. -/
abbrev Membership := SortedMap (List String)

/-- The entry of an address, from what was found out before if possible. -/
def addressEntry (backend : Backend Sets) (classes : List ClassSettings) (text : String)
    (known : Membership) (sets : Sets) : AddressEntry × Membership × Sets :=
  match known.find? text with
  | some names => (⟨text, names⟩, known, sets)
  | none =>
      let (names, sets) := memberOf backend classes text sets
      (⟨text, names⟩, known.put text names, sets)

def addressEntries (backend : Backend Sets) (classes : List ClassSettings) (texts : List String)
    (known : Membership) (sets : Sets) : List AddressEntry × Membership × Sets :=
  match texts with
  | [] => ([], known, sets)
  | text :: rest =>
      let (entry, known, sets) := addressEntry backend classes text known sets
      let (others, known, sets) := addressEntries backend classes rest known sets
      (entry :: others, known, sets)

def nameEntries (backend : Backend Sets) (classes : List ClassSettings) (store : Pattern.Store)
    (pairs : List (String × List String)) (known : Membership) (sets : Sets) :
    List NameEntry × Sets :=
  match pairs with
  | [] => ([], sets)
  | pair :: rest =>
      let (addresses, known, sets) := addressEntries backend classes pair.2 known sets
      let (others, sets) := nameEntries backend classes store rest known sets
      (⟨pair.1, store.className (store.classify pair.1), addresses⟩ :: others, sets)

/-- The classes with the patterns that their files hold now. -/
def Domain.patternStore (domain : Domain) (files : Files.Store) : Pattern.Store :=
  (Pattern.Store.new (domain.classes.map fun settings => (settings.name, settings.patterns))).reload
    files

/-- All recorded names that contain a pattern. -/
def Domain.lookup (domain : Domain) (backend : Backend Sets) (pattern : String) (sets : Sets)
    (files : Files.Store) : Except Error (List NameEntry) × Sets :=
  match (Pattern.normalize pattern).mapError Error.pattern with
  | .error error => (.error error, sets)
  | .ok pattern =>
      match domain.snapshot files with
      | .error error => (.error error, sets)
      | .ok snapshot =>
          let (entries, sets) := nameEntries backend domain.classes (domain.patternStore files)
            (snapshot.matching pattern) .empty sets
          (.ok entries, sets)

end SplitDns.Admin
