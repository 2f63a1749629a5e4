import SplitDns.Admin.Files
import SplitDns.Persist.Snapshots

/-!
# Editing patterns

A pattern is routed to one class or no longer. The address sets follow: the addresses that were
ever seen for names with the pattern move into the set of the class, or out of it. Failures of
single set operations are counted; when a set changed, the sets are saved.
-/

namespace SplitDns.Admin

open SplitDns.Address
open SplitDns.AddressSet

variable {Sets : Type}

/-- The outcomes of set operations. -/
structure Tally where
  added : Nat
  removed : Nat
  failed : Nat
  deriving DecidableEq, Repr

def Tally.zero : Tally :=
  ⟨0, 0, 0⟩

/-- What an edit did. -/
structure Change where
  className : String
  pattern : String
  fileChanged : Bool
  /-- The other classes that had the pattern. -/
  movedFrom : List String
  tally : Tally
  deriving DecidableEq, Repr

def addMember (backend : Backend Sets) (set : String) (address : Ip) (tally : Tally)
    (sets : Sets) : Tally × Sets :=
  match backend.add set address sets with
  | (.ok (), sets) => ({ tally with added := tally.added + 1 }, sets)
  | (.error _, sets) => ({ tally with failed := tally.failed + 1 }, sets)

def removeMember (backend : Backend Sets) (set : String) (address : Ip) (tally : Tally)
    (sets : Sets) : Tally × Sets :=
  match backend.remove set address sets with
  | (.ok true, sets) => ({ tally with removed := tally.removed + 1 }, sets)
  | (.ok false, sets) => (tally, sets)
  | (.error _, sets) => ({ tally with failed := tally.failed + 1 }, sets)

def removeMembers (backend : Backend Sets) (names : List String) (address : Ip) (tally : Tally)
    (sets : Sets) : Tally × Sets :=
  names.foldl (fun state set => removeMember backend set address state.1 state.2) (tally, sets)

def moveMember (backend : Backend Sets) (target : String) (others : List String) (address : Ip)
    (tally : Tally) (sets : Sets) : Tally × Sets :=
  let (tally, sets) := addMember backend target address tally sets
  removeMembers backend others address tally sets

/-- Treats every text that is an address, and counts the others as failures. -/
def forAddresses (treat : Ip → Tally → Sets → Tally × Sets) (texts : List String) (sets : Sets) :
    Tally × Sets :=
  texts.foldl
    (fun state text =>
      match Ip.parse? text.toList with
      | some address => treat address state.1 state.2
      | none => ({ state.1 with failed := state.1.failed + 1 }, state.2))
    (.zero, sets)

/-- Saves the sets if one of them changed. A failure to save is no failure of the edit. -/
def saveChanged [Files.Caller] (backend : Backend Sets) (path : String) (tally : Tally)
    (sets : Sets) (files : Files.Store) : Sets × Files.Store :=
  if tally.added + tally.removed = 0 then (sets, files)
  else (Persist.saveSets backend path sets files).2

/-- What an edit is about: the place of its class, and the pattern. -/
structure Order where
  place : Nat
  settings : ClassSettings
  pattern : String

/-- Checks the class first and then the pattern. -/
def Domain.order (domain : Domain) (className pattern : String) : Except Error Order :=
  match domain.classes.findIdx? (·.name == className) with
  | none => .error (.unknownClass className)
  | some place =>
      match domain.classes[place]? with
      | none => .error (.unknownClass className)
      | some settings =>
          ((Pattern.normalize pattern).mapError .pattern).map fun pattern =>
            ⟨place, settings, pattern⟩

/-- The last part of an edit, once the files are written. -/
def Domain.reconcile [Files.Caller] (domain : Domain) (backend : Backend Sets) (order : Order)
    (treat : Ip → Tally → Sets → Tally × Sets) (fileChanged : Bool) (movedFrom : List String)
    (sets : Sets) (files : Files.Store) : Except Error Change × Sets × Files.Store :=
  match domain.snapshot files with
  | .error error => (.error error, sets, files)
  | .ok snapshot =>
      let (tally, sets) := forAddresses treat (snapshot.addressesMatching order.pattern) sets
      let (sets, files) := saveChanged backend domain.files.sets tally sets files
      (.ok ⟨order.settings.name, order.pattern, fileChanged, movedFrom, tally⟩, sets, files)

def Domain.others (domain : Domain) (order : Order) : List ClassSettings :=
  domain.classes.eraseIdx order.place

/-- Routes a pattern to a class and away from all others. -/
def Domain.addPattern [Files.Caller] (domain : Domain) (backend : Backend Sets)
    (className pattern : String) (sets : Sets) (files : Files.Store) :
    Except Error Change × Sets × Files.Store :=
  match domain.order className pattern with
  | .error error => (.error error, sets, files)
  | .ok order =>
      let others := domain.others order
      match removeFromAll order.pattern others files with
      | (.error error, files) => (.error error, sets, files)
      | (.ok movedFrom, files) =>
          match appendTo order.settings.patterns order.pattern files with
          | (.error error, files) => (.error error, sets, files)
          | (.ok fileChanged, files) =>
              domain.reconcile backend order
                (moveMember backend order.settings.set (others.map ClassSettings.set))
                fileChanged movedFrom sets files

/-- Routes a pattern to a class no longer. -/
def Domain.removePattern [Files.Caller] (domain : Domain) (backend : Backend Sets)
    (className pattern : String) (sets : Sets) (files : Files.Store) :
    Except Error Change × Sets × Files.Store :=
  match domain.order className pattern with
  | .error error => (.error error, sets, files)
  | .ok order =>
      match removeFrom order.settings.patterns order.pattern files with
      | (.error error, files) => (.error error, sets, files)
      | (.ok fileChanged, files) =>
          domain.reconcile backend order (removeMember backend order.settings.set)
            fileChanged [] sets files

end SplitDns.Admin
