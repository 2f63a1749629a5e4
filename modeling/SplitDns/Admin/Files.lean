import SplitDns.Config.Basic
import SplitDns.Pattern.File

/-!
# Files that an administrator edits

Pattern files and the snapshot of the address map, where a file that does not exist counts as an
empty one. A pattern file is written only if that changes its patterns.
-/

namespace SplitDns.Admin

open SplitDns.Files

/-- What an administrator works on. -/
structure Domain where
  classes : List ClassSettings
  files : Persist.SnapshotFiles

/-- What the configuration puts under administration. -/
def Domain.of (config : Config) : Domain :=
  ⟨config.classes, config.persistence.files⟩

def patternText (files : Store) (path : String) : Except Error String :=
  match files.readText path with
  | .ok text => .ok text
  | .error .notFound => .ok ""
  | .error cause => .error (.io cause)

/-- The snapshot of the address map. -/
def Domain.snapshot (domain : Domain) (files : Store) : Except Error Snapshot :=
  match Snapshot.read files domain.files.map with
  | .ok snapshot => .ok snapshot
  | .error (.io .notFound) => .ok .empty
  | .error cause => .error (.ofRead cause)

variable [Caller]

/-- Edits a pattern file; says whether it was written. -/
def editFile (edit : List Char → Option (List Char)) (path : String) (files : Store) :
    Except Error Bool × Store :=
  match patternText files path with
  | .error error => (.error error, files)
  | .ok text =>
      match edit text.toList with
      | none => (.ok false, files)
      | some edited =>
          match files.replaceText path (String.ofList edited) with
          | (.ok (), files) => (.ok true, files)
          | (.error cause, files) => (.error (.io cause), files)

def appendTo (path pattern : String) (files : Store) : Except Error Bool × Store :=
  editFile (Pattern.appended? · pattern.toList) path files

def removeFrom (path pattern : String) (files : Store) : Except Error Bool × Store :=
  editFile (Pattern.removed? · pattern.toList) path files

/-- Removes a pattern from the files of classes; gives the names of those that had it. -/
def removeFromAll (pattern : String) (classes : List ClassSettings) (files : Store) :
    Except Error (List String) × Store :=
  match classes with
  | [] => (.ok [], files)
  | settings :: rest =>
      match removeFrom settings.patterns pattern files with
      | (.error error, files) => (.error error, files)
      | (.ok removed, files) =>
          match removeFromAll pattern rest files with
          | (.error error, files) => (.error error, files)
          | (.ok names, files) => (.ok (if removed then settings.name :: names else names), files)

end SplitDns.Admin
