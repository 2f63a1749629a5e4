import SplitDns.Persist.Snapshots
import SplitDns.Proofs.AddressMap.Loading
import SplitDns.Proofs.Files.Siblings

/-!
# Files that snapshots are saved to

However an attempt to save a kind ends, it rewrites the file of that kind and no other. So the map
is loaded as it was saved last, if the dump of the sets is kept apart from its file
(`SnapshotFiles.Apart`): no check of the paths makes sure of that.
-/

namespace SplitDns.Persist

open SplitDns.AddressSet
open SplitDns.Files
open SplitDns.Files.Store (Rewritten SameDirectories SameFile)

variable {Sets : Type}

theorem rewritten_saveSets [Caller] (backend : Backend Sets) (path : String) (sets : Sets)
    (files : Store) : Rewritten [path] files (saveSets backend path sets files).2.2 := by
  unfold saveSets
  obtain ⟨dump, after⟩ := backend.save sets
  cases dump with
  | error cause => exact Store.rewritten_refl _ files
  | ok text => exact Store.rewritten_replace files path (Text.utf8 text)

namespace SnapshotFiles

def path (paths : SnapshotFiles) : SaveKind → String
  | .addressSet => paths.sets
  | .addressMap => paths.map

theorem rewritten_save [Caller] (paths : SnapshotFiles) (backend : Backend Sets) (kind : SaveKind)
    (map : AddressMap) (sets : Sets) (files : Store) :
    Rewritten [paths.path kind] files (paths.save backend kind map sets files).2.2 := by
  cases kind with
  | addressSet => exact rewritten_saveSets backend paths.sets sets files
  | addressMap => exact Store.rewritten_replace files paths.map _

/-- How an attempt to save a kind can end, and the files that it leaves. -/
inductive Saves (paths : SnapshotFiles) (backend : Backend Sets) (kind : SaveKind)
    (taken : AddressMap) (files : Store) : Bool → Store → Prop where
  /-- The attempt is made, by some call of some process, with the sets of that moment. -/
  | ran (caller : Caller) (sets : Sets) :
      Saves paths backend kind taken files (paths.save backend kind taken sets files).1.isOk
        (paths.save backend kind taken sets files).2.2
  /-- The attempt breaks off, and leaves anything where it writes. -/
  | broke (caller : Caller) {next : Store} (left : Rewritten [paths.path kind] files next) :
      Saves paths backend kind taken files false next

/-- Whoever writes the dump of the sets, the file of the map is not touched. -/
def Apart (paths : SnapshotFiles) (files : Store) : Prop :=
  ∀ _ : Caller, files.Spared paths.map paths.sets

variable {paths : SnapshotFiles} {backend : Backend Sets} {kind : SaveKind} {taken : AddressMap}
  {files next : Store} {saved : Bool}

theorem saves_of_isOk [Caller] {sets : Sets}
    (succeeded : (paths.save backend kind taken sets files).1.isOk = true) :
    paths.Saves backend kind taken files true (paths.save backend kind taken sets files).2.2 :=
  succeeded ▸ .ran inferInstance sets

theorem Apart.of_sameDirectories (apart : paths.Apart files) (same : SameDirectories files next) :
    paths.Apart next :=
  fun caller => same.spared (apart caller)

/-- Two names in the working directory are apart if the first one is no temporary name. -/
theorem apart_of_names (map : Store.Ending paths.map) (sets : Store.Ending paths.sets)
    (differ : paths.map ≠ paths.sets) (lasting : paths.map.toList.getLast? ≠ some 'p') :
    paths.Apart files := by
  intro caller
  have noTemporary : paths.map ≠ temporaryName paths.sets := by
    intro same
    apply lasting
    rw [same, temporaryName, String.toList_append, List.getLast?_append,
      Store.getLast?_temporarySuffix, Option.some_or]
  have temporary : Store.Ending (temporaryName paths.sets) :=
    .append sets.noSlash (Store.ending_temporarySuffix _ _)
  constructor
  case differ =>
    have apart := Store.differ_of_endings map sets differ files ""
    rwa [String.empty_append, String.empty_append] at apart
  case temporary =>
    have apart := Store.differ_of_endings map temporary noTemporary files ""
    rwa [String.empty_append, String.empty_append] at apart

theorem Saves.exists_rewritten (saves : paths.Saves backend kind taken files saved next) :
    ∃ _ : Caller, Rewritten [paths.path kind] files next := by
  cases saves with
  | ran caller sets => exact ⟨caller, paths.rewritten_save backend kind taken sets files⟩
  | broke caller left => exact ⟨caller, left⟩

theorem Saves.directories (saves : paths.Saves backend kind taken files saved next) :
    SameDirectories files next := by
  obtain ⟨_, rewritten⟩ := saves.exists_rewritten
  exact rewritten.directories

/-- Saving the sets leaves the file of the map alone. -/
theorem Saves.sameFile (saves : paths.Saves backend .addressSet taken files saved next)
    (apart : paths.Apart files) : SameFile paths.map files next := by
  obtain ⟨caller, rewritten⟩ := saves.exists_rewritten
  exact rewritten.sameFile_of_spared (apart caller)

/-- A map that was saved is loaded. -/
theorem Saves.load (saves : paths.Saves backend .addressMap taken files saved next)
    (succeeded : saved = true) :
    AddressMap.load next paths.map = .ofSnapshot taken.snapshot := by
  cases saves with
  | broke caller left => cases succeeded
  | ran caller sets =>
      rw [save, saveMap] at succeeded ⊢
      cases written : taken.save files paths.map with
      | mk result next =>
          rw [written] at succeeded
          cases result with
          | error cause => cases succeeded
          | ok done => exact AddressMap.load_eq_ofSnapshot written

end SnapshotFiles

end SplitDns.Persist
