import SplitDns.AddressMap.Snapshot
import SplitDns.Error
import SplitDns.Persist.Scheduler

/-!
# Snapshot files

The two files that survive a restart: the address map, and the dump of the address sets. Each is
replaced whole.
-/

namespace SplitDns.Persist

open SplitDns.AddressSet

variable {Sets : Type}

structure SnapshotFiles where
  map : String
  sets : String

variable [Files.Caller]

/-- Writes the dump of the address sets. -/
def saveSets (backend : Backend Sets) (path : String) (sets : Sets) (files : Files.Store) :
    Except Error Unit × Sets × Files.Store :=
  let (dump, sets) := backend.save sets
  match dump with
  | .error cause => (.error (.set cause), sets, files)
  | .ok text =>
      let (result, files) := files.replaceText path text
      (result.mapError .io, sets, files)

def saveMap (map : AddressMap) (path : String) (files : Files.Store) :
    Except Error Unit × Files.Store :=
  let (result, files) := map.save files path
  (result.mapError .io, files)

def SnapshotFiles.save (paths : SnapshotFiles) (backend : Backend Sets) (kind : SaveKind)
    (map : AddressMap) (sets : Sets) (files : Files.Store) :
    Except Error Unit × Sets × Files.Store :=
  match kind with
  | .addressSet => saveSets backend paths.sets sets files
  | .addressMap =>
      let (result, files) := saveMap map paths.map files
      (result, sets, files)

end SplitDns.Persist
