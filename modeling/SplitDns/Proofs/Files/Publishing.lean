import Mathlib.Data.List.Nodup
import SplitDns.Proofs.Files.Siblings
import SplitDns.Proofs.Turns
import SplitDns.Text.Number

/-!
# Files replaced at the same time

Any number of replacements of one file take turns, each with a temporary file of its own, and
writing and moving may fail at any time. The temporary files are beside the path and apart from each
other, so a replacement meets only its own, and what the path holds changes in a move alone
(`publication_is_whole`).
-/

namespace SplitDns.Files

open SplitDns.Text

/-! ### Single operations -/

namespace Store

variable {store next : Store} {path source : String} {content : ByteArray}

theorem read_write (written : store.write path content = .ok next) :
    next.read path = .ok content := by
  obtain ⟨target, located, free, noSlash, rfl⟩ := write_eq_ok written
  have same := sameDirectories_put free.find? content
  apply read_of_free (same.locate located) (same.free free) noSlash
  rw [SortedMap.find?_put, if_pos rfl]

theorem confined_write (written : store.write path content = .ok next) :
    Confined [path] store next := by
  obtain ⟨target, located, free, _, rfl⟩ := write_eq_ok written
  exact free.confined_put located List.mem_cons_self content

/-- A file that can be read can be removed. -/
theorem remove_of_read (read : store.read path = .ok content) :
    ∃ target : Target, store.remove path = .ok (store.erase target.key) := by
  obtain ⟨target, located, free, _, found⟩ := read_eq_ok read
  refine ⟨target, ?_⟩
  rw [remove, located]
  simp only [bind, Except.bind, free.at?_eq store, found]
  rfl

theorem not_read_of_removed (removed : store.remove path = .ok next) :
    next.read path ≠ .ok content := by
  obtain ⟨target, located, free, rfl⟩ := remove_eq_ok removed
  intro read
  obtain ⟨other, otherLocated, _, _, found⟩ := read_eq_ok read
  rw [(sameDirectories_erase free.find?).locate located] at otherLocated
  cases otherLocated
  rw [SortedMap.find?_erase, if_pos rfl] at found
  cases found

theorem not_read_remove (store : Store) (path : String) (content : ByteArray) :
    ((store.remove path).toOption.getD store).read path ≠ .ok content := by
  cases removed : store.remove path with
  | error cause =>
      intro read
      have unchanged : store.read path = .ok content := read
      obtain ⟨target, present⟩ := remove_of_read unchanged
      rw [removed] at present
      cases present
  | ok next => exact not_read_of_removed removed

/-- Moving a file changes the two files only, and leaves nothing where the file was. -/
theorem rename_file (read : store.read source = .ok content)
    (renamed : store.rename source path = .ok next) :
    ∃ target, store.locate path = .ok target ∧ store.Free target ∧ target.slash = false ∧
      Confined [path, source] store next ∧ next.read path = .ok content ∧
      (store.Apart target.key source → ∀ other, next.read source ≠ .ok other) := by
  obtain ⟨origin, target, entry, originLocated, located, there, free, noSlash, rfl⟩ :=
    rename_eq_ok renamed
  obtain ⟨same, sameLocated, originFree, _, found⟩ := read_eq_ok read
  rw [originLocated] at sameLocated
  cases sameLocated
  rw [originFree.at?_eq store, found] at there
  cases there
  have erased : Confined [path, source] store (store.erase origin.key) :=
    originFree.confined_erase originLocated (by simp)
  have confined : Confined [path, source] store
      ((store.erase origin.key).put target.key (.file content)) :=
    erased.trans ((erased.directories.free free).confined_put (erased.directories.locate located)
      List.mem_cons_self content)
  refine ⟨target, located, free, noSlash, confined, ?_, ?_⟩
  · apply read_of_free (confined.directories.locate located) (confined.directories.free free)
      noSlash
    rw [SortedMap.find?_put, if_pos rfl]
  · intro apart other readOther
    obtain ⟨again, againLocated, _, _, foundAgain⟩ := read_eq_ok readOther
    rw [confined.directories.locate originLocated] at againLocated
    cases againLocated
    rw [SortedMap.find?_put, if_neg (apart origin originLocated).symm, SortedMap.find?_erase,
      if_pos rfl] at foundAgain
    cases foundAgain

end Store

/-! ### Replacements that take turns -/

/-- How the next operation of a replacement goes. -/
inductive Luck where
  | works
  /-- The operation fails; a write may leave something in the file that it was to write. -/
  | fails (cause : IoError) (remains : Option ByteArray)

/-- The files, and what has been moved to the path so far. -/
structure Disk where
  store : Store
  /-- The temporary paths and the contents, in the order of the moves. -/
  moved : List (String × ByteArray)

namespace Replacement

def attempt (luck : Luck) (replacement : Replacement) (store : Store) : Replacement × Store :=
  match replacement.progress, luck with
  | .started, .fails cause remains =>
      ({ replacement with progress := .failed cause },
        (remains.bind fun content =>
          (store.write replacement.temporary content).toOption).getD store)
  | .written, .fails cause _ => ({ replacement with progress := .failed cause }, store)
  | _, _ => replacement.step store

/-- What a replacement has moved to its path. -/
def moved? (replacement : Replacement) : Option (String × ByteArray) :=
  match replacement.progress with
  | .finished (.ok ()) => some (replacement.temporary, replacement.contents)
  | _ => none

theorem moved?_eq_some_iff {replacement : Replacement} {entry : String × ByteArray} :
    replacement.moved? = some entry ↔
      replacement.progress = .finished (.ok ()) ∧
        entry = (replacement.temporary, replacement.contents) := by
  obtain ⟨path, temporary, contents, progress⟩ := replacement
  rcases progress with _ | _ | _ | (_ | _)
  case finished.ok => simp [moved?, eq_comm]
  all_goals simp [moved?]

theorem sublist_temporary (replacements : List Replacement) :
    ((replacements.filterMap moved?).map Prod.fst).Sublist (replacements.map temporary) := by
  induction replacements with
  | nil => exact .slnil
  | cons replacement rest inductionHypothesis =>
      cases found : replacement.moved? with
      | none =>
          rw [List.filterMap_cons_none found]
          exact inductionHypothesis.cons _
      | some entry =>
          obtain ⟨_, rfl⟩ := moved?_eq_some_iff.mp found
          rw [List.filterMap_cons_some found]
          exact inductionHypothesis.cons_cons _

def take (luck : Luck) (replacement : Replacement) (disk : Disk) : Replacement × Disk :=
  let next := replacement.attempt luck disk.store
  (next.1, ⟨next.2, if replacement.moved?.isSome then disk.moved
    else disk.moved ++ next.1.moved?.toList⟩)

section Take

variable {luck : Luck} {replacement next : Replacement} {store after : Store}
  {moved : List (String × ByteArray)} {entry : String × ByteArray}

theorem take_of_same (attempted : replacement.attempt luck store = (next, after))
    (same : next.moved? = replacement.moved?) :
    replacement.take luck ⟨store, moved⟩ = (next, ⟨after, moved⟩) := by
  simp only [take, attempted, same]
  cases replacement.moved? <;> simp

theorem take_of_moved (attempted : replacement.attempt luck store = (next, after))
    (none : replacement.moved? = none) (some : next.moved? = some entry) :
    replacement.take luck ⟨store, moved⟩ = (next, ⟨after, moved ++ [entry]⟩) := by
  simp only [take, attempted, none, some]
  rfl

end Take

theorem attempt_works (replacement : Replacement) (store : Store) :
    replacement.attempt .works store = replacement.step store := by
  obtain ⟨path, temporary, contents, progress⟩ := replacement
  cases progress <;> rfl

def call (replacement : Replacement) : String × String × ByteArray :=
  (replacement.path, replacement.temporary, replacement.contents)

/-- The steps that a replacement has to take at most. -/
def stepsLeft (replacement : Replacement) : Nat :=
  match replacement.progress with
  | .started => 3
  | .written => 2
  | .failed _ => 1
  | .finished _ => 0

def HasReturned (replacement : Replacement) : Prop :=
  ∃ result, replacement.progress = .finished result

theorem hasReturned_of_stepsLeft {replacement : Replacement} (none : replacement.stepsLeft = 0) :
    replacement.HasReturned := by
  obtain ⟨path, temporary, contents, progress⟩ := replacement
  cases progress with
  | finished result => exact ⟨result, rfl⟩
  | started => cases none
  | written => cases none
  | failed cause => cases none

end Replacement

structure DiskEvent where
  place : Nat
  luck : Luck

def replacementTurns : Turns DiskEvent Replacement Disk where
  place := DiskEvent.place
  step event := Replacement.take event.luck

/-- A call that replaces a file: the process, the number of the call in it, and the contents. -/
structure Saving where
  process : Nat
  sequence : Nat
  contents : ByteArray

namespace Saving

def suffix (saving : Saving) : String :=
  temporarySuffix saving.process saving.sequence

def temporary (path : String) (saving : Saving) : String :=
  path ++ saving.suffix

theorem split_suffix (saving : Saving) :
    split '.' saving.suffix.toList =
      [[], digitsOf 10 saving.process, digitsOf 10 saving.sequence, ['t', 'm', 'p']] := by
  have written : saving.suffix.toList = [] ++ '.' :: (digitsOf 10 saving.process ++
      '.' :: (digitsOf 10 saving.sequence ++ '.' :: ['t', 'm', 'p'])) := by
    simp [suffix, temporarySuffix, decimal]
  rw [written, split_append List.not_mem_nil, split_append (not_mem_digitsOf rfl _),
    split_append (not_mem_digitsOf rfl _)]
  rfl

/-- The temporary path tells the calls of all processes apart. -/
theorem temporary_eq_iff {path : String} {left right : Saving} :
    left.temporary path = right.temporary path ↔
      left.process = right.process ∧ left.sequence = right.sequence := by
  constructor
  · intro same
    have suffixes : left.suffix = right.suffix := (String.append_right_inj path).mp same
    have parts := congrArg (fun suffix => split '.' suffix.toList) suffixes
    simp only [split_suffix, List.cons.injEq, and_true, true_and] at parts
    obtain ⟨process, sequence⟩ := parts
    have numbers := And.intro (congrArg (Nat.ofDigitChars 10 · 0) process)
      (congrArg (Nat.ofDigitChars 10 · 0) sequence)
    simpa only [digitsOf, Nat.ofDigitChars_ten_toDigits] using numbers
  · rintro ⟨process, sequence⟩
    rw [temporary, temporary, suffix, suffix, process, sequence]

theorem nodup_temporary {savings : List Saving}
    (distinct : (savings.map fun saving => (saving.process, saving.sequence)).Nodup)
    (path : String) : (savings.map (temporary path)).Nodup := by
  rw [List.Nodup, List.pairwise_map] at distinct ⊢
  apply distinct.imp
  intro left right differ same
  exact differ (Prod.ext_iff.mpr (temporary_eq_iff.mp same))

theorem ending_suffix (saving : Saving) : Store.Ending saving.suffix :=
  Store.ending_temporarySuffix saving.process saving.sequence

end Saving

def publication (path : String) (store : Store) (savings : List Saving) : Crowd Replacement Disk :=
  ⟨savings.map fun saving => .start path (saving.temporary path) saving.contents, ⟨store, []⟩⟩

/-! ### Steps -/

theorem Replacement.confined_remains (store : Store) (temporary : String)
    (remains : Option ByteArray) :
    Store.Confined [temporary] store
      ((remains.bind fun content => (store.write temporary content).toOption).getD store) := by
  cases remains with
  | none => exact Store.confined_refl _ store
  | some content =>
      cases written : store.write temporary content with
      | error cause =>
          rw [Option.bind_some, written]
          exact Store.confined_refl _ store
      | ok next =>
          rw [Option.bind_some, written]
          exact Store.confined_write written

/-- What a step of a replacement can be. -/
inductive Replacement.Moves (replacement : Replacement) (store : Store) :
    Progress → Store → Prop where
  | wrote {next : Store} (started : replacement.progress = .started)
      (written : store.write replacement.temporary replacement.contents = .ok next) :
      Moves replacement store .written next
  | placed {next : Store} (ready : replacement.progress = .written)
      (renamed : store.rename replacement.temporary replacement.path = .ok next) :
      Moves replacement store (.finished (.ok ())) next
  | failed {next : Store} (busy : replacement.progress = .started ∨ replacement.progress = .written)
      (cause : IoError) (confined : Store.Confined [replacement.temporary] store next) :
      Moves replacement store (.failed cause) next
  | gaveUp {cause : IoError} (failed : replacement.progress = .failed cause) :
      Moves replacement store (.finished (.error cause))
        ((store.remove replacement.temporary).toOption.getD store)
  | rested {result : Except IoError Unit} (finished : replacement.progress = .finished result) :
      Moves replacement store (.finished result) store

theorem Replacement.moves_attempt (luck : Luck) (replacement : Replacement) (store : Store) :
    ∃ progress next, replacement.attempt luck store =
        ({ replacement with progress := progress }, next) ∧
      replacement.Moves store progress next := by
  obtain ⟨path, temporary, contents, progress⟩ := replacement
  cases progress with
  | started =>
      cases luck with
      | works =>
          cases written : store.write temporary contents with
          | error cause =>
              refine ⟨.failed cause, store, ?_, .failed (.inl rfl) cause (Store.confined_refl _ _)⟩
              simp [attempt, step, proceed, written]
          | ok next =>
              refine ⟨.written, next, ?_, .wrote rfl written⟩
              simp [attempt, step, proceed, written]
      | fails cause remains =>
          refine ⟨.failed cause, _, rfl, .failed (.inl rfl) cause ?_⟩
          exact confined_remains store temporary remains
  | written =>
      cases luck with
      | works =>
          cases renamed : store.rename temporary path with
          | error cause =>
              refine ⟨.failed cause, store, ?_, .failed (.inr rfl) cause (Store.confined_refl _ _)⟩
              simp [attempt, step, proceed, renamed]
          | ok next =>
              refine ⟨.finished (.ok ()), next, ?_, .placed rfl renamed⟩
              simp [attempt, step, proceed, renamed]
      | fails cause remains =>
          exact ⟨.failed cause, store, rfl, .failed (.inr rfl) cause (Store.confined_refl _ _)⟩
  | failed cause => exact ⟨.finished (.error cause), _, rfl, .gaveUp rfl⟩
  | finished result => exact ⟨.finished result, store, rfl, .rested rfl⟩

variable {path : String} {start store next : Store} {replacement : Replacement}
  {moved : List (String × ByteArray)}

/-- The temporary file lies beside the path. -/
def Replacement.Beside (path : String) (replacement : Replacement) : Prop :=
  replacement.path = path ∧
    ∃ suffix, Store.Ending suffix ∧ replacement.temporary = path ++ suffix

/-- What is true of the temporary file while others run. -/
def Replacement.Sound (replacement : Replacement) (store : Store) : Prop :=
  match replacement.progress with
  | .written => store.read replacement.temporary = .ok replacement.contents
  | .finished _ => ∀ content, store.read replacement.temporary ≠ .ok content
  | _ => True

/-- The path holds what was moved there last, or what it held at the start. -/
def Disk.Shows (disk : Disk) (path : String) (start : Store) : Prop :=
  match disk.moved.getLast? with
  | none => Store.SameFile path start disk.store
  | some (_, contents) => disk.store.read path = .ok contents

structure Orderly (path : String) (start : Store) (crowd : Crowd Replacement Disk) : Prop where
  beside : ∀ replacement ∈ crowd.processes, replacement.Beside path
  distinct : (crowd.processes.map Replacement.temporary).Nodup
  shows : crowd.shared.Shows path start
  moved : crowd.shared.moved.Perm (crowd.processes.filterMap Replacement.moved?)
  sound : ∀ replacement ∈ crowd.processes, replacement.Sound crowd.shared.store

theorem Replacement.Sound.of_sameFile (sound : replacement.Sound store)
    (same : Store.SameFile replacement.temporary store next) : replacement.Sound next := by
  obtain ⟨path, temporary, contents, progress⟩ := replacement
  cases progress with
  | started => trivial
  | written => exact (same contents).mp sound
  | failed cause => trivial
  | finished result => exact fun content read => sound content ((same content).mpr read)

theorem Disk.Shows.of_sameFile (shown : Disk.Shows ⟨store, moved⟩ path start)
    (same : Store.SameFile path store next) : Disk.Shows ⟨next, moved⟩ path start := by
  unfold Disk.Shows at shown ⊢
  simp only at shown ⊢
  cases last : moved.getLast? with
  | none =>
      rw [last] at shown
      exact shown.trans same
  | some entry =>
      rw [last] at shown
      exact (same entry.2).mp shown

namespace Orderly

variable {before behind : List Replacement} {progress : Progress}

/-- The temporary files of the others are other files, whatever the directories are. -/
theorem differ (orderly : Orderly path start ⟨before ++ replacement :: behind, ⟨store, moved⟩⟩)
    {other : Replacement} (member : other ∈ before ++ behind) :
    store.Differ other.temporary replacement.temporary := by
  have distinct := orderly.distinct
  rw [List.map_append, List.map_cons, List.nodup_middle, ← List.map_append, List.nodup_cons]
    at distinct
  obtain ⟨_, suffix, ending, beside⟩ := orderly.beside replacement (by simp)
  obtain ⟨_, otherSuffix, otherEnding, otherBeside⟩ :=
    orderly.beside other (mem_of_mem_others member)
  rw [beside, otherBeside]
  apply Store.differ_of_endings otherEnding ending
  rintro rfl
  apply distinct.1
  rw [beside, ← otherBeside]
  exact List.mem_map_of_mem member

theorem exchange_names
    (orderly : Orderly path start ⟨before ++ replacement :: behind, ⟨store, moved⟩⟩) :
    (∀ other ∈ before ++ { replacement with progress := progress } :: behind,
      other.Beside path) ∧
    ((before ++ { replacement with progress := progress } :: behind).map
      Replacement.temporary).Nodup := by
  constructor
  · exact forall_exchange orderly.beside (fun _ _ => id) (orderly.beside replacement (by simp))
  · have distinct := orderly.distinct
    simp only [List.map_append, List.map_cons] at distinct ⊢
    exact distinct

/-- A step at the temporary file. -/
theorem touch (orderly : Orderly path start ⟨before ++ replacement :: behind, ⟨store, moved⟩⟩)
    (confined : Store.Confined [replacement.temporary] store next)
    (same : Replacement.moved? { replacement with progress := progress } = replacement.moved?)
    (sound : Replacement.Sound { replacement with progress := progress } next) :
    Orderly path start ⟨before ++ { replacement with progress := progress } :: behind,
      ⟨next, moved⟩⟩ where
  beside := orderly.exchange_names.1
  distinct := orderly.exchange_names.2
  shows := by
    apply orderly.shows.of_sameFile
    apply confined.sameFile_of_free
    intro target located free noSlash other inPaths
    obtain ⟨_, suffix, ending, beside⟩ := orderly.beside replacement (by simp)
    rw [List.mem_singleton.mp inPaths, beside]
    exact Store.apart_append ending located free noSlash
  moved := by
    rw [filterMap_exchange same]
    exact orderly.moved
  sound := by
    refine forall_exchange orderly.sound (fun other member sound => ?_) sound
    apply sound.of_sameFile
    apply confined.sameFile_of_differ
    intro written inPaths
    rw [List.mem_singleton.mp inPaths]
    exact orderly.differ member

/-- The move to the path. -/
theorem place (orderly : Orderly path start ⟨before ++ replacement :: behind, ⟨store, moved⟩⟩)
    (ready : replacement.progress = .written)
    (renamed : store.rename replacement.temporary replacement.path = .ok next) :
    Orderly path start ⟨before ++ { replacement with progress := .finished (.ok ()) } :: behind,
      ⟨next, moved ++ [(replacement.temporary, replacement.contents)]⟩⟩ := by
  obtain ⟨samePath, suffix, ending, beside⟩ := orderly.beside replacement (by simp)
  have written : store.read replacement.temporary = .ok replacement.contents := by
    have sound := orderly.sound replacement (by simp)
    rw [Replacement.Sound, ready] at sound
    exact sound
  rw [samePath] at renamed
  obtain ⟨target, located, free, noSlash, confined, shown, gone⟩ :=
    Store.rename_file written renamed
  have none : replacement.moved? = none := by
    rw [Replacement.moved?, ready]
  refine ⟨orderly.exchange_names.1, orderly.exchange_names.2, ?_,
    perm_filterMap_exchange orderly.moved none rfl, ?_⟩
  · rw [Disk.Shows, List.getLast?_concat]
    exact shown
  · refine forall_exchange orderly.sound (fun other member sound => ?_) ?_
    · apply sound.of_sameFile
      apply confined.sameFile
      intro place otherLocated written inPaths
      rcases List.mem_cons.mp inPaths with rfl | inRest
      · intro final finalLocated
        rw [located] at finalLocated
        cases finalLocated
        obtain ⟨_, otherSuffix, otherEnding, otherBeside⟩ :=
          orderly.beside other (mem_of_mem_others member)
        rw [otherBeside] at otherLocated
        exact (Store.apart_append otherEnding located free noSlash place otherLocated).symm
      · rw [List.mem_singleton.mp inRest]
        exact orderly.differ member place otherLocated
    · apply gone
      rw [beside]
      exact Store.apart_append ending located free noSlash

theorem step (luck : Luck)
    (orderly : Orderly path start ⟨before ++ replacement :: behind, ⟨store, moved⟩⟩) :
    Orderly path start ⟨before ++ (replacement.take luck ⟨store, moved⟩).1 :: behind,
      (replacement.take luck ⟨store, moved⟩).2⟩ := by
  obtain ⟨progress, next, attempted, moves⟩ := replacement.moves_attempt luck store
  cases moves with
  | wrote started written =>
      have same : Replacement.moved? { replacement with progress := .written } =
          replacement.moved? := by
        simp [Replacement.moved?, started]
      rw [Replacement.take_of_same attempted same]
      exact orderly.touch (Store.confined_write written) same (Store.read_write written)
  | placed ready renamed =>
      have none : replacement.moved? = none := by
        simp [Replacement.moved?, ready]
      rw [Replacement.take_of_moved attempted none rfl]
      exact orderly.place ready renamed
  | failed busy cause confined =>
      have same : Replacement.moved? { replacement with progress := .failed cause } =
          replacement.moved? := by
        rcases busy with started | ready
        · simp [Replacement.moved?, started]
        · simp [Replacement.moved?, ready]
      rw [Replacement.take_of_same attempted same]
      exact orderly.touch confined same trivial
  | @gaveUp cause failed =>
      have same : Replacement.moved? { replacement with progress := .finished (.error cause) } =
          replacement.moved? := by
        simp [Replacement.moved?, failed]
      rw [Replacement.take_of_same attempted same]
      exact orderly.touch (Store.confined_remove store List.mem_cons_self) same
        (Store.not_read_remove store replacement.temporary)
  | @rested result finished =>
      have same : { replacement with progress := .finished result } = replacement := by
        rw [← finished]
      rw [same] at attempted
      rw [Replacement.take_of_same attempted rfl]
      exact orderly

theorem initial (path : String) (store : Store) {savings : List Saving}
    (distinct : (savings.map (Saving.temporary path)).Nodup) :
    Orderly path store (publication path store savings) where
  beside := by
    intro replacement member
    obtain ⟨saving, _, rfl⟩ := List.mem_map.mp member
    exact ⟨rfl, saving.suffix, saving.ending_suffix, rfl⟩
  distinct := by
    rw [publication, List.map_map]
    exact distinct
  shows := fun _ => Iff.rfl
  moved := by
    rw [publication, List.filterMap_map]
    simp [Function.comp_def, Replacement.start, Replacement.moved?]
  sound := by
    intro replacement member
    obtain ⟨saving, _, rfl⟩ := List.mem_map.mp member
    trivial

theorem after (path : String) (store : Store) {savings : List Saving}
    (distinct : (savings.map (Saving.temporary path)).Nodup) (events : List DiskEvent) :
    Orderly path store (replacementTurns.after (publication path store savings) events) := by
  apply Turns.after_invariant (Orderly path store)
  · intro event before replacement behind disk orderly
    exact orderly.step event.luck
  · exact initial path store distinct

variable {crowd : Crowd Replacement Disk}

/-- A replacement has returned without an error exactly if it has moved its contents. -/
theorem finished_iff (orderly : Orderly path start crowd) (member : replacement ∈ crowd.processes) :
    replacement.progress = .finished (.ok ()) ↔
      (replacement.temporary, replacement.contents) ∈ crowd.shared.moved := by
  rw [orderly.moved.mem_iff, List.mem_filterMap]
  constructor
  · intro finished
    exact ⟨replacement, member, Replacement.moved?_eq_some_iff.mpr ⟨finished, rfl⟩⟩
  · rintro ⟨other, otherMember, moved⟩
    obtain ⟨finished, same⟩ := Replacement.moved?_eq_some_iff.mp moved
    have equal : other = replacement :=
      List.inj_on_of_nodup_map orderly.distinct otherMember member (congrArg Prod.fst same).symm
    rw [← equal]
    exact finished

theorem nodup_moved (orderly : Orderly path start crowd) :
    (crowd.shared.moved.map Prod.fst).Nodup := by
  apply (orderly.moved.map Prod.fst).nodup_iff.mpr
  exact (Replacement.sublist_temporary crowd.processes).nodup orderly.distinct

end Orderly

/-! ### One replacement without interruption -/

theorem replace_eq_publication [Caller] (path : String) (store : Store) (contents : ByteArray) :
    let crowd := replacementTurns.after
      (publication path store [⟨Caller.process, Caller.sequence, contents⟩])
      (List.replicate 3 ⟨0, .works⟩)
    crowd.processes.map Replacement.result = [(store.replace path contents).1] ∧
      crowd.shared.store = (store.replace path contents).2 := by
  have beside : (⟨Caller.process, Caller.sequence, contents⟩ : Saving).temporary path =
      temporaryName path := rfl
  simp [Turns.after, Turns.turn, replacementTurns, publication, Replacement.take,
    Replacement.attempt_works, List.replicate, beside, Store.replace]

/-! ### Any number of replacements -/

theorem Replacement.stepsLeft_take (luck : Luck) (replacement : Replacement) (disk : Disk) :
    (replacement.take luck disk).1.stepsLeft ≤ replacement.stepsLeft - 1 := by
  obtain ⟨progress, next, attempted, moves⟩ := replacement.moves_attempt luck disk.store
  have taken : (replacement.take luck disk).1 = { replacement with progress := progress } := by
    rw [take, attempted]
  rw [taken]
  cases moves with
  | wrote started _ => simp [stepsLeft, started]
  | placed ready _ => simp [stepsLeft]
  | failed busy _ _ => rcases busy with started | ready <;> simp [stepsLeft, *]
  | gaveUp _ => simp [stepsLeft]
  | rested _ => simp [stepsLeft]

theorem hasReturned_of_events {path : String} {store : Store} {savings : List Saving}
    {events : List DiskEvent}
    (often : ∀ place < savings.length, 3 ≤ events.countP (·.place = place)) :
    ∀ replacement ∈ (replacementTurns.after (publication path store savings) events).processes,
      replacement.HasReturned := by
  intro replacement member
  apply Replacement.hasReturned_of_stepsLeft
  refine Turns.rank_eq_zero_of_turns ?_ ?_ often replacement member
  · exact fun event => Replacement.stepsLeft_take event.luck
  · exact fun _ => Nat.le_refl 3

theorem calls_publication (path : String) (store : Store) (savings : List Saving)
    (events : List DiskEvent) :
    (replacementTurns.after (publication path store savings) events).processes.map
        Replacement.call =
      savings.map fun saving => (path, saving.temporary path, saving.contents) := by
  have kept (event : DiskEvent) (replacement : Replacement) (disk : Disk) :
      (replacementTurns.step event replacement disk).1.call = replacement.call := by
    obtain ⟨progress, next, attempted, _⟩ := replacement.moves_attempt event.luck disk.store
    simp only [replacementTurns, Replacement.take, attempted]
    rfl
  rw [Turns.map_after kept, publication, List.map_map]
  rfl

/--
However the writes, moves and removals of any number of replacements of one file interleave, and
whichever of them fail, with a temporary path of its own for each: at every moment the path reads as
at the start, or has the whole contents of the replacement that was moved there last. Those that
were moved there are those that have returned without an error, and no temporary file can be read of
one that has returned. All have returned after three turns each.
-/
theorem publication_is_whole (path : String) (store : Store) (savings : List Saving)
    (events : List DiskEvent) (distinct : (savings.map (Saving.temporary path)).Nodup) :
    let crowd := replacementTurns.after (publication path store savings) events
    let disk := crowd.shared
    (crowd.processes.map Replacement.call =
      savings.map fun saving => (path, saving.temporary path, saving.contents)) ∧
    (match disk.moved.getLast? with
      | none => Store.SameFile path store disk.store
      | some (_, contents) => disk.store.read path = .ok contents) ∧
    (disk.moved.map Prod.fst).Nodup ∧
    (∀ entry ∈ disk.moved, ∃ saving ∈ savings, entry = (saving.temporary path, saving.contents)) ∧
    (∀ replacement ∈ crowd.processes, replacement.progress = .finished (.ok ()) ↔
      (replacement.temporary, replacement.contents) ∈ disk.moved) ∧
    (∀ replacement ∈ crowd.processes, replacement.HasReturned →
      ∀ content, disk.store.read replacement.temporary ≠ .ok content) ∧
    ((∀ place < savings.length, 3 ≤ events.countP (·.place = place)) →
      ∀ replacement ∈ crowd.processes, replacement.HasReturned) := by
  intro crowd disk
  have orderly : Orderly path store crowd := .after path store distinct events
  have calls := calls_publication path store savings events
  refine ⟨calls, orderly.shows, orderly.nodup_moved, ?_, fun _ => orderly.finished_iff, ?_,
    hasReturned_of_events⟩
  · intro entry inMoved
    obtain ⟨replacement, member, moved⟩ := List.mem_filterMap.mp (orderly.moved.mem_iff.mp inMoved)
    obtain ⟨_, rfl⟩ := Replacement.moved?_eq_some_iff.mp moved
    have called : replacement.call ∈ crowd.processes.map Replacement.call :=
      List.mem_map_of_mem member
    rw [calls] at called
    obtain ⟨saving, asked, same⟩ := List.mem_map.mp called
    exact ⟨saving, asked, (congrArg Prod.snd same).symm⟩
  · rintro replacement member ⟨result, finished⟩
    have sound := orderly.sound replacement member
    rw [Replacement.Sound, finished] at sound
    exact sound

/-- Two calls of one process and one of another. -/
def rivalSavings : List Saving :=
  [⟨7, 0, utf8 "first"⟩, ⟨12, 0, utf8 "second"⟩, ⟨7, 1, utf8 "third"⟩]

/-- One call is moved, one fails to be, and one leaves half of its contents for a while. -/
def rivalEvents : List DiskEvent :=
  [⟨1, .works⟩, ⟨0, .works⟩, ⟨2, .fails .permissionDenied (some (utf8 "thi"))⟩, ⟨0, .works⟩,
    ⟨1, .fails .busy none⟩, ⟨1, .works⟩, ⟨2, .works⟩, ⟨0, .works⟩, ⟨2, .works⟩]

def rivalFiles : Store :=
  .ofList [("map.json", .file (utf8 "old"))]

theorem publication_is_whole_rivals :
    (rivalSavings.map (Saving.temporary "map.json")).Nodup ∧
    let crowd := replacementTurns.after (publication "map.json" rivalFiles rivalSavings) rivalEvents
    crowd.processes.map Replacement.result = [.ok (), .error .busy, .error .permissionDenied] ∧
    crowd.shared.store.read "map.json" = .ok (utf8 "first") ∧
    ∀ replacement ∈ crowd.processes, replacement.HasReturned ∧
      ∀ content, crowd.shared.store.read replacement.temporary ≠ .ok content := by
  have distinct : (rivalSavings.map (Saving.temporary "map.json")).Nodup :=
    Saving.nodup_temporary (by decide) "map.json"
  have main := publication_is_whole "map.json" rivalFiles rivalSavings rivalEvents distinct
  dsimp only at main ⊢
  obtain ⟨_, shown, _, _, _, removed, returning⟩ := main
  have often : ∀ place < rivalSavings.length, 3 ≤ rivalEvents.countP (·.place = place) := by
    decide
  have last : (replacementTurns.after (publication "map.json" rivalFiles rivalSavings)
      rivalEvents).shared.moved.getLast? = some ("map.json.7.0.tmp", utf8 "first") := by
    decide +kernel
  rw [last] at shown
  exact ⟨distinct, by decide +kernel, shown, fun replacement member =>
    ⟨returning often replacement member,
      removed replacement member (returning often replacement member)⟩⟩

end SplitDns.Files
