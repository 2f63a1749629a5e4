import SplitDns.Proofs.AddressMap.Matching
import SplitDns.Proofs.Admin.Failing
import SplitDns.Proofs.Admin.Moving
import SplitDns.Proofs.Admin.Rerouting
import SplitDns.Proofs.Outcome

/-!
# Sets after an edit

An edit moves the addresses of all names that hold its pattern, whatever other patterns these names
have. So the sets stay in step with the routes only under a condition on the names that are routed
to a class afterwards, which is stated exactly.
-/

namespace SplitDns.Admin

open SplitDns.Address
open SplitDns.AddressSet
open SplitDns.Files.Store (SameFile Spared)
open SplitDns.Pattern (Covers)
open SplitDns.Text

/-! ### Recorded addresses -/

/-- The address is recorded for a name that holds the pattern as it is written. -/
def Moves (snapshot : Snapshot) (pattern : String) (address : Ip) : Prop :=
  ∃ pair ∈ snapshot.pairs, containsText pair.1.toList pattern.toList = true ∧
    Names pair.2 address

/-- An edit treats the addresses of the names that hold its pattern. -/
theorem names_addressesMatching {pattern : String} (proper : Pattern.Proper pattern.toList)
    {snapshot : Snapshot} {address : Ip} :
    Names (snapshot.addressesMatching pattern) address ↔ Moves snapshot pattern address := by
  unfold Names Moves
  simp only [Snapshot.mem_addressesMatching proper]
  constructor
  · rintro ⟨text, ⟨pair, found, holds, inPair⟩, parsed⟩
    exact ⟨pair, found, holds, text, inPair, parsed⟩
  · rintro ⟨pair, found, holds, text, inPair, parsed⟩
    exact ⟨text, ⟨pair, found, holds, inPair⟩, parsed⟩

theorem isMember_saveChanged [Files.Caller] {path : String} {tally : Tally} {memory final : Memory}
    {files next : Files.Store} {set : String} {address : Ip}
    (saved : saveChanged Memory.backend path tally memory files = (final, next)) :
    final.IsMember set address ↔ memory.IsMember set address := by
  unfold saveChanged Persist.saveSets at saved
  split at saved
  · cases saved
    exact Iff.rfl
  · cases dumped : Memory.backend.save memory with
    | mk dump after =>
        have logged : memory.log .save = after := congrArg Prod.snd dumped
        rw [dumped] at saved
        have same : after.IsMember set address ↔ memory.IsMember set address := by
          rw [← logged, Memory.isMember_log]
        cases dump with
        | error cause =>
            cases saved
            exact same
        | ok text =>
            cases saved
            exact same

namespace Domain

variable {domain : Domain} {action : Action} {className given : String} {order : Order}
  {change : Change} {memory final : Memory} {files edited next : Files.Store}
  {snapshot : Snapshot} {written : List String}

/-- The path of the snapshot is no path of a pattern file, nor of its new contents. -/
def KeepsMap [Files.Caller] (domain : Domain) (files : Files.Store) : Prop :=
  ∀ settings ∈ domain.classes, files.Spared domain.files.map settings.patterns

theorem snapshot_cases (read : domain.snapshot files = .ok snapshot) :
    (∃ text, files.readText domain.files.map = .ok text ∧
      Snapshot.ofJson? text = some snapshot) ∨
    (∃ cause, files.readText domain.files.map = .error cause) ∧ snapshot = .empty := by
  unfold Domain.snapshot at read
  cases found : files.readText domain.files.map with
  | error cause =>
      refine .inr ⟨⟨cause, rfl⟩, ?_⟩
      have unread : Snapshot.read files domain.files.map = .error (.io cause) := by
        rw [Snapshot.read, found]
        rfl
      rw [unread] at read
      cases cause with
      | notFound =>
          cases read
          rfl
      | _ => cases read
  | ok text =>
      refine .inl ⟨text, rfl, ?_⟩
      have mapped : (Except.ok text : Except IoError String).mapError Snapshot.ReadError.io =
          pure text := rfl
      cases parsed : Snapshot.ofJson? text with
      | none =>
          rw [Snapshot.read, found, mapped, pure_bind, parsed] at read
          cases read
      | some other =>
          rw [Snapshot.read, found, mapped, pure_bind, parsed] at read
          cases read
          rfl

theorem snapshot_eq_of_sameFile {other : Snapshot}
    (same : SameFile domain.files.map files edited) (read : domain.snapshot files = .ok snapshot)
    (readAgain : domain.snapshot edited = .ok other) : other = snapshot := by
  rcases snapshot_cases read with ⟨text, found, parsed⟩ | ⟨⟨cause, missing⟩, rfl⟩
  · rcases snapshot_cases readAgain with
      ⟨textAgain, foundAgain, parsedAgain⟩ | ⟨⟨cause, missing⟩, _⟩
    · rw [same.readText_eq_ok.mp found] at foundAgain
      cases foundAgain
      rw [parsed] at parsedAgain
      cases parsedAgain
      rfl
    · rw [same.readText_eq_ok.mp found] at missing
      cases missing
  · rcases snapshot_cases readAgain with ⟨textAgain, foundAgain, _⟩ | ⟨_, rfl⟩
    · rw [same.readText_eq_ok.mpr foundAgain] at missing
      cases missing
    · rfl

theorem exists_of_mem_fileEdits (placed : domain.classes[order.place]? = some order.settings)
    {fileEdit : FileEdit} (inPlan : fileEdit ∈ domain.fileEdits order action) :
    ∃ settings ∈ domain.classes, fileEdit.path = settings.patterns := by
  have target := List.mem_of_getElem? placed
  cases action with
  | add =>
      rcases List.mem_append.mp inPlan with removing | appending
      · obtain ⟨other, inOthers, rfl⟩ := List.mem_map.mp removing
        exact ⟨other, (List.eraseIdx_sublist _ _).mem inOthers, rfl⟩
      · rw [List.mem_singleton.mp appending]
        exact ⟨order.settings, target, rfl⟩
  | remove =>
      rw [List.mem_singleton.mp inPlan]
      exact ⟨order.settings, target, rfl⟩

/-- Where the snapshot is kept apart from the pattern files, an edit reads the one from before. -/
theorem KeepsMap.sameFile [Files.Caller] (keepsMap : domain.KeepsMap files)
    (placed : domain.classes[order.place]? = some order.settings)
    (made : FileEdit.Made (domain.fileEdits order action) written files edited) :
    SameFile domain.files.map files edited := by
  apply made.confined.sameFile_of_differ
  intro other touched
  rcases List.mem_append.mp touched with wrote | beside
  · obtain ⟨fileEdit, inPlan, rfl⟩ := made.exists_of_mem wrote
    obtain ⟨settings, found, same⟩ := exists_of_mem_fileEdits placed inPlan
    rw [same]
    exact (keepsMap settings found).differ
  · obtain ⟨fileEdit, inPlan, rfl⟩ := List.mem_map.mp beside
    obtain ⟨settings, found, same⟩ := exists_of_mem_fileEdits placed inPlan
    rw [same]
    exact (keepsMap settings found).temporary

/-! ### Edits that succeed -/

/-- What an edit does with one address. -/
def treatment (domain : Domain) (order : Order) : Action → Ip → Tally → Memory → Tally × Memory
  | .add =>
      moveMember Memory.backend order.settings.set
        ((domain.others order).map ClassSettings.set)
  | .remove => removeMember Memory.backend order.settings.set

theorem perform_eq_ok [Files.Caller] (ordered : domain.order className given = .ok order)
    (done : domain.perform Memory.backend action className given memory files =
      (.ok change, final, next)) :
    ∃ written edited changed moved,
      FileEdit.Made (domain.fileEdits order action) written files edited ∧
      domain.reconcile Memory.backend order (domain.treatment order action) changed moved memory
        edited = (.ok change, final, next) := by
  cases action with
  | add =>
      obtain ⟨same, names, emptied, changed, edited, sameOrdered, removed, appended, reconciled⟩ :=
        addPattern_eq_ok done
      rw [ordered] at sameOrdered
      cases sameOrdered
      obtain ⟨written, made⟩ := made_of_removeFromAll removed
      have added : (FileEdit.appending order.pattern order.settings.patterns).run emptied =
          (.ok changed, edited) := appended
      exact ⟨_, edited, changed, names, made.append (FileEdit.Made.nil.cons added), reconciled⟩
  | remove =>
      obtain ⟨same, changed, edited, sameOrdered, removed, reconciled⟩ := removePattern_eq_ok done
      rw [ordered] at sameOrdered
      cases sameOrdered
      have begun : (FileEdit.removing order.pattern order.settings.patterns).run files =
          (.ok changed, edited) := removed
      exact ⟨_, edited, changed, [], FileEdit.Made.nil.cons begun, reconciled⟩

/-! ### Members after an edit -/

theorem set_eq_iff (distinct : (domain.classes.map ClassSettings.set).Nodup)
    {settings other : ClassSettings} {index otherIndex : Nat}
    (found : domain.classes[index]? = some settings)
    (otherFound : domain.classes[otherIndex]? = some other) :
    settings.set = other.set ↔ index = otherIndex := by
  have here : (domain.classes.map ClassSettings.set)[index]? = some settings.set := by
    rw [List.getElem?_map, found, Option.map_some]
  have there : (domain.classes.map ClassSettings.set)[otherIndex]? = some other.set := by
    rw [List.getElem?_map, otherFound, Option.map_some]
  constructor
  · intro same
    obtain ⟨inside, _⟩ := List.getElem?_eq_some_iff.mp here
    apply (List.getElem?_inj inside distinct).mp
    rw [here, there, same]
  · rintro rfl
    rw [found, Option.some_inj] at otherFound
    rw [otherFound]

theorem mem_others_sets_iff (distinct : (domain.classes.map ClassSettings.set).Nodup)
    {settings : ClassSettings} {index : Nat} (found : domain.classes[index]? = some settings) :
    settings.set ∈ (domain.others order).map ClassSettings.set ↔ index ≠ order.place := by
  rw [List.mem_map]
  constructor
  · rintro ⟨other, inOthers, same⟩
    obtain ⟨otherIndex, different, otherFound⟩ := List.mem_eraseIdx_iff_getElem?.mp inOthers
    rw [← (set_eq_iff distinct otherFound found).mp same]
    exact different
  · intro different
    exact ⟨settings, mem_others found different, rfl⟩

theorem mem_others_sets (distinct : (domain.classes.map ClassSettings.set).Nodup)
    (placed : domain.classes[order.place]? = some order.settings) {set : String} :
    set ∈ (domain.others order).map ClassSettings.set ↔
      set ≠ order.settings.set ∧ set ∈ domain.classes.map ClassSettings.set := by
  constructor
  · intro inOthers
    obtain ⟨other, found, rfl⟩ := List.mem_map.mp inOthers
    have inClasses := (List.eraseIdx_sublist _ _).mem found
    obtain ⟨index, here⟩ := List.getElem?_of_mem inClasses
    have apart := (mem_others_sets_iff distinct here).mp inOthers
    exact ⟨mt (set_eq_iff distinct here placed).mp apart, List.mem_map_of_mem inClasses⟩
  · rintro ⟨different, inClasses⟩
    obtain ⟨settings, found, rfl⟩ := List.mem_map.mp inClasses
    obtain ⟨index, here⟩ := List.getElem?_of_mem found
    apply (mem_others_sets_iff distinct here).mpr
    exact mt (set_eq_iff distinct here placed).mpr different

/-- The sets that the treated addresses join. -/
def Puts (order : Order) : Action → String → Prop
  | .add => (· = order.settings.set)
  | .remove => fun _ => False

/-- The sets that the treated addresses leave. -/
def Takes (domain : Domain) (order : Order) : Action → String → Prop
  | .add => (· ∈ (domain.others order).map ClassSettings.set)
  | .remove => (· = order.settings.set)

theorem settles_treatment (distinct : (domain.classes.map ClassSettings.set).Nodup)
    (placed : domain.classes[order.place]? = some order.settings) (action : Action) :
    Settles (domain.treatment order action) (Puts order action) (domain.Takes order action) := by
  cases action with
  | add =>
      apply settles_moveMember
      exact fun inOthers => ((mem_others_sets distinct placed).mp inOthers).1 rfl
  | remove => exact settles_removeMember order.settings.set

/-- An edit moves the addresses that were recorded before. -/
theorem isMember_perform [Files.Caller] (action : Action)
    (distinct : (domain.classes.map ClassSettings.set).Nodup) (keepsMap : domain.KeepsMap files)
    (ordered : domain.order className given = .ok order)
    (read : domain.snapshot files = .ok snapshot)
    (done : domain.perform Memory.backend action className given memory files =
      (.ok change, final, next)) (succeeded : change.tally.failed = 0) (set : String)
    (address : Ip) :
    final.IsMember set address ↔
      (Moves snapshot order.pattern address →
          Puts order action set ∨ ¬ domain.Takes order action set ∧ memory.IsMember set address) ∧
        (¬ Moves snapshot order.pattern address → memory.IsMember set address) := by
  obtain ⟨_, placed, normal⟩ := order_eq_ok ordered
  obtain ⟨written, edited, changed, moved, made, reconciled⟩ := perform_eq_ok ordered done
  obtain ⟨other, readAgain, counted, saved⟩ := reconcile_eq_ok reconciled
  rw [snapshot_eq_of_sameFile (keepsMap.sameFile placed made) read readAgain] at counted saved
  rw [counted] at succeeded
  rw [← names_addressesMatching (Pattern.proper_of_normalize normal),
    ← (settles_treatment distinct placed action).isMember_forAddresses succeeded]
  exact isMember_saveChanged saved

theorem isMember_addPattern [Files.Caller]
    (distinct : (domain.classes.map ClassSettings.set).Nodup)
    (keepsMap : domain.KeepsMap files) (ordered : domain.order className given = .ok order)
    (read : domain.snapshot files = .ok snapshot)
    (done : domain.addPattern Memory.backend className given memory files =
      (.ok change, final, next)) (succeeded : change.tally.failed = 0)
    {settings : ClassSettings} {index : Nat} (found : domain.classes[index]? = some settings)
    (address : Ip) :
    final.IsMember settings.set address ↔
      (Moves snapshot order.pattern address → index = order.place) ∧
        (¬ Moves snapshot order.pattern address → memory.IsMember settings.set address) := by
  obtain ⟨_, placed, _⟩ := order_eq_ok ordered
  rw [isMember_perform .add distinct keepsMap ordered read done succeeded]
  simp only [Puts, Takes, set_eq_iff distinct found placed, mem_others_sets_iff distinct found]
  grind

theorem isMember_removePattern [Files.Caller]
    (distinct : (domain.classes.map ClassSettings.set).Nodup)
    (keepsMap : domain.KeepsMap files) (ordered : domain.order className given = .ok order)
    (read : domain.snapshot files = .ok snapshot)
    (done : domain.removePattern Memory.backend className given memory files =
      (.ok change, final, next)) (succeeded : change.tally.failed = 0)
    {settings : ClassSettings} {index : Nat} (found : domain.classes[index]? = some settings)
    (address : Ip) :
    final.IsMember settings.set address ↔
      (Moves snapshot order.pattern address → index ≠ order.place) ∧
        memory.IsMember settings.set address := by
  obtain ⟨_, placed, _⟩ := order_eq_ok ordered
  rw [isMember_perform .remove distinct keepsMap ordered read done succeeded]
  simp only [Puts, Takes, set_eq_iff distinct found placed]
  grind

/-! ### Sets in step with routes -/

/-- Something holds of every recorded address of every name that is routed to a class. -/
def EachRouted (domain : Domain) (files : Files.Store) (snapshot : Snapshot)
    (Property : String → Ip → Nat → String → Prop) : Prop :=
  ∀ pair ∈ snapshot.pairs, ∀ address, Names pair.2 address → ∀ index settings,
    (domain.patternStore files).classify pair.1 = .proxied index →
    domain.classes[index]? = some settings → Property pair.1 address index settings.set

/-- The recorded addresses of names that are routed to a class are members of its set. -/
def InStep (domain : Domain) (files : Files.Store) (snapshot : Snapshot) (memory : Memory) : Prop :=
  domain.EachRouted files snapshot fun _ address _ set => memory.IsMember set address

theorem EachRouted.congr {Property Other : String → Ip → Nat → String → Prop}
    (same : ∀ pair ∈ snapshot.pairs, ∀ address, Names pair.2 address → ∀ index settings,
      (domain.patternStore files).classify pair.1 = .proxied index →
      domain.classes[index]? = some settings →
      (Property pair.1 address index settings.set ↔ Other pair.1 address index settings.set)) :
    domain.EachRouted files snapshot Property ↔ domain.EachRouted files snapshot Other := by
  constructor
  · intro all pair recorded address names index settings routed found
    exact (same pair recorded address names index settings routed found).mp
      (all pair recorded address names index settings routed found)
  · intro all pair recorded address names index settings routed found
    exact (same pair recorded address names index settings routed found).mpr
      (all pair recorded address names index settings routed found)

/--
When the sets were in step with the routes, an edit without failure leaves them so exactly if two
things hold of every recorded address of every name that is routed to a class now. An address that
the edit moved has to have gone to that class, or not to have left it; and one that stayed has to
have been in the set of that class, if the name was routed elsewhere before.
-/
theorem edit_inStep_iff [Files.Caller] (domain : Domain) (className given pattern : String)
    (place : Nat) (memory : Memory) (files : Files.Store) (snapshot : Snapshot)
    (keepsMap : domain.KeepsMap files) (distinct : (domain.classes.map ClassSettings.set).Nodup)
    (placed : domain.classes.findIdx? (·.name == className) = some place)
    (normal : Pattern.normalize given = .ok pattern)
    (read : domain.snapshot files = .ok snapshot)
    (inStep : domain.InStep files snapshot memory) :
    (∀ change final next,
      domain.addPattern Memory.backend className given memory files = (.ok change, final, next) →
      change.tally.failed = 0 →
      (domain.InStep next snapshot final ↔
        domain.EachRouted next snapshot fun name address index set =>
          (Moves snapshot pattern address → index = place) ∧
            (¬ Moves snapshot pattern address →
              (domain.patternStore files).classify name ≠ .proxied index →
              memory.IsMember set address))) ∧
    (∀ change final next,
      domain.removePattern Memory.backend className given memory files =
        (.ok change, final, next) →
      change.tally.failed = 0 →
      (domain.InStep next snapshot final ↔
        domain.EachRouted next snapshot fun name address index set =>
          (Moves snapshot pattern address → index ≠ place) ∧
            ((domain.patternStore files).classify name ≠ .proxied index →
              memory.IsMember set address))) := by
  obtain ⟨settings, ordered⟩ := exists_order placed normal
  refine ⟨?_, ?_⟩
  · intro change final next done succeeded
    apply EachRouted.congr
    intro pair recorded address names index settings _ found
    rw [isMember_addPattern distinct keepsMap ordered read done succeeded found]
    by_cases before : (domain.patternStore files).classify pair.1 = .proxied index
    · have member := inStep pair recorded address names index settings before found
      simp only [before, member, ne_eq, not_true, implies_true]
    · simp only [ne_eq, before, not_false_iff, true_imp_iff]
  · intro change final next done succeeded
    apply EachRouted.congr
    intro pair recorded address names index settings _ found
    rw [isMember_removePattern distinct keepsMap ordered read done succeeded found]
    by_cases before : (domain.patternStore files).classify pair.1 = .proxied index
    · have member := inStep pair recorded address names index settings before found
      simp only [before, member, ne_eq, not_true, false_imp_iff]
    · simp only [ne_eq, before, not_false_iff, true_imp_iff]

/-! ### Overlapping patterns -/

theorem inStep_iff : domain.InStep files snapshot memory ↔
    ∀ pair ∈ snapshot.pairs, ∀ text ∈ pair.2, ∀ address ∈ Ip.parse? text.toList,
      ∀ index ∈ ((domain.patternStore files).classify pair.1).index?,
      ∀ settings ∈ domain.classes[index]?, address ∈ members memory.sets settings.set := by
  have routed (name : String) (index : Nat) :
      index ∈ ((domain.patternStore files).classify name).index? ↔
        (domain.patternStore files).classify name = .proxied index := by
    cases (domain.patternStore files).classify name <;> simp [Route.index?]
  constructor
  · intro all pair recorded text inPair address parsed index route settings found
    exact all pair recorded address ⟨text, inPair, parsed⟩ index settings
      ((routed pair.1 index).mp route) found
  · rintro all pair recorded address ⟨text, inPair, parsed⟩ index settings route found
    exact all pair recorded text inPair address parsed index ((routed pair.1 index).mpr route)
      settings found

instance (domain : Domain) (files : Files.Store) (snapshot : Snapshot) (memory : Memory) :
    Decidable (domain.InStep files snapshot memory) :=
  decidable_of_iff _ inStep_iff.symm

theorem exists_eq_of_told {Value : Type} {result : Except Error Change × Memory × Files.Store}
    {part : Change → Value} {value : Value} (told : result.1.toOption.map part = some value) :
    ∃ change, result = (.ok change, result.2.1, result.2.2) ∧ part change = value := by
  obtain ⟨_ | change, final, next⟩ := result
  · cases told
  · exact ⟨change, rfl, Option.some_inj.mp told⟩

/-- Two classes, and a name with the patterns of both. -/
def overlapping : Domain :=
  ⟨[⟨"first", "first.txt", "192.0.2.53", "one"⟩, ⟨"second", "second.txt", "192.0.2.54", "two"⟩],
    ⟨"map.json", "sets.conf"⟩⟩

def overlappingFiles : Files.Store :=
  .ofList [("first.txt", .file (utf8 "video\n")), ("second.txt", .file (utf8 "example\n")),
    ("map.json", .file (utf8 "\x7b\"video.example\": [\"192.0.2.1\"]\x7d"))]

def overlappingSnapshot : Snapshot :=
  .ofList [("video.example", ["192.0.2.1"])]

/-- Sets in memory with the address of the name as only member of some. -/
def setsWith (sets : List String) : Memory :=
  { Memory.new false with sets := .ofList (sets.map fun set => (set, [.v4 ⟨192, 0, 2, 1⟩])) }

theorem snapshot_overlapping :
    overlapping.snapshot overlappingFiles = .ok overlappingSnapshot := by
  decide +kernel

section Overlapping

attribute [local instance] Files.Caller.first

/-- The first class loses its pattern. -/
def removal (sets : List String) : Except Error Change × Memory × Files.Store :=
  overlapping.removePattern Memory.backend "first" "video" (setsWith sets) overlappingFiles

/-- The second class is given the pattern that it has. -/
def addition (sets : List String) : Except Error Change × Memory × Files.Store :=
  overlapping.addPattern Memory.backend "second" "example" (setsWith sets) overlappingFiles

theorem edit_inStep_iff_shared :
    overlapping.InStep overlappingFiles overlappingSnapshot (setsWith ["one", "two"]) ∧
    (removal ["one", "two"]).1.toOption.map (·.tally.failed) = some 0 ∧
    overlapping.InStep (removal ["one", "two"]).2.2 overlappingSnapshot
      (removal ["one", "two"]).2.1 ∧
    overlapping.EachRouted (removal ["one", "two"]).2.2 overlappingSnapshot
      fun name address index set =>
        (Moves overlappingSnapshot "video" address → index ≠ 0) ∧
          ((overlapping.patternStore overlappingFiles).classify name ≠ .proxied index →
            (setsWith ["one", "two"]).IsMember set address) := by
  have keepsMap : overlapping.KeepsMap overlappingFiles := by
    have differ : ∀ settings ∈ overlapping.classes,
        overlappingFiles.Differ overlapping.files.map settings.patterns ∧
          overlappingFiles.Differ overlapping.files.map
            (Files.temporaryName settings.patterns) := by
      decide +kernel
    exact fun settings found => ⟨(differ settings found).1, (differ settings found).2⟩
  have before : overlapping.InStep overlappingFiles overlappingSnapshot
      (setsWith ["one", "two"]) := by
    decide +kernel
  have counted : (removal ["one", "two"]).1.toOption.map (·.tally.failed) = some 0 := by
    decide +kernel
  have after : overlapping.InStep (removal ["one", "two"]).2.2 overlappingSnapshot
      (removal ["one", "two"]).2.1 := by
    decide +kernel
  obtain ⟨change, done, succeeded⟩ := exists_eq_of_told counted
  have exactly := (edit_inStep_iff overlapping "first" "video" "video" 0 (setsWith ["one", "two"])
    overlappingFiles overlappingSnapshot keepsMap (by decide) (by decide)
    (by decide +kernel) snapshot_overlapping before).2 change _ _ done
    succeeded
  exact ⟨before, counted, after, exactly.mp after⟩

/--
A removal takes the address of a name out of the set of its old class, but does not add it to the
set of the class that the name belongs to now. An addition takes it out of the set of an earlier
class, although the name still belongs to that class.
-/
theorem edits_leave_step :
    overlapping.snapshot overlappingFiles = .ok overlappingSnapshot ∧
    overlapping.InStep overlappingFiles overlappingSnapshot (setsWith ["one"]) ∧
    ((removal ["one"]).1.toOption.map (·.tally.failed) = some 0 ∧
      ¬ overlapping.InStep (removal ["one"]).2.2 overlappingSnapshot (removal ["one"]).2.1) ∧
    (addition ["one"]).1.toOption.map (·.tally.failed) = some 0 ∧
      ¬ overlapping.InStep (addition ["one"]).2.2 overlappingSnapshot (addition ["one"]).2.1 :=
  ⟨snapshot_overlapping, by decide +kernel, ⟨by decide +kernel, by decide +kernel⟩,
    by decide +kernel, by decide +kernel⟩

end Overlapping

end Domain

end SplitDns.Admin
