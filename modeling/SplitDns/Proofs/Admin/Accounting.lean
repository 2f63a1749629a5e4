import SplitDns.Proofs.AddressSet.Asking
import SplitDns.Proofs.Admin.Tallying

/-!
# What an edit does to the sets

Where sets need not be created, an edit that succeeds has reconciled the sets with the recorded
addresses of its pattern: `reconciles` says which memberships there are afterwards, what is counted,
and what dump of the sets is left.
-/

namespace SplitDns.Admin

open SplitDns.Address
open SplitDns.AddressSet
open SplitDns.AddressSet.Memory (SameSwitches departed)
open SplitDns.Pattern (StandsIn)

variable {action : Action} {order : Order} {tally : Tally} {memory middle final : Memory}
  {edited next : Files.Store} {texts : List String}

/-! ### The dump -/

/-- Sets that have changed are saved, unless everything fails. -/
theorem saveChanged_eq [Files.Caller] (path : String) (running : memory.failAll = false)
    (changed : tally.added + tally.removed ≠ 0) (files : Files.Store) :
    saveChanged Memory.backend path tally memory files =
      (memory.log .save, (files.replaceText path memory.dump).2) := by
  have saved : Memory.backend.save memory = (.ok memory.dump, memory.log .save) := by
    have allowed : (memory.log .save).injected "save" none = .ok () := by
      simp [Memory.injected, Memory.log, running]
    change Memory.save memory = _
    rw [Memory.save, allowed]
    rfl
  rw [saveChanged, if_neg changed, Persist.saveSets, saved]

namespace Domain

variable {domain : Domain}

/-! ### The sets -/

theorem length_others (placed : domain.classes[order.place]? = some order.settings) :
    (domain.others order).length + 1 = domain.classes.length := by
  obtain ⟨inside, _⟩ := List.getElem?_eq_some_iff.mp placed
  rw [others, List.length_eraseIdx_of_lt inside]
  omega

/-- What is counted for an address that passes. -/
def gain : Action → Nat
  | .add => 1
  | .remove => 0

/-- The failures that are counted for an address that fails. -/
def cost (domain : Domain) : Action → Nat
  | .add => domain.classes.length
  | .remove => 1

section Treatment

variable (placed : domain.classes[order.place]? = some order.settings)

include placed

theorem accounted_treatment (distinct : (domain.classes.map ClassSettings.set).Nodup)
    (action : Action) (address : Ip) (tally : Tally) (memory : Memory) :
    Accounted (Puts order action) (tally, memory)
      (domain.treatment order action address tally memory) := by
  cases action with
  | add =>
      apply accounted_moveMember
      · rfl
      · exact fun set inOthers => ((mem_others_sets distinct placed).mp inOthers).1
  | remove => exact accounted_removeMember id

theorem costs_treatment (valid : ∀ settings ∈ domain.classes, isValidName settings.set = true)
    (action : Action) :
    Costs (domain.treatment order action) (gain action) (domain.cost action) := by
  have target := valid order.settings (List.mem_of_getElem? placed)
  cases action with
  | add =>
      have othersValid : ∀ set ∈ (domain.others order).map ClassSettings.set,
          isValidName set = true := by
        intro set inOthers
        obtain ⟨other, found, rfl⟩ := List.mem_map.mp inOthers
        exact valid other ((List.eraseIdx_sublist _ _).mem found)
      have costs := costs_moveMember target othersValid
      rw [List.length_map, length_others placed] at costs
      exact costs
  | remove => exact costs_removeMember target

end Treatment

/--
The sets are reconciled with texts: the addresses among them that pass are members as the edit
demands, every other membership is as it was, and the counts tell what happened.
-/
structure Reconciled (domain : Domain) (order : Order) (action : Action) (texts : List String)
    (memory final : Memory) (tally : Tally) : Prop where
  reached : ∀ set address, Names texts address → ¬ memory.Fails address →
    (final.IsMember set address ↔
      match action with
      | .add => set = order.settings.set ∨
          set ∉ domain.classes.map ClassSettings.set ∧ memory.IsMember set address
      | .remove => set ≠ order.settings.set ∧ memory.IsMember set address)
  kept : ∀ set address, ¬ (Names texts address ∧ ¬ memory.Fails address) →
    (final.IsMember set address ↔ memory.IsMember set address)
  added : tally.added = gain action * texts.countP (passes memory)
  removed : tally.removed = (departed memory final).card
  failed : tally.failed =
    texts.countP isUnreadable + domain.cost action * texts.countP (fails memory)

theorem reconciled_forAddresses (distinct : (domain.classes.map ClassSettings.set).Nodup)
    (valid : ∀ settings ∈ domain.classes, isValidName settings.set = true)
    (placed : domain.classes[order.place]? = some order.settings)
    (lenient : memory.strict = false) (action : Action) (texts : List String) :
    domain.Reconciled order action texts memory
        (forAddresses (domain.treatment order action) texts memory).2
        (forAddresses (domain.treatment order action) texts memory).1 ∧
      SameSwitches memory (forAddresses (domain.treatment order action) texts memory).2 := by
  have start : ((Tally.zero, memory) : Tally × Memory).2.strict = false := lenient
  have handled := handled_foldl (settles_treatment distinct placed action)
    (costs_treatment placed valid action) start texts
  have accounted := accounted_foldl (accounted_treatment placed distinct action) texts
    (Tally.zero, memory)
  refine ⟨?_, handled.switches⟩
  constructor
  case reached =>
    intro set address named passing
    apply (handled.reached set address named passing).trans
    cases action with
    | add =>
        simp only [Puts, Takes, mem_others_sets distinct placed]
        grind
    | remove => simp only [Puts, Takes, false_or, ne_eq]
  case kept => exact handled.kept
  case added => exact handled.added.trans (Nat.zero_add _)
  case removed => exact accounted.removed.trans (Nat.zero_add _)
  case failed =>
    apply handled.failed.trans
    rw [Nat.add_assoc]
    exact Nat.zero_add _

section Reconciled

variable (reconciled : domain.Reconciled order action texts memory final tally)

include reconciled

theorem Reconciled.congr {other : Memory} (same : other.sets = final.sets) :
    domain.Reconciled order action texts memory other tally := by
  have members (set : String) (address : Ip) :
      other.IsMember set address ↔ final.IsMember set address := by
    rw [Memory.IsMember, Memory.IsMember, same]
  have gone : departed memory other = departed memory final := by
    rw [departed, departed, Memory.memberships, Memory.memberships, Memory.memberships, same]
  constructor
  case reached =>
    intro set address named passing
    exact (members set address).trans (reconciled.reached set address named passing)
  case kept =>
    intro set address unreached
    exact (members set address).trans (reconciled.kept set address unreached)
  case added => exact reconciled.added
  case removed => exact reconciled.removed.trans (congrArg Finset.card gone.symm)
  case failed => exact reconciled.failed

theorem Reconciled.exists_passing (changed : tally.added + tally.removed ≠ 0) :
    ∃ address, Names texts address ∧ ¬ memory.Fails address := by
  by_cases removed : tally.removed = 0
  · have added : tally.added ≠ 0 := by omega
    rw [reconciled.added] at added
    have some : texts.countP (passes memory) ≠ 0 := by
      intro none
      rw [none, Nat.mul_zero] at added
      exact added rfl
    obtain ⟨text, found, passing⟩ := List.countP_pos_iff.mp (Nat.pos_of_ne_zero some)
    rw [passes, Option.any_eq_true] at passing
    obtain ⟨address, parsed, passing⟩ := passing
    exact ⟨address, ⟨text, found, parsed⟩, by simpa using passing⟩
  · rw [reconciled.removed] at removed
    obtain ⟨⟨set, address⟩, gone⟩ := Finset.card_pos.mp (Nat.pos_of_ne_zero removed)
    obtain ⟨old, absent⟩ := Memory.mem_departed.mp gone
    refine ⟨address, Classical.byContradiction fun unreached => ?_⟩
    exact absent ((reconciled.kept set address unreached).mpr old)

/-- Nothing changes without being counted. -/
theorem Reconciled.counted {set : String} {address : Ip}
    (differs : ¬ (final.IsMember set address ↔ memory.IsMember set address)) :
    tally.added + tally.removed ≠ 0 := by
  intro uncounted
  obtain ⟨named, passing⟩ : Names texts address ∧ ¬ memory.Fails address :=
    Classical.byContradiction fun unreached => differs (reconciled.kept set address unreached)
  have noneGone : departed memory final = ∅ := by
    apply Finset.card_eq_zero.mp
    rw [← reconciled.removed]
    omega
  have still (old : memory.IsMember set address) : final.IsMember set address := by
    refine Classical.byContradiction fun absent => ?_
    have gone : (set, address) ∈ departed memory final := Memory.mem_departed.mpr ⟨old, absent⟩
    rw [noneGone] at gone
    cases gone
  refine differs ⟨fun new => ?_, still⟩
  cases action with
  | remove => exact ((reconciled.reached set address named passing).mp new).2
  | add =>
      obtain ⟨text, found, parsed⟩ := named
      have passes : passes memory text = true := by
        simp [Admin.passes, parsed, passing]
      have some := List.countP_pos_iff.mpr ⟨text, found, passes⟩
      have added := reconciled.added
      rw [gain, Nat.one_mul] at added
      omega

end Reconciled

/-! ### Edits that succeed -/

/--
The dump that an edit leaves. It is not touched when nothing was counted; when a membership changed
or something was counted, it is replaced, and if that succeeds it is the dump of the sets as they
are.
-/
structure LeavesDump [Files.Caller] (domain : Domain) (memory final : Memory) (tally : Tally)
    (edited next : Files.Store) : Prop where
  untouched : tally.added + tally.removed = 0 → next = edited
  replaced : tally.added + tally.removed ≠ 0 ∨
      (∃ set address, ¬ (final.IsMember set address ↔ memory.IsMember set address)) →
    next = (edited.replaceText domain.files.sets final.dump).2 ∧
      ((edited.replaceText domain.files.sets final.dump).1 = .ok () →
        next.readText domain.files.sets = .ok final.dump)

theorem reconciled_saveChanged [Files.Caller]
    (reconciled : domain.Reconciled order action texts memory middle tally)
    (same : SameSwitches memory middle)
    (saved : saveChanged Memory.backend domain.files.sets tally middle edited = (final, next)) :
    domain.Reconciled order action texts memory final tally ∧
      domain.LeavesDump memory final tally edited next := by
  by_cases unchanged : tally.added + tally.removed = 0
  · rw [saveChanged, if_pos unchanged] at saved
    cases saved
    refine ⟨reconciled, fun _ => rfl, ?_⟩
    rintro (changed | ⟨set, address, differs⟩)
    · exact absurd unchanged changed
    · exact absurd unchanged (reconciled.counted differs)
  · obtain ⟨address, _, passing⟩ := reconciled.exists_passing unchanged
    have running : middle.failAll = false := by
      rw [same.failAll]
      exact Bool.eq_false_iff.mpr fun failAll => passing (.inl failAll)
    rw [saveChanged_eq domain.files.sets running unchanged] at saved
    cases saved
    refine ⟨reconciled.congr rfl, fun uncounted => absurd uncounted unchanged, fun _ => ⟨rfl, ?_⟩⟩
    intro written
    exact Files.Store.readText_replaceText (Prod.ext written rfl)

theorem isValidName_of_check {config : Config} (checked : config.check = .ok ())
    {settings : ClassSettings} (found : settings ∈ config.classes) :
    isValidName settings.set = true := by
  obtain ⟨checkedClasses, _⟩ := Config.checkClasses_eq_ok (Config.check_eq_ok checked).2
  obtain ⟨_, _, named⟩ := Config.checkClass_eq_ok (checkedClasses settings found).1
  exact Memory.isValidName_of_checkName named

/--
An edit under an accepted configuration with different sets, on sets that need not be created. It
succeeds if it has come to the sets at all, where each operation is logged. Then the sets are
reconciled with the addresses that the snapshot behind the edited pattern files records for names
with the pattern, each text once, and the dump is the one that this leaves. The snapshot is the one
from before, unless an edit of a pattern file changes it.
-/
theorem reconciles [Files.Caller] (config : Config) (action : Action) (className given : String)
    (order : Order) (memory : Memory) (files : Files.Store) (checked : config.check = .ok ())
    (distinct : (config.classes.map ClassSettings.set).Nodup) (lenient : memory.strict = false)
    (ordered : (Domain.of config).order className given = .ok order) :
    let domain := Domain.of config
    let result := domain.perform Memory.backend action className given memory files
    (result.2.1 ≠ memory → ∃ change, result.1 = .ok change) ∧
    ∀ change, result.1 = .ok change →
      ∃ written edited snapshot,
        FileEdit.Made (domain.fileEdits order action) written files edited ∧
        domain.snapshot edited = .ok snapshot ∧
        (domain.KeepsMap files → ∀ recorded, domain.snapshot files = .ok recorded →
          snapshot = recorded) ∧
        let texts := snapshot.addressesMatching order.pattern
        texts.Nodup ∧
        (∀ text, text ∈ texts ↔
          ∃ entry ∈ snapshot.pairs, StandsIn order.pattern entry.1 ∧ text ∈ entry.2) ∧
        domain.Reconciled order action texts memory result.2.1 change.tally ∧
        domain.LeavesDump memory result.2.1 change.tally edited result.2.2 := by
  intro domain result
  obtain ⟨_, placed, normal⟩ := order_eq_ok ordered
  have performed : domain.perform Memory.backend action className given memory files =
      (result.1, result.2.1, result.2.2) := rfl
  refine ⟨?_, ?_⟩
  · intro touched
    cases outcome : result.1 with
    | error error =>
        rw [outcome] at performed
        exact absurd (perform_eq_error performed).1 touched
    | ok change => exact ⟨change, rfl⟩
  · intro change succeeded
    rw [succeeded] at performed
    obtain ⟨written, edited, changed, moved, made, done⟩ := perform_eq_ok ordered performed
    obtain ⟨snapshot, read, counted, saved⟩ := reconcile_eq_ok done
    obtain ⟨reconciled, same⟩ := reconciled_forAddresses distinct
      (fun settings found => isValidName_of_check checked found) placed lenient action
      (snapshot.addressesMatching order.pattern)
    rw [← counted] at reconciled
    refine ⟨written, edited, snapshot, made, read, ?_, snapshot.nodup_addressesMatching _, ?_,
      reconciled_saveChanged reconciled same saved⟩
    · intro keepsMap recorded readBefore
      exact snapshot_eq_of_sameFile (keepsMap.sameFile placed made) readBefore read
    · exact fun text => Snapshot.mem_addressesMatching (Pattern.proper_of_normalize normal)

/-- Two classes whose files lie beside the snapshot and the dump. -/
def moving : Config :=
  { Config.default with
    server := ⟨"127.0.0.1:53", some "192.0.2.1", 30⟩
    persistence := ⟨"map.json", "sets.conf", 10, 2, 100⟩
    classes := [⟨"first", "first.txt", "192.0.2.53", "one"⟩,
      ⟨"second", "second.txt", "192.0.2.54", "two"⟩] }

/-- One address of the old version, one of the new version in two spellings, one that fails, and a
text that is no address. -/
def movingSnapshot : Snapshot :=
  .ofList [("a.video.example", ["192.0.2.1", "2001:db8::1", "192.0.2.9"]),
    ("b.video.example", ["2001:DB8:0::1", "unknown", "192.0.2.1"])]

def movingFiles : Files.Store :=
  .ofList [("first.txt", .file (Text.utf8 "video\n")),
    ("map.json", .file (Text.utf8 movingSnapshot.toJson))]

/-- The set of the first class also holds the address that fails and one that is not recorded. -/
def movingSets : Memory :=
  { Memory.new false with
    sets := .ofList [("one", [.v4 ⟨192, 0, 2, 1⟩, .v4 ⟨192, 0, 2, 7⟩, .v4 ⟨192, 0, 2, 9⟩])]
    failing := [.v4 ⟨192, 0, 2, 9⟩] }

section Moving

attribute [local instance] Files.Caller.first

/-- The second class is given the pattern that the first has. -/
def move : Except Error Change × Memory × Files.Store :=
  (Domain.of moving).perform Memory.backend .add "second" "Video" movingSets movingFiles

theorem reconciles_moving :
    moving.check = .ok () ∧ (moving.classes.map ClassSettings.set).Nodup ∧
      movingSets.strict = false ∧
      move.1.toOption.map Change.tally = some ⟨3, 1, 3⟩ ∧
      (departed movingSets move.2.1).card = 1 ∧
      move.2.2.readText "sets.conf" = .ok move.2.1.dump := by
  have checked : moving.check = .ok () := by decide +kernel
  have distinct : (moving.classes.map ClassSettings.set).Nodup := by decide +kernel
  obtain ⟨told, dumped⟩ : move.1.toOption.map Change.tally = some ⟨3, 1, 3⟩ ∧
      move.2.2.readText "sets.conf" = .ok move.2.1.dump := by
    decide +kernel
  have placed : (Domain.of moving).classes.findIdx? (·.name == "second") = some 1 := by
    decide +kernel
  have normal : Pattern.normalize "Video" = .ok "video" := by decide +kernel
  obtain ⟨settings, ordered⟩ := exists_order placed normal
  obtain ⟨change, done, tally⟩ := exists_eq_of_told told
  obtain ⟨_, _, _, _, _, _, _, _, reconciled, _⟩ := (reconciles moving .add "second" "Video" _
    movingSets movingFiles checked distinct rfl ordered).2 change (congrArg Prod.fst done)
  refine ⟨checked, distinct, rfl, told, ?_, dumped⟩
  change (departed movingSets ((Domain.of moving).perform _ _ _ _ _ _).2.1).card = 1
  rw [← reconciled.removed, tally]

end Moving

end Domain

end SplitDns.Admin
