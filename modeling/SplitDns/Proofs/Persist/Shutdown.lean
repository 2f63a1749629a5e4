import SplitDns.AddressSet.Memory
import SplitDns.Config.Check
import SplitDns.Proofs.Persist.Archive

/-!
# A shutdown loses no pair

A change of the map is on its way to the file until it is written: its signal is still to be sent,
or waits, or the map is flagged. `Sound` keeps this through every step, and at the end nothing is
on its way any more unless the last attempt to save the map failed.
-/

namespace SplitDns.Persist.Archive

open SplitDns.Address
open SplitDns.AddressSet
open SplitDns.Dns
open SplitDns.Files

variable {Sets : Type} {paths : SnapshotFiles} {backend : Backend Sets} {path : String}
  {archive next middle final : Archive} {earlier events : List Event}

/-! ### Changes on their way -/

/-- The scheduler has not yet received a signal of the last change. -/
def IsUnheard (archive : Archive) : Prop :=
  0 < archive.unannounced ∨ .addressMap ∈ archive.machine.signals.waiting

structure Sound (path : String) (archive : Archive) : Prop where
  wellFormed : archive.map.WellFormed
  announced : archive.machine.senders = 0 → archive.unannounced = 0
  taken : archive.machine.IsSaving .addressMap →
    archive.taken.WellFormed ∧ (archive.taken = archive.map ∨ archive.IsUnheard)
  saved : ¬ archive.machine.IsSaving .addressMap →
    AddressMap.load archive.files path = archive.map ∨ archive.IsUnheard ∨
      archive.machine.dirty.has .addressMap = true

theorem sound_start {files : Store} (capacity : Nat)
    (normal : ∀ saved, Snapshot.read files path = .ok saved →
      ∀ pair ∈ saved.pairs, normalizeName pair.1 = pair.1) :
    (start path files capacity).Sound path := by
  constructor
  case wellFormed => exact AddressMap.wellFormed_load normal
  case announced => exact fun _ => rfl
  case taken =>
    rintro ⟨_, _, saving⟩
    cases saving
  case saved => exact fun _ => .inl rfl

/-! ### Recording and announcing -/

/-- A pair that changes the map is still to be announced. -/
theorem map_record_or_isUnheard (archive : Archive) (name : String) (address : Ipv4) :
    (archive.record name address).map = archive.map ∨ (archive.record name address).IsUnheard := by
  rw [IsUnheard, record_map, record_unannounced]
  have old := @AddressMap.insert_snd_of_not_new archive.map name (Ip.v4 address).text
  generalize archive.map.insert name (Ip.v4 address).text = result at old
  obtain ⟨new, after⟩ := result
  cases new with
  | false => exact .inl (old rfl)
  | true => exact .inr (.inl (Nat.succ_pos _))

theorem IsUnheard.record (unheard : archive.IsUnheard) (name : String) (address : Ipv4) :
    (archive.record name address).IsUnheard := by
  rw [IsUnheard, record_unannounced, record_machine]
  rcases unheard with owes | waits
  · exact .inl (Nat.lt_of_lt_of_le owes (Nat.le_add_right _ _))
  · exact .inr waits

theorem sound_record (sound : archive.Sound path) {name : String}
    (normal : normalizeName name = name) (alive : 0 < archive.machine.senders)
    (address : Ipv4) : (archive.record name address).Sound path := by
  have fresh := archive.map_record_or_isUnheard name address
  constructor
  case wellFormed =>
    rw [record_map]
    apply AddressMap.wellFormed_insert sound.wellFormed
    rw [normal, normal]
  case announced =>
    rw [record_machine]
    intro none
    exact absurd none (Nat.ne_of_gt alive)
  case taken =>
    rw [record_machine, record_taken]
    intro saving
    obtain ⟨takenFormed, same⟩ := sound.taken saving
    refine ⟨takenFormed, ?_⟩
    rcases fresh with equal | news
    · rw [equal]
      exact same.imp id fun unheard => unheard.record name address
    · exact .inr news
  case saved =>
    rw [record_machine, record_files]
    intro free
    rcases fresh with equal | news
    · rw [equal]
      exact (sound.saved free).imp id (.imp (fun unheard => unheard.record name address) id)
    · exact .inr (.inl news)

theorem sound_announce (sound : archive.Sound path) (alive : 0 < archive.machine.senders)
    (accepted : (archive.machine.send .addressMap).1 = true) : archive.announce.Sound path := by
  have heard : archive.announce.IsUnheard := by
    refine .inr ?_
    rw [Machine.send] at accepted
    rw [announce, Machine.send, waiting_send, if_pos accepted]
    exact List.mem_append_right _ List.mem_cons_self
  constructor
  case wellFormed => exact sound.wellFormed
  case announced => exact fun none => absurd none (Nat.ne_of_gt alive)
  case taken => exact fun saving => ⟨(sound.taken saving).1, .inr heard⟩
  case saved => exact fun _ => .inr (.inl heard)

/-! ### Steps of the scheduler -/

section Schedule

variable {machine : Machine} {files : Store}

theorem isUnheard_or_flagged_advance (step : Machine.Step archive.machine events machine)
    (unheard : archive.IsUnheard) :
    (archive.advance events machine files).IsUnheard ∨
      machine.dirty.has .addressMap = true ∧ machine.stage = .waiting := by
  rcases unheard with owes | waits
  · exact .inl (.inl owes)
  · exact (Machine.waits_or_flagged_step step waits).imp .inr id

theorem taken_advance (sound : archive.Sound path)
    (step : Machine.Step archive.machine events machine) (files : Store)
    (saving : machine.IsSaving .addressMap) :
    (archive.advance events machine files).taken.WellFormed ∧
      ((archive.advance events machine files).taken = archive.map ∨
        (archive.advance events machine files).IsUnheard) := by
  have taken : (archive.advance events machine files).taken =
      if .began .addressMap ∈ events then archive.map else archive.taken := rfl
  cases Machine.attempt_step step .addressMap with
  | rests unbegun _ same _ =>
      obtain ⟨takenFormed, equal⟩ := sound.taken (same.mp saving)
      rw [taken, if_neg unbegun]
      refine ⟨takenFormed, equal.imp id ?_⟩
      intro before
      rcases isUnheard_or_flagged_advance step before with unheard | ⟨_, waits⟩
      · exact unheard
      · obtain ⟨_, _, stage⟩ := saving
        rw [waits] at stage
        cases stage
  | begins begun _ =>
      rw [taken, if_pos begun]
      exact ⟨sound.wellFormed, .inl rfl⟩
  | ends _ _ _ _ free _ => exact absurd saving free

theorem saved_advance (sound : archive.Sound path)
    (step : Machine.Step archive.machine events machine)
    (written : Written path archive.taken events archive.files files)
    (free : ¬ machine.IsSaving .addressMap) :
    AddressMap.load files path = archive.map ∨
      (archive.advance events machine files).IsUnheard ∨
        machine.dirty.has .addressMap = true := by
  have heard (unheard : archive.IsUnheard) :
      (archive.advance events machine files).IsUnheard ∨ machine.dirty.has .addressMap = true :=
    (isUnheard_or_flagged_advance step unheard).imp id And.left
  cases Machine.attempt_step step .addressMap with
  | rests _ unsettled same flagged =>
      have loaded := AddressMap.load_of_sameFile (written.kept unsettled)
      rcases sound.saved (mt same.mpr free) with equal | unheard | dirty
      · exact .inl (loaded.trans equal)
      · exact .inr (heard unheard)
      · exact .inr (.inr (flagged dirty))
  | begins _ saving => exact absurd saving free
  | ends saved saving _ settled _ flag =>
      cases saved with
      | false => exact .inr (.inr flag)
      | true =>
          obtain ⟨takenFormed, equal⟩ := sound.taken saving
          have loaded := (written.stored ((settled true).mpr rfl)).trans
            (AddressMap.ofSnapshot_snapshot takenFormed)
          rcases equal with same | unheard
          · exact .inl (loaded.trans same)
          · exact .inr (heard unheard)

theorem sound_advance (sound : archive.Sound path)
    (step : Machine.Step archive.machine events machine)
    (announced : machine.senders = 0 → archive.unannounced = 0)
    (written : Written path archive.taken events archive.files files) :
    (archive.advance events machine files).Sound path := by
  constructor
  case wellFormed => exact sound.wellFormed
  case announced => exact announced
  case taken => exact taken_advance sound step files
  case saved =>
    intro free
    have onItsWay := saved_advance sound step written free
    exact onItsWay

end Schedule

/-! ### Runs -/

theorem sound_run (run : Run paths backend archive events final) (apart : paths.Apart archive.files)
    (sound : archive.Sound paths.map) (accepted : .sent .addressMap false ∉ events) :
    final.Sound paths.map := by
  induction run with
  | refl => exact sound
  | snoc run step inductionHypothesis =>
      rw [List.mem_append, not_or] at accepted
      have before := inductionHypothesis accepted.1
      have written := step.written (apart.of_sameDirectories run.directories)
      cases step with
      | record name address normal alive => exact sound_record before normal alive address
      | announce alive new =>
          apply sound_announce before alive
          by_contra dropped
          rw [Bool.not_eq_true] at dropped
          exact accepted.2 (by simp [dropped])
      | schedule step busy announced => exact sound_advance before step announced written
      | @settle _ _ _ saved _ stage saves =>
          exact sound_advance before (.settle saved stage) before.announced written

/-- When the scheduler has ended, only a failed attempt can have kept a change from the file. -/
theorem load_of_ended (sound : archive.Sound path) (closed : archive.machine.Closed)
    (ended : archive.machine.stage = .ended)
    (clean : archive.machine.dirty.has .addressMap = false) :
    AddressMap.load archive.files path = archive.map := by
  obtain ⟨alone, empty⟩ := closed (.inl ended)
  have free : ¬ archive.machine.IsSaving .addressMap := by
    rintro ⟨_, _, saving⟩
    rw [ended] at saving
    cases saving
  rcases sound.saved free with equal | unheard | flagged
  · exact equal
  · rcases unheard with owes | waits
    · rw [sound.announced alone] at owes
      cases owes
    · rw [empty] at waits
      cases waits
  · rw [clean] at flagged
    cases flagged

/-! ### What a map knows after a run -/

/-- The map knows what it knew, what was recorded since, and nothing else. -/
theorem knows_run (run : Run paths backend archive events final) (fresh : archive.recorded = [])
    (name text : String) :
    final.map.knows name text = true ↔
      archive.map.knows name text = true ∨
        name ≠ "" ∧ ∃ address, (name, address) ∈ final.recorded ∧ text = (Ip.v4 address).text := by
  induction run with
  | refl =>
      rw [fresh]
      simp
  | snoc _ step inductionHypothesis =>
      cases step with
      | announce alive new => exact inductionHypothesis
      | schedule step busy announced => exact inductionHypothesis
      | settle stage saves => exact inductionHypothesis
      | record other address normal alive =>
          rw [record_map, record_recorded, AddressMap.knows_insert_ipv4 normal,
            inductionHypothesis]
          constructor
          · rintro ((old | ⟨named, known, earlier, equal⟩) | ⟨named, rfl, equal⟩)
            · exact .inl old
            · exact .inr ⟨named, known, List.mem_append_left _ earlier, equal⟩
            · exact .inr ⟨named, address, by simp, equal⟩
          · rintro (old | ⟨named, known, found, equal⟩)
            · exact .inl (.inl old)
            · rcases List.mem_append.mp found with earlier | last
              · exact .inl (.inr ⟨named, known, earlier, equal⟩)
              · cases List.mem_singleton.mp last
                exact .inr ⟨named, rfl, equal⟩

/--
If the map has a file of its own, a shutdown without a dropped signal of the map loses no pair,
unless the last attempt to save the map failed: what is loaded is the final map, which knows what
was loaded at the start and every pair that was recorded.
-/
theorem load_of_shutdown (paths : SnapshotFiles) (backend : Backend Sets) (files : Store)
    (capacity : Nat) (events : List Event) (final : Archive)
    (normal : ∀ saved, Snapshot.read files paths.map = .ok saved →
      ∀ pair ∈ saved.pairs, normalizeName pair.1 = pair.1)
    (apart : paths.Apart files)
    (run : Run paths backend (start paths.map files capacity) events final)
    (accepted : .sent .addressMap false ∉ events) (ended : final.machine.stage = .ended) :
    lastOutcome .addressMap events = some false ∨
      AddressMap.load final.files paths.map = final.map ∧
        ∀ name text, final.map.knows name text = true ↔
          (AddressMap.load files paths.map).knows name text = true ∨
            name ≠ "" ∧ ∃ address, (name, address) ∈ final.recorded ∧
              text = (Ip.v4 address).text := by
  have machineRun := run.machine
  cases flagged : final.machine.dirty.has .addressMap with
  | true => exact .inl (Machine.lastOutcome_of_flagged machineRun ended flagged)
  | false =>
      have sound := sound_run run apart (sound_start capacity normal) accepted
      have closed := Machine.closed_run machineRun (Machine.closed_start capacity)
      exact .inr ⟨load_of_ended sound closed ended flagged, knows_run run rfl⟩

def recordedMap : AddressMap :=
  (AddressMap.empty.insert "host.example" (Ip.v4 ⟨192, 0, 2, 1⟩).text).2

/-- A pair is recorded and announced while there is no file yet. -/
theorem exists_run_recorded (paths : SnapshotFiles) (backend : Backend Sets)
    (missing : AddressMap.load .empty paths.map = .empty) :
    ∃ taken, Run paths backend (start paths.map .empty 1) [.sent .addressMap true]
      ⟨((Machine.start 1).send .addressMap).2, recordedMap, taken, .empty, 0,
        [("host.example", ⟨192, 0, 2, 1⟩)]⟩ := by
  have normal : normalizeName "host.example" = "host.example" := by decide +kernel
  have new : (AddressMap.empty.insert "host.example" (Ip.v4 ⟨192, 0, 2, 1⟩).text).1 = true := by
    decide +kernel
  have begins : start paths.map .empty 1 = ⟨.start 1, .empty, .empty, .empty, 0, []⟩ := by
    rw [start, missing]
  rw [begins, recordedMap]
  have recorded : Run paths backend ⟨.start 1, .empty, .empty, .empty, 0, []⟩ [] _ :=
    .snoc .refl (.record "host.example" ⟨192, 0, 2, 1⟩ normal Nat.one_pos)
  rw [record] at recorded
  simp only [new, if_true] at recorded
  exact ⟨_, recorded.snoc (.announce Nat.one_pos Nat.one_pos)⟩

section Recorded

attribute [local instance] Caller.first

def recordedPaths : SnapshotFiles :=
  ⟨"map.json", "sets.conf"⟩

theorem apart_recordedPaths (files : Store) : recordedPaths.Apart files := by
  have map : Store.Ending recordedPaths.map := ⟨by decide, 'n', by decide, by decide⟩
  have sets : Store.Ending recordedPaths.sets := ⟨by decide, 'f', by decide, by decide⟩
  exact SnapshotFiles.apart_of_names map sets (by decide) (by decide)

/-- The pair is announced and saved at the end. -/
theorem load_of_shutdown_recorded :
    ∃ events final,
      Run recordedPaths Memory.backend (start recordedPaths.map .empty 1) events final ∧
      recordedPaths.Apart .empty ∧ final.machine.stage = .ended ∧
      lastOutcome .addressMap events = some true ∧
      AddressMap.load final.files recordedPaths.map = final.map ∧
      final.map.knows "host.example" (Ip.v4 ⟨192, 0, 2, 1⟩).text = true := by
  have missing : ∀ saved, Snapshot.read .empty recordedPaths.map ≠ .ok saved := by
    intro saved read
    have none : (Snapshot.read .empty recordedPaths.map).toOption.isNone = true := by
      decide +kernel
    rw [read] at none
    cases none
  have saved : (recordedPaths.save Memory.backend .addressMap recordedMap (.new false)
      .empty).1.isOk = true := by
    decide +kernel
  obtain ⟨taken, announced⟩ := exists_run_recorded recordedPaths Memory.backend
    (AddressMap.load_of_error (by decide +kernel : Store.read .empty "map.json" = .error .notFound))
  have dropped := announced.snoc (.schedule (.drop Nat.one_pos) (by simp) (fun _ => rfl))
  have received := dropped.snoc (.schedule (.receive rfl rfl) (by simp) (fun _ => rfl))
  have finished := received.snoc (.schedule (.finish rfl rfl rfl)
    (fun _ saved => Machine.settled_not_mem_begun saved _) (fun _ => rfl))
  have settled := finished.snoc (.settle rfl (SnapshotFiles.saves_of_isOk saved))
  have whole : Run recordedPaths Memory.backend (start recordedPaths.map .empty 1)
      [.sent .addressMap true, .began .addressMap, .settled .addressMap true] _ := settled
  rcases load_of_shutdown recordedPaths Memory.backend .empty 1 _ _
    (fun saved read => absurd read (missing saved)) (apart_recordedPaths .empty) whole (by decide)
    rfl with failed | ⟨loaded, knows⟩
  · cases failed
  · exact ⟨_, _, whole, apart_recordedPaths .empty, rfl, rfl, loaded,
      (knows _ _).mpr (.inr ⟨by decide, _, List.mem_cons_self, rfl⟩)⟩

/-- The dump of the sets goes to the file of the map, which no check refuses. -/
def sharedFile : Config :=
  { Config.default with
    server := ⟨"127.0.0.1:53", some "192.0.2.1", 30⟩
    persistence := ⟨"state", "state", 10, 2, 1⟩
    classes := [⟨"proxied", "patterns.txt", "192.0.2.53", "firewall"⟩] }

def filledSets : Memory :=
  { Memory.new false with sets := .ofList [("firewall", [.v4 ⟨192, 0, 2, 1⟩])] }

/-- The map is saved to the file. -/
def savedFiles : Store :=
  (sharedFile.persistence.files.save Memory.backend .addressMap recordedMap filledSets .empty).2.2

/--
Where the map has no file of its own, a dump of the sets that comes after the last attempt to save
the map takes its place: that attempt succeeded, no signal was dropped, and the pair is lost.
-/
theorem shared_file_loses_pair :
    sharedFile.check = .ok () ∧
    ∃ events final,
      Run sharedFile.persistence.files Memory.backend
        (start sharedFile.persistence.mapFile .empty sharedFile.persistence.signalCapacity) events
        final ∧
      (∀ kind, .sent kind false ∉ events) ∧ final.machine.stage = .ended ∧
      lastOutcome .addressMap events = some true ∧
      final.map.knows "host.example" (Ip.v4 ⟨192, 0, 2, 1⟩).text = true ∧
      AddressMap.load final.files sharedFile.persistence.mapFile = .empty := by
  have checked : sharedFile.check = .ok () := by decide +kernel
  have missing : Store.read .empty sharedFile.persistence.mapFile = .error .notFound := by
    decide +kernel
  have saved : (sharedFile.persistence.files.save Memory.backend .addressMap recordedMap filledSets
      .empty).1.isOk = true := by
    decide +kernel
  have dumped : (sharedFile.persistence.files.save Memory.backend .addressSet recordedMap filledSets
      savedFiles).1.isOk = true := by
    decide +kernel
  have lost : AddressMap.load (sharedFile.persistence.files.save Memory.backend .addressSet
      recordedMap filledSets savedFiles).2.2 sharedFile.persistence.mapFile = .empty := by
    have unread : Snapshot.read (sharedFile.persistence.files.save Memory.backend .addressSet
        recordedMap filledSets savedFiles).2.2 sharedFile.persistence.mapFile =
          .error .malformed := by
      decide +kernel
    rw [AddressMap.load, unread]
  have known : recordedMap.knows "host.example" (Ip.v4 ⟨192, 0, 2, 1⟩).text = true := by
    decide +kernel
  obtain ⟨taken, announced⟩ := exists_run_recorded sharedFile.persistence.files Memory.backend
    (AddressMap.load_of_error missing)
  have received := announced.snoc (.schedule (.receive rfl rfl) (by simp) (fun _ => rfl))
  have fired := received.snoc (.schedule (.fire rfl)
    (fun _ saved => Machine.settled_not_mem_begun saved _) (fun _ => rfl))
  have settled := fired.snoc (.settle rfl (SnapshotFiles.saves_of_isOk saved))
  have signalled := settled.snoc
    (.schedule (.signal .addressSet Nat.one_pos) (by simp) (fun _ => rfl))
  have again := signalled.snoc (.schedule (.receive rfl rfl) (by simp) (fun _ => rfl))
  have dropped := again.snoc (.schedule (.drop Nat.one_pos) (by simp) (fun _ => rfl))
  have finished := dropped.snoc (.schedule (.finish rfl rfl rfl)
    (fun _ saved => Machine.settled_not_mem_begun saved _) (fun _ => rfl))
  have overwritten := finished.snoc (.settle rfl (SnapshotFiles.saves_of_isOk dumped))
  have whole : Run sharedFile.persistence.files Memory.backend
      (start sharedFile.persistence.mapFile .empty sharedFile.persistence.signalCapacity)
      [.sent .addressMap true, .began .addressMap, .settled .addressMap true,
        .sent .addressSet true, .began .addressSet, .settled .addressSet true] _ := overwritten
  exact ⟨checked, _, _, whole, by simp, rfl, rfl, known, lost⟩

end Recorded

end SplitDns.Persist.Archive
