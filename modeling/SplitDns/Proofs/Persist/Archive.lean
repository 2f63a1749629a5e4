import SplitDns.Engine.Session
import SplitDns.Proofs.Persist.Attempts
import SplitDns.Proofs.Persist.Snapshots
import SplitDns.Proofs.Query.Observing

/-!
# The scheduler and the map it saves

Queries record pairs and announce those that are new, in two steps between which everything else
may happen. An attempt to save the map writes what the map was when the attempt began, and every
attempt leaves what `SnapshotFiles.save` leaves. A flush of the engine is a run of these steps,
`exists_run_flush`, and so is whatever `resolve` does to the shared state, `reaches_resolve`.
-/

namespace SplitDns.Persist

open SplitDns.Address
open SplitDns.AddressSet
open SplitDns.Dns
open SplitDns.Exchange
open SplitDns.Files
open SplitDns.Listener
open SplitDns.Query

structure Archive where
  machine : Machine
  map : AddressMap
  /-- The map when the last attempt to save it began. -/
  taken : AddressMap
  files : Store
  /-- The number of new pairs whose signal is still to be sent. -/
  unannounced : Nat
  /-- All pairs that were ever recorded. No step depends on it. -/
  recorded : List (String × Ipv4)

namespace Archive

/-- The map is loaded from the file, and one sender is there. -/
def start (path : String) (files : Store) (capacity : Nat) : Archive :=
  ⟨.start capacity, .load files path, .empty, files, 0, []⟩

def record (archive : Archive) (name : String) (address : Ipv4) : Archive :=
  let result := archive.map.insert name (Ip.v4 address).text
  { archive with
    map := result.2
    unannounced := archive.unannounced + if result.1 then 1 else 0
    recorded := archive.recorded ++ [(name, address)] }

@[simp]
theorem record_machine (archive : Archive) (name : String) (address : Ipv4) :
    (archive.record name address).machine = archive.machine := by
  rw [record]

@[simp]
theorem record_taken (archive : Archive) (name : String) (address : Ipv4) :
    (archive.record name address).taken = archive.taken := by
  rw [record]

@[simp]
theorem record_files (archive : Archive) (name : String) (address : Ipv4) :
    (archive.record name address).files = archive.files := by
  rw [record]

@[simp]
theorem record_recorded (archive : Archive) (name : String) (address : Ipv4) :
    (archive.record name address).recorded = archive.recorded ++ [(name, address)] := by
  rw [record]

theorem record_map (archive : Archive) (name : String) (address : Ipv4) :
    (archive.record name address).map = (archive.map.insert name (Ip.v4 address).text).2 := by
  rw [record]

theorem record_unannounced (archive : Archive) (name : String) (address : Ipv4) :
    (archive.record name address).unannounced = archive.unannounced +
      if (archive.map.insert name (Ip.v4 address).text).1 then 1 else 0 := by
  rw [record]

def announce (archive : Archive) : Archive :=
  { archive with
    machine := (archive.machine.send .addressMap).2
    unannounced := archive.unannounced - 1 }

/-- The archive after a step of the scheduler. -/
def advance (archive : Archive) (events : List Event) (machine : Machine) (files : Store) :
    Archive :=
  { archive with
    machine := machine
    files := files
    taken := if .began .addressMap ∈ events then archive.map else archive.taken }

section Steps

variable {Sets : Type}

/-- What is seen when an attempt ends: its outcome, and the attempt that begins next. -/
def settledEvents (machine : Machine) (kind : SaveKind) (saved last : Bool)
    (others : List SaveKind) : List Event :=
  .settled kind saved :: ((machine.settle kind saved).dirty.next last others).begun

/-- One step of a query or of the scheduler. -/
inductive Step (paths : SnapshotFiles) (backend : Backend Sets) (archive : Archive) :
    List Event → Archive → Prop where
  | record (name : String) (address : Ipv4) (normal : normalizeName name = name)
      (alive : 0 < archive.machine.senders) :
      Step paths backend archive [] (archive.record name address)
  | announce (alive : 0 < archive.machine.senders) (new : 0 < archive.unannounced) :
      Step paths backend archive [.sent .addressMap (archive.machine.send .addressMap).1]
        archive.announce
  /-- No attempt ends. The last sender does not go before every new pair is announced. -/
  | schedule {events : List Event} {machine : Machine}
      (step : Machine.Step archive.machine events machine)
      (busy : ∀ kind saved, .settled kind saved ∉ events)
      (announced : machine.senders = 0 → archive.unannounced = 0) :
      Step paths backend archive events (archive.advance events machine archive.files)
  | settle {kind : SaveKind} {others : List SaveKind} {last saved : Bool} {files : Store}
      (stage : archive.machine.stage = .saving kind others last)
      (saves : paths.Saves backend kind archive.taken archive.files saved files) :
      Step paths backend archive (settledEvents archive.machine kind saved last others)
        (archive.advance (settledEvents archive.machine kind saved last others)
          ((archive.machine.settle kind saved).goOn last others) files)

/-- A number of steps, with all that is seen of them. -/
inductive Run (paths : SnapshotFiles) (backend : Backend Sets) (archive : Archive) :
    List Event → Archive → Prop where
  | refl : Run paths backend archive [] archive
  | snoc {middle final : Archive} {earlier events : List Event}
      (run : Run paths backend archive earlier middle)
      (step : Step paths backend middle events final) :
      Run paths backend archive (earlier ++ events) final

end Steps

variable {Network Sets : Type} {paths : SnapshotFiles} {backend : Backend Sets}
  {archive next middle final : Archive} {earlier later events : List Event}

theorem Run.trans (first : Run paths backend archive earlier middle)
    (second : Run paths backend middle later final) :
    Run paths backend archive (earlier ++ later) final := by
  induction second with
  | refl => rwa [List.append_nil]
  | snoc _ step inductionHypothesis =>
      rw [← List.append_assoc]
      exact inductionHypothesis.snoc step

/-- The scheduler of a run makes a run of its own. -/
theorem Run.machine (run : Run paths backend archive events final) :
    Machine.Run archive.machine events final.machine := by
  induction run with
  | refl => exact .refl
  | snoc _ step inductionHypothesis =>
      cases step with
      | record name address normal alive =>
          rw [List.append_nil, record_machine]
          exact inductionHypothesis
      | announce alive new => exact inductionHypothesis.snoc (.signal .addressMap alive)
      | schedule step busy announced => exact inductionHypothesis.snoc step
      | @settle _ _ _ saved _ stage saves =>
          exact inductionHypothesis.snoc (.settle saved stage)

/-! ### Files -/

/-- What a step does to the file of the map: it stays, unless an attempt to save the map ends. -/
structure Written (path : String) (taken : AddressMap) (events : List Event) (files next : Store) :
    Prop where
  stored : .settled .addressMap true ∈ events →
    AddressMap.load next path = .ofSnapshot taken.snapshot
  kept : (∀ saved, .settled .addressMap saved ∉ events) → Store.SameFile path files next

theorem Step.written (step : Step paths backend archive events next)
    (apart : paths.Apart archive.files) :
    Written paths.map archive.taken events archive.files next.files := by
  cases step with
  | record name address normal alive =>
      rw [record_files]
      exact ⟨fun settled => absurd settled List.not_mem_nil, fun _ _ => Iff.rfl⟩
  | announce alive new =>
      exact ⟨fun settled => absurd settled (by simp), fun _ _ => Iff.rfl⟩
  | schedule step busy announced =>
      exact ⟨fun settled => absurd settled (busy _ _), fun _ _ => Iff.rfl⟩
  | @settle kind _ _ saved _ stage saves =>
      constructor
      case stored =>
        intro settled
        rcases List.mem_cons.mp settled with same | later
        · cases same
          exact saves.load rfl
        · exact absurd later (Machine.settled_not_mem_begun true _)
      case kept =>
        intro unsettled
        cases kind with
        | addressMap => exact absurd List.mem_cons_self (unsettled saved)
        | addressSet => exact saves.sameFile apart

theorem Step.directories (step : Step paths backend archive events next) :
    Store.SameDirectories archive.files next.files := by
  cases step with
  | settle stage saves => exact saves.directories
  | record name address normal alive =>
      rw [record_files]
      exact fun _ => Iff.rfl
  | announce alive new => exact fun _ => Iff.rfl
  | schedule step busy announced => exact fun _ => Iff.rfl

theorem Run.directories (run : Run paths backend archive events final) :
    Store.SameDirectories archive.files final.files := by
  induction run with
  | refl => exact fun _ => Iff.rfl
  | snoc _ step inductionHypothesis => exact inductionHypothesis.trans step.directories

/-! ### Flushes -/

/-- The attempt to save the map that is under way, if there is one, saves the map as it is. -/
def IsFresh (archive : Archive) : Prop :=
  archive.machine.IsSaving .addressMap → archive.taken = archive.map

/-- Saving as the running engine does it. -/
def target [Caller] (paths : SnapshotFiles) (backend : Backend Sets) (map : AddressMap) :
    Target (Sets × Store) := fun kind state =>
  ((paths.save backend kind map state.1 state.2).1.isOk,
    (paths.save backend kind map state.1 state.2).2)

theorem target_eq [Caller] (engine : Engine) (backend : Backend Sets) (map : AddressMap)
    (time : Nat) :
    Session.target engine backend map time = target engine.config.persistence.files backend map :=
  rfl

variable {kind : SaveKind} {others : List SaveKind} {last : Bool}

theorem exists_run_settle [Caller] (paths : SnapshotFiles) (backend : Backend Sets)
    (stage : archive.machine.stage = .saving kind others last) (fresh : archive.IsFresh)
    (sets : Sets) :
    ∃ events next, Run paths backend archive events next ∧ next.IsFresh ∧
      next =
        { archive with
          machine := (archive.machine.settle kind
            (target paths backend archive.map kind (sets, archive.files)).1).goOn last others
          taken := next.taken
          files := (target paths backend archive.map kind (sets, archive.files)).2.2 } := by
  have asNow : paths.save backend kind archive.taken sets archive.files =
      paths.save backend kind archive.map sets archive.files := by
    cases kind with
    | addressSet => rfl
    | addressMap => rw [fresh ⟨others, last, stage⟩]
  have ran : paths.Saves backend kind archive.taken archive.files _ _ := .ran inferInstance sets
  rw [asNow] at ran
  refine ⟨_, _, .snoc .refl (.settle stage ran), ?_, rfl⟩
  intro saving
  have begun := Machine.began_of_isSaving_goOn saving
  exact if_pos (List.mem_cons_of_mem _ begun)

/-- Attempts in a row that nothing interrupts are those of `Dirty.flushKinds`. -/
theorem exists_run_flushKinds [Caller] (paths : SnapshotFiles) (backend : Backend Sets)
    (stage : archive.machine.stage = archive.machine.dirty.next last others)
    (fresh : archive.IsFresh) (sets : Sets) :
    ∃ events final, Run paths backend archive events final ∧
      final =
        { archive with
          machine :=
            { archive.machine with
              dirty := (archive.machine.dirty.flushKinds (target paths backend archive.map) others
                (sets, archive.files)).1
              stage := if last then .ended else .waiting }
          taken := final.taken
          files := (archive.machine.dirty.flushKinds (target paths backend archive.map) others
            (sets, archive.files)).2.2 } := by
  induction others generalizing archive sets with
  | nil =>
      rw [Dirty.next] at stage
      refine ⟨[], archive, .refl, ?_⟩
      rw [Dirty.flushKinds, ← stage]
  | cons kind rest inductionHypothesis =>
      by_cases flagged : archive.machine.dirty.has kind = true
      · rw [Dirty.next, if_pos flagged] at stage
        have flushed : archive.machine.dirty.flushKind (target paths backend archive.map) kind
            (sets, archive.files) =
              (archive.machine.dirty.set kind
                !(target paths backend archive.map kind (sets, archive.files)).1,
                (target paths backend archive.map kind (sets, archive.files)).2) := by
          rw [Dirty.flushKind, if_pos flagged]
        obtain ⟨earlier, middle, settled, freshThen, equal⟩ :=
          exists_run_settle paths backend stage fresh sets
        have stageThen : middle.machine.stage = middle.machine.dirty.next last rest := by
          rw [equal]
          rfl
        obtain ⟨later, final, run, equalThen⟩ := inductionHypothesis stageThen freshThen
          (target paths backend archive.map kind (sets, archive.files)).2.1
        refine ⟨_, final, settled.trans run, ?_⟩
        rw [equal] at equalThen
        rw [Dirty.flushKinds, flushed]
        exact equalThen
      · rw [Dirty.next, if_neg flagged] at stage
        have same : archive.machine.dirty.flushKind (target paths backend archive.map) kind
            (sets, archive.files) = (archive.machine.dirty, (sets, archive.files)) := by
          rw [Dirty.flushKind, if_neg flagged]
        rw [Dirty.flushKinds, same]
        exact inductionHypothesis stage fresh sets

/--
A flush of the running engine that nothing interrupts is a run, whether a timer fires or no signal
can come any more.
-/
theorem exists_run_flush [Caller] (engine : Engine) (backend : Backend Sets) (time : Nat)
    (waits : archive.machine.stage = .waiting) (last : Bool)
    (ends : last = true → archive.machine.senders = 0 ∧ archive.machine.signals.waiting = [])
    (announced : archive.machine.senders = 0 → archive.unannounced = 0) (sets : Sets) :
    ∃ events final, Run engine.config.persistence.files backend archive events final ∧
      final =
        { archive with
          machine :=
            { archive.machine with
              dirty := (archive.machine.dirty.flush
                (Session.target engine backend archive.map time) (sets, archive.files)).1
              stage := if last then .ended else .waiting }
          taken := final.taken
          files := (archive.machine.dirty.flush (Session.target engine backend archive.map time)
            (sets, archive.files)).2.2 } := by
  have begins : Machine.Step archive.machine (archive.machine.dirty.next last kinds).begun
      (archive.machine.goOn last kinds) := by
    cases last with
    | false => exact .fire waits
    | true => exact .finish waits (ends rfl).1 (ends rfl).2
  have begun : Run engine.config.persistence.files backend archive _ _ :=
    .snoc .refl (.schedule begins (fun _ saved => Machine.settled_not_mem_begun saved _) announced)
  have fresh : (archive.advance (archive.machine.dirty.next last kinds).begun
      (archive.machine.goOn last kinds) archive.files).IsFresh :=
    fun saving => if_pos (Machine.began_of_isSaving_goOn saving)
  obtain ⟨events, final, run, equal⟩ :=
    exists_run_flushKinds engine.config.persistence.files backend rfl fresh sets
  rw [target_eq, Dirty.flush_eq_flushKinds]
  exact ⟨_, final, begun.trans run, equal⟩

/-! ### Queries -/

section Observing

/-- The state that the queries share has the map and the queue of the archive. -/
structure Shares (archive : Archive) (knowledge : Knowledge Sets) : Prop where
  map : knowledge.map = archive.map
  signals : knowledge.signals = archive.machine.signals
  alive : 0 < archive.machine.senders

/-- Some run records the pairs and brings the shared state about. -/
def Reaches (paths : SnapshotFiles) (backend : Backend Sets) (archive : Archive)
    (pairs : List (String × Ipv4)) (knowledge : Knowledge Sets) : Prop :=
  ∃ events final, Run paths backend archive events final ∧ final.Shares knowledge ∧
    final.recorded = archive.recorded ++ pairs

variable {knowledge : Knowledge Sets}

theorem reaches_self (shares : archive.Shares knowledge) :
    archive.Reaches paths backend [] knowledge :=
  ⟨[], archive, .refl, shares, by rw [List.append_nil]⟩

theorem reaches_record (shares : archive.Shares knowledge) {name : String}
    (normal : normalizeName name = name) (address : Ipv4) :
    archive.Reaches paths backend [(name, address)] (knowledge.record name address).2 := by
  have recorded : Run paths backend archive [] (archive.record name address) :=
    .snoc .refl (.record name address normal shares.alive)
  have machine := archive.record_machine name address
  have map := archive.record_map name address
  have unannounced := archive.record_unannounced name address
  have pairs := archive.record_recorded name address
  generalize archive.record name address = middle at recorded machine map unannounced pairs
  rw [Knowledge.record, shares.map]
  generalize archive.map.insert name (Ip.v4 address).text = result at map unannounced ⊢
  obtain ⟨new, after⟩ := result
  have alive : 0 < middle.machine.senders := by
    rw [machine]
    exact shares.alive
  cases new with
  | false =>
      refine ⟨_, middle, recorded, ⟨map.symm, ?_, alive⟩, pairs⟩
      rw [machine]
      exact shares.signals
  | true =>
      have owes : 0 < middle.unannounced := by
        rw [unannounced, if_pos rfl]
        exact Nat.succ_pos _
      refine ⟨_, middle.announce, recorded.snoc (.announce alive owes), ⟨map.symm, ?_, alive⟩,
        pairs⟩
      simp only [if_true, Knowledge.signal, announce, machine, Machine.send, shares.signals]

/-- The signals of the address sets go their own way. -/
theorem reaches_add (shares : archive.Shares knowledge) (backend : Backend Sets) (set : String)
    (address : Ipv4) : archive.Reaches paths backend [] (knowledge.add backend set address).2 := by
  rw [Knowledge.add_eq]
  by_cases added : (backend.add set (.v4 address) knowledge.sets).1.isOk = true
  · rw [if_pos added]
    have step : Step paths backend archive [.sent .addressSet (archive.machine.send .addressSet).1]
        (archive.advance [.sent .addressSet (archive.machine.send .addressSet).1]
          (archive.machine.send .addressSet).2 archive.files) := by
      have kept : (archive.machine.send .addressSet).2.senders = 0 → archive.unannounced = 0 :=
        fun none => absurd none (Nat.ne_of_gt shares.alive)
      exact .schedule (.signal .addressSet shares.alive) (by simp) kept
    refine ⟨_, _, .snoc .refl step, ⟨shares.map, ?_, shares.alive⟩, (List.append_nil _).symm⟩
    simp only [Knowledge.signal, advance, Machine.send, shares.signals]
  · rw [if_neg added]
    exact ⟨[], archive, .refl, ⟨shares.map, shares.signals, shares.alive⟩, by rw [List.append_nil]⟩

/-- The pair that an effect records. -/
def pair? : Effect → Option (String × Ipv4)
  | .record name address => some (name, address)
  | .add _ _ => none

theorem reaches_apply (shares : archive.Shares knowledge) (backend : Backend Sets)
    (setNames : List String) (effect : Effect) (tally : Tally)
    (normal : ∀ name address, effect = .record name address → normalizeName name = name) :
    archive.Reaches paths backend (pair? effect).toList
      (knowledge.apply backend setNames effect tally).2 := by
  cases effect with
  | record name address =>
      rw [Knowledge.apply_record]
      exact reaches_record shares (normal name address rfl) address
  | add index address =>
      cases named : setNames[index]? with
      | none =>
          rw [Knowledge.apply_add_of_none address tally knowledge named]
          exact reaches_self shares
      | some set =>
          rw [Knowledge.apply_add address tally knowledge named]
          exact reaches_add shares backend set address

theorem reaches_applyAll (shares : archive.Shares knowledge) (backend : Backend Sets)
    (setNames : List String) (effects : List Effect) (tally : Tally)
    (normal : ∀ name address, .record name address ∈ effects → normalizeName name = name) :
    archive.Reaches paths backend (effects.filterMap pair?)
      (knowledge.applyAll backend setNames effects tally).2 := by
  induction effects generalizing archive knowledge tally with
  | nil => exact reaches_self shares
  | cons effect rest inductionHypothesis =>
      have first : archive.Reaches paths backend (pair? effect).toList
          (knowledge.apply backend setNames effect tally).2 := by
        apply reaches_apply shares
        intro name address equal
        exact normal name address (equal ▸ List.mem_cons_self)
      obtain ⟨earlier, middle, run, sharesThen, recorded⟩ := first
      obtain ⟨later, final, rest, sharesLast, recordedLast⟩ := inductionHypothesis sharesThen
        (knowledge.apply backend setNames effect tally).1
        (fun name address found => normal name address (List.mem_cons_of_mem _ found))
      rw [Knowledge.applyAll_cons]
      refine ⟨_, final, run.trans rest, sharesLast, ?_⟩
      rw [recordedLast, recorded, List.append_assoc, List.filterMap_cons]
      cases pair? effect <;> rfl

/-- The pairs that the response to a query gives. -/
def pairsOf (routing : Routing) (transport : Transport Network) (request : Request)
    (network : Network) : List (String × Ipv4) :=
  match upstream routing transport request network with
  | .error _ => []
  | .ok answer =>
      (effects routing.patterns (.of (questionName request.message)
        (routing.patterns.classify (questionName request.message))) answer.message).filterMap pair?

/-- What a query does to the shared state is a run that records what its response gives. -/
theorem reaches_resolve (shares : archive.Shares knowledge) (routing : Routing)
    (transport : Transport Network) (backend : Backend Sets) (request : Request)
    (network : Network) :
    archive.Reaches paths backend (pairsOf routing transport request network)
      (resolve routing transport backend request (network, knowledge)).2.2 := by
  rw [knowledge_of_upstream, pairsOf]
  cases upstream routing transport request network with
  | error cause => exact reaches_self shares
  | ok answer =>
      have normal : ∀ name address,
          .record name address ∈ effects routing.patterns (.of (questionName request.message)
            (routing.patterns.classify (questionName request.message))) answer.message →
          normalizeName name = name := by
        intro name address found
        exact normalizeName_of_mem_effects (by simp [Subject.of]) found
      have reached : archive.Reaches paths backend _ _ :=
        reaches_applyAll shares backend routing.setNames _ .zero normal
      obtain ⟨events, final, run, sharesThen, recorded⟩ := reached
      refine ⟨events, final, run, ⟨?_, ?_, sharesThen.alive⟩, recorded⟩
      · rw [(sets_observe _ _ _ _ _ _).2]
        exact sharesThen.map
      · rw [signals_observe]
        exact sharesThen.signals

end Observing

end Archive

end SplitDns.Persist
