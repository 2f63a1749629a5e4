import SplitDns.Persist.Scheduler

/-!
# The scheduler step by step

An attempt to save takes time, in which senders go on signalling while the scheduler receives
nothing. The machine has a step for the beginning and one for the end of every attempt; timers may
fire whenever the scheduler waits. `run_flush` and `run_finish` say that a flush without
interruption is the flush of `Dirty`.
-/

namespace SplitDns.Persist

/-- Where the scheduler stands between two steps. -/
inductive Stage where
  /-- It waits for signals and timers. -/
  | waiting
  /-- It tries to save a kind, and looks at the other kinds of the same flush afterwards. -/
  | saving (kind : SaveKind) (others : List SaveKind) (last : Bool)
  | ended
  deriving DecidableEq

/-- What the senders and the target of a scheduler see. -/
inductive Event where
  | sent (kind : SaveKind) (accepted : Bool)
  | began (kind : SaveKind)
  | settled (kind : SaveKind) (saved : Bool)
  deriving DecidableEq

structure Machine where
  /-- The number of senders that may still signal. -/
  senders : Nat
  signals : Signals
  dirty : Dirty
  stage : Stage

/-- The kinds in the order in which a flush looks at them. -/
def kinds : List SaveKind :=
  [.addressSet, .addressMap]

theorem mem_kinds (kind : SaveKind) : kind ∈ kinds := by
  cases kind <;> decide

/-- Goes on with the first flagged kind of a list; the last flush is followed by the end. -/
def Dirty.next (dirty : Dirty) (last : Bool) : List SaveKind → Stage
  | [] => if last then .ended else .waiting
  | kind :: others => if dirty.has kind then .saving kind others last else dirty.next last others

/-- The attempt that begins with a stage. -/
def Stage.begun : Stage → List Event
  | .saving kind _ _ => [.began kind]
  | _ => []

namespace Machine

/-- A machine with one sender. -/
def start (capacity : Nat) : Machine :=
  ⟨1, .new capacity, .clean, .waiting⟩

/-- Lets a sender signal; says whether the signal is accepted. -/
def send (machine : Machine) (kind : SaveKind) : Bool × Machine :=
  ((machine.signals.send kind).1, { machine with signals := (machine.signals.send kind).2 })

/-- Ends an attempt: the kind stays flagged if it failed. -/
def settle (machine : Machine) (kind : SaveKind) (saved : Bool) : Machine :=
  { machine with dirty := machine.dirty.set kind !saved }

@[simp]
theorem has_settle (machine : Machine) (kind other : SaveKind) (saved : Bool) :
    (machine.settle kind saved).dirty.has other =
      if other = kind then !saved else machine.dirty.has other :=
  machine.dirty.has_set kind other !saved

/-- Goes on with a flush. -/
def goOn (machine : Machine) (last : Bool) (others : List SaveKind) : Machine :=
  { machine with stage := machine.dirty.next last others }

/-- One step, with what is seen of it. -/
inductive Step (machine : Machine) : List Event → Machine → Prop where
  | copy (alive : 0 < machine.senders) :
      Step machine [] { machine with senders := machine.senders + 1 }
  | drop (alive : 0 < machine.senders) :
      Step machine [] { machine with senders := machine.senders - 1 }
  | signal (kind : SaveKind) (alive : 0 < machine.senders) :
      Step machine [.sent kind (machine.send kind).1] (machine.send kind).2
  | receive {kind : SaveKind} {rest : Signals} (waits : machine.stage = .waiting)
      (received : machine.signals.receive? = some (kind, rest)) :
      Step machine []
        { machine with signals := rest, dirty := machine.dirty.mark kind }
  /-- The quiet time ends or a tick comes. -/
  | fire (waits : machine.stage = .waiting) :
      Step machine (machine.dirty.next false kinds).begun (machine.goOn false kinds)
  /-- No signal can come any more. -/
  | finish (waits : machine.stage = .waiting) (alone : machine.senders = 0)
      (empty : machine.signals.waiting = []) :
      Step machine (machine.dirty.next true kinds).begun (machine.goOn true kinds)
  | settle {kind : SaveKind} {others : List SaveKind} {last : Bool} (saved : Bool)
      (saves : machine.stage = .saving kind others last) :
      Step machine
        (.settled kind saved :: ((machine.settle kind saved).dirty.next last others).begun)
        ((machine.settle kind saved).goOn last others)

/-- A number of steps, with all that is seen of them. -/
inductive Run (machine : Machine) : List Event → Machine → Prop where
  | refl : Run machine [] machine
  | snoc {middle final : Machine} {earlier events : List Event}
      (run : Run machine earlier middle) (step : Step middle events final) :
      Run machine (earlier ++ events) final

namespace Run

variable {machine middle final : Machine} {earlier later events : List Event}

theorem single (step : Step machine events final) : Run machine events final :=
  .snoc .refl step

theorem trans (first : Run machine earlier middle) (second : Run middle later final) :
    Run machine (earlier ++ later) final := by
  induction second with
  | refl => rwa [List.append_nil]
  | snoc _ step inductionHypothesis =>
      rw [← List.append_assoc]
      exact inductionHypothesis.snoc step

/-- An event is seen at some step of a run. -/
theorem exists_step_of_mem (run : Run machine events final) {event : Event}
    (seen : event ∈ events) :
    ∃ before after earlier now later, Run machine earlier before ∧ Step before now after ∧
      event ∈ now ∧ Run after later final ∧ events = earlier ++ (now ++ later) := by
  induction run with
  | refl => cases seen
  | @snoc middle final earlier events run step inductionHypothesis =>
      rcases List.mem_append.mp seen with old | new
      · obtain ⟨before, after, first, now, later, begun, stepped, here, rest, equal⟩ :=
          inductionHypothesis old
        refine ⟨before, after, first, now, later ++ events, begun, stepped, here,
          rest.snoc step, ?_⟩
        rw [equal, List.append_assoc, List.append_assoc]
      · exact ⟨middle, final, earlier, events, [], run, step, new, .refl, by simp⟩

end Run

end Machine

/-! ### The next stage -/

namespace Dirty

variable {dirty : Dirty} {last : Bool}

theorem next_cases (dirty : Dirty) (last : Bool) (others : List SaveKind) :
    (dirty.next last others = (if last then .ended else .waiting) ∧
        ∀ kind ∈ others, dirty.has kind = false) ∨
      ∃ kind rest, dirty.next last others = .saving kind rest last ∧
        dirty.has kind = true ∧ ∃ skipped, others = skipped ++ kind :: rest ∧
          ∀ other ∈ skipped, dirty.has other = false := by
  induction others with
  | nil => exact .inl ⟨rfl, by simp⟩
  | cons head rest inductionHypothesis =>
      by_cases flagged : dirty.has head = true
      · have stage : dirty.next last (head :: rest) = .saving head rest last := by
          rw [next, if_pos flagged]
        exact .inr ⟨head, rest, stage, flagged, [], rfl, by simp⟩
      · have stage : dirty.next last (head :: rest) = dirty.next last rest := by
          rw [next, if_neg flagged]
        have clear : dirty.has head = false := Bool.eq_false_iff.mpr flagged
        rw [stage]
        rcases inductionHypothesis with ⟨done, none⟩ | ⟨kind, after, saving, found, rest⟩
        · refine .inl ⟨done, ?_⟩
          intro kind inOthers
          rcases List.mem_cons.mp inOthers with rfl | later
          · exact clear
          · exact none kind later
        · obtain ⟨skipped, rfl, none⟩ := rest
          refine .inr ⟨kind, after, saving, found, head :: skipped, rfl, ?_⟩
          intro other inSkipped
          rcases List.mem_cons.mp inSkipped with rfl | later
          · exact clear
          · exact none other later

end Dirty

/-! ### Flushes without interruption -/

section Flush

variable {State : Type}

/-- A target that also keeps what was tried and how it ended. -/
def logged (target : Target State) : Target (State × List (SaveKind × Bool)) :=
  fun kind state =>
    let (saved, next) := target kind state.1
    (saved, (next, state.2 ++ [(kind, saved)]))

/-- The attempts that ended, with their outcomes. -/
def outcomes (events : List Event) : List (SaveKind × Bool) :=
  events.filterMap fun
    | .settled kind saved => some (kind, saved)
    | _ => none

/-- Tries to save the flagged kinds of a list. -/
def Dirty.flushKinds (target : Target State) :
    List SaveKind → Dirty → State → Dirty × State
  | [], dirty, state => (dirty, state)
  | kind :: others, dirty, state =>
      flushKinds target others (dirty.flushKind target kind state).1
        (dirty.flushKind target kind state).2

theorem Dirty.flush_eq_flushKinds (target : Target State) (dirty : Dirty) (state : State) :
    dirty.flush target state = flushKinds target kinds dirty state := rfl

@[simp]
theorem outcomes_append (first second : List Event) :
    outcomes (first ++ second) = outcomes first ++ outcomes second :=
  List.filterMap_append

@[simp]
theorem outcomes_begun (stage : Stage) : outcomes stage.begun = [] := by
  cases stage <;> rfl

theorem outcomes_settled (kind : SaveKind) (saved : Bool) (stage : Stage) :
    outcomes (.settled kind saved :: stage.begun) = [(kind, saved)] := by
  cases stage <;> rfl

theorem run_flushKinds (target : Target State) (machine : Machine) (last : Bool)
    (others : List SaveKind) (state : State) (log : List (SaveKind × Bool)) :
    ∃ events,
      Machine.Run (machine.goOn last others) events
        { machine with
          dirty := (machine.dirty.flushKinds (logged target) others (state, log)).1
          stage := if last then .ended else .waiting } ∧
      log ++ outcomes events =
        (machine.dirty.flushKinds (logged target) others (state, log)).2.2 := by
  induction others generalizing machine state log with
  | nil => exact ⟨[], .refl, List.append_nil log⟩
  | cons kind rest inductionHypothesis =>
      by_cases flagged : machine.dirty.has kind = true
      · obtain ⟨events, run, logs⟩ := inductionHypothesis
          (machine.settle kind (target kind state).1)
          (target kind state).2 (log ++ [(kind, (target kind state).1)])
        have saves : (machine.goOn last (kind :: rest)).stage = .saving kind rest last := by
          simp only [Machine.goOn, Dirty.next, if_pos flagged]
        have flushed : machine.dirty.flushKind (logged target) kind (state, log) =
            (machine.dirty.set kind !(target kind state).1,
              ((target kind state).2, log ++ [(kind, (target kind state).1)])) := by
          simp only [Dirty.flushKind, if_pos flagged, logged]
        have settled := Machine.Run.single (.settle (target kind state).1 saves)
        rw [Dirty.flushKinds, flushed]
        refine ⟨_, settled.trans run, ?_⟩
        rw [outcomes_append, outcomes_settled, ← List.append_assoc]
        exact logs
      · obtain ⟨events, run, logs⟩ := inductionHypothesis machine state log
        have skipped : machine.goOn last (kind :: rest) = machine.goOn last rest := by
          simp only [Machine.goOn, Dirty.next, if_neg flagged]
        have same : machine.dirty.flushKind (logged target) kind (state, log) =
            (machine.dirty, (state, log)) := by
          simp only [Dirty.flushKind, if_neg flagged]
        rw [skipped, Dirty.flushKinds, same]
        exact ⟨events, run, logs⟩

/-- A flush that nothing interrupts is the flush of the flags, attempt by attempt. -/
theorem run_flush (target : Target State) {machine : Machine} (waits : machine.stage = .waiting)
    (state : State) (log : List (SaveKind × Bool)) :
    ∃ events,
      Machine.Run machine events
        { machine with dirty := (machine.dirty.flush (logged target) (state, log)).1 } ∧
      log ++ outcomes events = (machine.dirty.flush (logged target) (state, log)).2.2 := by
  obtain ⟨events, run, logs⟩ := run_flushKinds target machine false kinds state log
  have fired := Machine.Run.single (.fire waits)
  obtain ⟨senders, signals, dirty, stage⟩ := machine
  cases waits
  rw [Dirty.flush_eq_flushKinds]
  refine ⟨_, fired.trans run, ?_⟩
  rw [outcomes_append, outcomes_begun, List.nil_append]
  exact logs

/-- The last flush is one, too. -/
theorem run_finish (target : Target State) {machine : Machine} (waits : machine.stage = .waiting)
    (alone : machine.senders = 0) (empty : machine.signals.waiting = []) (state : State)
    (log : List (SaveKind × Bool)) :
    ∃ events,
      Machine.Run machine events
        { machine with
          dirty := (machine.dirty.flush (logged target) (state, log)).1
          stage := .ended } ∧
      log ++ outcomes events = (machine.dirty.flush (logged target) (state, log)).2.2 := by
  obtain ⟨events, run, logs⟩ := run_flushKinds target machine true kinds state log
  have finished := Machine.Run.single (.finish waits alone empty)
  rw [Dirty.flush_eq_flushKinds]
  refine ⟨_, finished.trans run, ?_⟩
  rw [outcomes_append, outcomes_begun, List.nil_append]
  exact logs

end Flush

end SplitDns.Persist
