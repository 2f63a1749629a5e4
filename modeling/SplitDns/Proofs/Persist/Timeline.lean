import SplitDns.Proofs.Persist.Clock
import SplitDns.Proofs.Persist.History

/-!
# The service in time, step by step

The scheduler may meet signals and timers that are due at one time in any order, and a flush takes
no time. But time does not pass a timer that is due or a signal that waits. A course is a number of
such moves with what is done at which time. Whatever is done with the service that obeys its timers
in a fixed order, it takes a course with the attempts that it makes: `exists_course`.

Without the times a course is a run of the machine, in which the same attempts end. So what holds of
all histories of the machine holds of the service: `exists_history`.
-/

namespace SplitDns.Persist

/-- What a scheduler does. -/
inductive Deed where
  | received (kind : SaveKind)
  | attempted (kind : SaveKind) (saved : Bool)
  deriving DecidableEq

/-- What was done, with the times. -/
abbrev Timeline :=
  List (Nat × Deed)

/-- The attempts with their outcomes. -/
def Timeline.attempts (timeline : Timeline) : List (SaveKind × Bool) :=
  timeline.filterMap fun stamped => match stamped.2 with
    | .attempted kind saved => some (kind, saved)
    | .received _ => none

@[simp]
theorem Timeline.attempts_append (earlier later : Timeline) :
    Timeline.attempts (earlier ++ later) = earlier.attempts ++ later.attempts :=
  List.filterMap_append

theorem Timeline.mem_attempts {timeline : Timeline} {kind : SaveKind} {saved : Bool} :
    (kind, saved) ∈ timeline.attempts ↔ ∃ time, (time, .attempted kind saved) ∈ timeline := by
  rw [attempts, List.mem_filterMap]
  constructor
  · rintro ⟨⟨time, deed⟩, member, found⟩
    cases deed with
    | received other => cases found
    | attempted other outcome =>
        cases found
        exact ⟨time, member⟩
  · rintro ⟨time, member⟩
    exact ⟨_, member, rfl⟩

namespace Scheduler

variable {scheduler : Scheduler} {deadline time : Nat}

theorem of_dueBatch?_eq_some (due : scheduler.dueBatch? deadline = some time) :
    scheduler.batch = some time ∧ time ≤ scheduler.tick ∧ time ≤ deadline := by
  rw [dueBatch?, Option.filter_eq_some_iff, Bool.and_eq_true, decide_eq_true_eq,
    decide_eq_true_eq] at due
  exact due

/-- A flush that is not due comes later than every time up to which it would be. -/
theorem le_of_dueBatch?_eq_none (none : scheduler.dueBatch? deadline = none)
    (armed : scheduler.batch = some time) {limit : Nat} (beforeTick : limit ≤ scheduler.tick)
    (inTime : limit ≤ deadline) : limit ≤ time := by
  rw [dueBatch?, armed, Option.filter_some, ite_eq_right_iff, Bool.and_eq_true,
    decide_eq_true_eq, decide_eq_true_eq] at none
  refine Nat.le_of_not_lt fun early => ?_
  cases none ⟨Nat.le_of_lt (Nat.lt_of_lt_of_le early beforeTick),
    Nat.le_of_lt (Nat.lt_of_lt_of_le early inTime)⟩

end Scheduler

namespace Service

variable {State : Type}

/-- The attempts of a flush now. -/
def flushed (service : Service State) (target : Target State) : Timeline :=
  (service.scheduler.flush (logged target) (service.state, [])).2.2.map fun attempt =>
    (service.now, .attempted attempt.1 attempt.2)

/-- One move of the scheduler or of others, or time that passes. -/
inductive Move (timing : Timing) (service : Service State) : Timeline → Service State → Prop where
  | copy (alive : service.senders ≠ 0) :
      Move timing service [] { service with senders := service.senders + 1 }
  | drop (alive : service.senders ≠ 0) :
      Move timing service [] { service with senders := service.senders - 1 }
  | send (kind : SaveKind) (alive : service.senders ≠ 0) :
      Move timing service [] (service.send kind).2
  | receive {kind : SaveKind} {rest : Signals} (works : service.isDone = false)
      (received : service.signals.receive? = some (kind, rest)) :
      Move timing service [(service.now, .received kind)]
        { service with
          signals := rest
          scheduler := service.scheduler.receive timing service.now kind }
  | batch (target : Target State) (works : service.isDone = false) {time : Nat}
      (armed : service.scheduler.batch = some time) (due : time ≤ service.now) :
      Move timing service (service.flushed target)
        { service with
          scheduler := (service.scheduler.fireBatch target service.state).1
          state := (service.scheduler.fireBatch target service.state).2 }
  | tick (target : Target State) (works : service.isDone = false)
      (due : service.scheduler.tick ≤ service.now) :
      Move timing service (service.flushed target)
        { service with
          scheduler := (service.scheduler.fireTick timing target service.now service.state).1
          state := (service.scheduler.fireTick timing target service.now service.state).2 }
  | finish (target : Target State) (works : service.isDone = false)
      (alone : service.senders = 0) (empty : service.signals.waiting = []) :
      Move timing service (service.flushed target) (service.finish fun _ => target)
  | wait {later : Nat} (onward : service.now ≤ later)
      (idle : service.isDone = false → service.signals.waiting = [] ∧
        later ≤ service.scheduler.tick ∧
        ∀ time, service.scheduler.batch = some time → later ≤ time) :
      Move timing service [] { service with now := later }

/-- A number of moves. -/
inductive Course (timing : Timing) (service : Service State) :
    Timeline → Service State → Prop where
  | refl : Course timing service [] service
  | snoc {middle final : Service State} {earlier deeds : Timeline}
      (course : Course timing service earlier middle) (move : Move timing middle deeds final) :
      Course timing service (earlier ++ deeds) final

namespace Course

variable {timing : Timing} {service middle final : Service State} {earlier later deeds : Timeline}

theorem single (move : Move timing service deeds final) : Course timing service deeds final :=
  .snoc .refl move

theorem trans (first : Course timing service earlier middle)
    (second : Course timing middle later final) :
    Course timing service (earlier ++ later) final := by
  induction second with
  | refl => rwa [List.append_nil]
  | snoc _ move inductionHypothesis =>
      rw [← List.append_assoc]
      exact inductionHypothesis.snoc move

end Course

/-- No timer is overdue. -/
structure Punctual (service : Service State) : Prop where
  tick : service.isDone = false → service.now ≤ service.scheduler.tick
  batch : service.isDone = false →
    ∀ time, service.scheduler.batch = some time → service.now ≤ time

section Punctual

variable {timing : Timing} {service final : Service State} {deeds timeline : Timeline}

theorem punctual_start (timing : Timing) (capacity : Nat) (state : State) :
    (start timing capacity state).Punctual :=
  ⟨fun _ => Nat.zero_le _, fun _ _ impossible => nomatch impossible⟩

theorem Punctual.move (punctual : service.Punctual) (move : Move timing service deeds final) :
    final.Punctual := by
  cases move with
  | copy alive => exact ⟨punctual.tick, punctual.batch⟩
  | drop alive => exact ⟨punctual.tick, punctual.batch⟩
  | send kind alive => exact ⟨punctual.tick, punctual.batch⟩
  | receive works received =>
      refine ⟨punctual.tick, ?_⟩
      rintro _ time armed
      cases armed
      exact Nat.le_add_right _ _
  | batch target works armed due =>
      refine ⟨punctual.tick, ?_⟩
      rintro _ time impossible
      cases impossible
  | tick target works due => exact ⟨fun _ => Nat.le_add_right _ _, punctual.batch⟩
  | finish target works alone empty =>
      refine ⟨?_, ?_⟩
      · intro impossible
        cases impossible
      · intro impossible
        cases impossible
  | wait onward idle => exact ⟨fun works => (idle works).2.1, fun works => (idle works).2.2⟩

theorem Punctual.course (punctual : service.Punctual)
    (course : Course timing service timeline final) : final.Punctual := by
  induction course with
  | refl => exact punctual
  | snoc _ move inductionHypothesis => exact inductionHypothesis.move move

end Punctual

/-! ### Operations -/

/-- A course leads from one service to the other, and the log has its attempts. -/
def Proceeds (timing : Timing) (service next : Service (Logged State)) : Prop :=
  ∃ timeline, Course timing service.withoutLog timeline next.withoutLog ∧
    service.state.2 ++ timeline.attempts = next.state.2

section Operations

variable {timing : Timing} {service middle next : Service (Logged State)}

theorem Proceeds.trans (first : Proceeds timing service middle)
    (second : Proceeds timing middle next) : Proceeds timing service next := by
  obtain ⟨earlier, course, logs⟩ := first
  obtain ⟨later, courseOn, logsOn⟩ := second
  refine ⟨earlier ++ later, course.trans courseOn, ?_⟩
  rw [Timeline.attempts_append, ← List.append_assoc, logs]
  exact logsOn

theorem Proceeds.punctual (proceeds : Proceeds timing service next)
    (punctual : service.Punctual) : next.Punctual := by
  obtain ⟨timeline, course, -⟩ := proceeds
  have after : next.withoutLog.Punctual := Punctual.course ⟨punctual.tick, punctual.batch⟩ course
  exact ⟨after.tick, after.batch⟩

/-- Nothing is tried. -/
theorem proceeds_of_course {timeline : Timeline}
    (course : Course timing service.withoutLog timeline next.withoutLog)
    (none : timeline.attempts = []) (same : next.state = service.state) :
    Proceeds timing service next := by
  refine ⟨timeline, course, ?_⟩
  rw [none, same, List.append_nil]

theorem proceeds_self (service : Service (Logged State)) : Proceeds timing service service :=
  proceeds_of_course .refl rfl rfl

theorem proceeds_send (signalled : service.senders ≠ 0) (kind : SaveKind) :
    Proceeds timing service (service.send kind).2 :=
  proceeds_of_course (.single (.send kind signalled)) rfl rfl

theorem proceeds_copySender (service : Service (Logged State)) :
    Proceeds timing service service.copySender := by
  unfold copySender
  split
  · exact proceeds_self service
  next signalled => exact proceeds_of_course (.single (.copy signalled)) rfl rfl

/-- Several senders leave one after another. -/
theorem course_drops (service : Service State) (count : Nat) :
    Course timing service [] { service with senders := service.senders - count } := by
  induction count with
  | zero => exact .refl
  | succ count inductionHypothesis =>
      by_cases alone : service.senders - count = 0
      · have none : service.senders - (count + 1) = service.senders - count := by omega
        rw [none]
        exact inductionHypothesis
      · exact inductionHypothesis.snoc (.drop alone)

theorem proceeds_dropSender (service : Service (Logged State)) :
    Proceeds timing service service.dropSender :=
  proceeds_of_course (course_drops service.withoutLog 1) rfl rfl

theorem proceeds_dropSenders (service : Service (Logged State)) :
    Proceeds timing service service.dropSenders := by
  have dropped : Course timing service.withoutLog [] _ :=
    course_drops service.withoutLog service.senders
  rw [withoutLog, Nat.sub_self] at dropped
  exact proceeds_of_course dropped rfl rfl

/-- The signals that wait are received one after another. -/
theorem course_drain (service : Service State) (works : service.isDone = false) :
    Course timing service (service.signals.waiting.map fun kind => (service.now, .received kind))
      (service.receiveAll timing) := by
  obtain ⟨now, senders, ⟨capacity, waiting, isOpen, positive, bound⟩, scheduler, isDone, state⟩ :=
    service
  induction waiting generalizing scheduler with
  | nil => exact .refl
  | cons kind rest inductionHypothesis =>
      have received : Course timing
          ⟨now, senders, ⟨capacity, kind :: rest, isOpen, positive, bound⟩, scheduler, isDone,
            state⟩ [(now, .received kind)] _ :=
        .single (.receive works rfl)
      exact received.trans
        (inductionHypothesis (scheduler.receive timing now kind) _ works)

theorem attempts_received (now : Nat) (kinds : List SaveKind) :
    Timeline.attempts (kinds.map fun kind => (now, .received kind)) = [] := by
  rw [Timeline.attempts, List.filterMap_map]
  exact List.filterMap_eq_nil_iff.mpr fun _ _ => rfl

/-! ### Flushes -/

theorem attempts_flushed (target : Target State) (service : Service State) :
    (service.flushed target).attempts =
      (service.scheduler.flush (logged target) (service.state, [])).2.2 := by
  rw [flushed, Timeline.attempts, List.filterMap_map]
  exact List.filterMap_some

theorem log_flushed (target : Target State) (service : Service (Logged State)) :
    service.state.2 ++ (service.withoutLog.flushed target).attempts =
      (service.scheduler.flush (logged target) service.state).2.2 := by
  have logs := flush_log target service.scheduler service.state.2 (service.state.1, [])
  rw [List.append_nil] at logs
  rw [attempts_flushed]
  exact (congrArg (fun flushed => flushed.2.2) logs).symm

theorem proceeds_fireBatch (works : service.isDone = false) (target : Target State) {time : Nat}
    (armed : service.scheduler.batch = some time) (due : time ≤ service.now) :
    Proceeds timing service
      { service with
        scheduler := (service.scheduler.fireBatch (logged target) service.state).1
        state := (service.scheduler.fireBatch (logged target) service.state).2 } := by
  have plain := flush_logged target { service.scheduler with batch := none } service.state
  have move : Move timing service.withoutLog _ _ := .batch target works armed due
  rw [Scheduler.fireBatch, withoutLog, ← plain] at move
  exact ⟨_, .single move, log_flushed target service⟩

theorem proceeds_fireTick (works : service.isDone = false) (target : Target State)
    (due : service.scheduler.tick ≤ service.now) :
    Proceeds timing service
      { service with
        scheduler :=
          (service.scheduler.fireTick timing (logged target) service.now service.state).1
        state :=
          (service.scheduler.fireTick timing (logged target) service.now service.state).2 } := by
  have plain := flush_logged target
    { service.scheduler with tick := service.now + timing.interval } service.state
  have move : Move timing service.withoutLog _ _ := .tick target works due
  rw [Scheduler.fireTick, withoutLog, ← plain] at move
  exact ⟨_, .single move, log_flushed target service⟩

theorem proceeds_finish (works : service.isDone = false) (alone : service.senders = 0)
    (empty : service.signals.waiting = []) (target : Nat → Target State) :
    Proceeds timing service (service.finish (loggedAt target)) := by
  have plain := flush_logged (target service.now) service.scheduler service.state
  have move : Move timing service.withoutLog _ _ :=
    .finish (target service.now) works alone empty
  rw [finish, Scheduler.finish, withoutLog, ← plain] at move
  exact ⟨_, .single move, log_flushed (target service.now) service⟩

/-! ### Time that passes -/

theorem now_run (timing : Timing) (target : Nat → Target State) (milliseconds : Nat)
    (service : Service State) :
    (service.run timing target milliseconds).now = service.now + milliseconds := by
  unfold run
  split
  · rfl
  · dsimp only
    split <;> rfl

theorem proceeds_wait {later : Nat} (onward : service.now ≤ later)
    (idle : service.isDone = false → service.signals.waiting = [] ∧
      later ≤ service.scheduler.tick ∧
      ∀ time, service.scheduler.batch = some time → later ≤ time) :
    Proceeds timing service { service with now := later } :=
  proceeds_of_course (.single (.wait onward idle)) rfl rfl

/-- The timers lead to one flush after another, and nothing happens in between. -/
theorem proceeds_fireUntil (works : service.isDone = false)
    (empty : service.signals.waiting = []) (target : Nat → Target State) (deadline : Nat)
    (scheduler : Scheduler) (state : Logged State) :
    ∀ now ≤ deadline,
      Punctual { service with now := now, scheduler := scheduler, state := state } →
      Proceeds timing { service with now := now, scheduler := scheduler, state := state }
        { service with
          now := deadline
          scheduler := (scheduler.fireUntil timing (loggedAt target) deadline state).1
          state := (scheduler.fireUntil timing (loggedAt target) deadline state).2 } := by
  -- Every timer that fires makes two moves: the wait for it, which no timer forbids because none
  -- was overdue, and the flush, after which again none is.
  fun_induction Scheduler.fireUntil timing (loggedAt target) deadline scheduler state with
  | case1 scheduler state time due fired inductionHypothesis =>
      intro now reached punctual
      obtain ⟨armed, early, inTime⟩ := Scheduler.of_dueBatch?_eq_some due
      let waiting : Service (Logged State) :=
        { service with now := time, scheduler := scheduler, state := state }
      have waits : Proceeds timing
          { service with now := now, scheduler := scheduler, state := state } waiting := by
        refine proceeds_wait (punctual.batch works time armed) fun _ => ⟨empty, early, ?_⟩
        intro other found
        cases armed.symm.trans found
        exact Nat.le_refl _
      have stillWorks : waiting.isDone = false := works
      have fires : Proceeds timing waiting _ :=
        proceeds_fireBatch stillWorks (target time) armed (Nat.le_refl time)
      have proceeds := waits.trans fires
      exact proceeds.trans (inductionHypothesis time inTime (proceeds.punctual punctual))
  | case2 scheduler state due ticks fired inductionHypothesis =>
      intro now reached punctual
      let waiting : Service (Logged State) :=
        { service with now := scheduler.tick, scheduler := scheduler, state := state }
      have waits : Proceeds timing
          { service with now := now, scheduler := scheduler, state := state } waiting := by
        refine proceeds_wait (punctual.tick works) fun _ => ⟨empty, Nat.le_refl _, ?_⟩
        intro time armed
        exact Scheduler.le_of_dueBatch?_eq_none due armed (Nat.le_refl _) ticks
      have stillWorks : waiting.isDone = false := works
      have fires : Proceeds timing waiting _ :=
        proceeds_fireTick stillWorks (target scheduler.tick) (Nat.le_refl scheduler.tick)
      have proceeds := waits.trans fires
      exact proceeds.trans
        (inductionHypothesis scheduler.tick ticks (proceeds.punctual punctual))
  | case3 scheduler state due later =>
      intro now reached punctual
      have early : deadline ≤ scheduler.tick := Nat.le_of_lt (Nat.lt_of_not_le later)
      refine proceeds_wait reached fun _ => ⟨empty, early, ?_⟩
      intro time armed
      exact Scheduler.le_of_dueBatch?_eq_none due armed early (Nat.le_refl _)

/-- After the signals that waited, a service that runs obeys its timers or ends. -/
theorem proceeds_run_received (timing : Timing) (works : service.isDone = false)
    (punctual : service.Punctual) (target : Nat → Target State) (milliseconds : Nat) :
    Proceeds timing (service.receiveAll timing)
      (service.run timing (loggedAt target) milliseconds) := by
  have onward : service.now ≤ service.now + milliseconds := Nat.le_add_right _ _
  have stillWorks : (service.receiveAll timing).isDone = false := works
  have undone : ¬ service.isDone = true := Bool.eq_false_iff.mp works
  rw [run, if_neg undone]
  dsimp only
  split
  next alone =>
    have finishes : Proceeds timing (service.receiveAll timing) _ :=
      proceeds_finish stillWorks alone rfl target
    apply finishes.trans
    refine proceeds_wait onward fun impossible => ?_
    cases impossible
  next =>
    have received : (service.withoutLog.receiveAll timing).Punctual :=
      Punctual.course ⟨punctual.tick, punctual.batch⟩ (course_drain service.withoutLog works)
    exact proceeds_fireUntil stillWorks rfl target (service.now + milliseconds) _ _ service.now
      onward ⟨received.tick, received.batch⟩

/-- A service that runs first receives the signals that wait. -/
theorem exists_course_run (timing : Timing) (works : service.isDone = false)
    (punctual : service.Punctual) (target : Nat → Target State) (milliseconds : Nat) :
    ∃ later : Timeline,
      Course timing service.withoutLog
        ((service.signals.waiting.map fun kind => (service.now, .received kind)) ++ later)
        (service.run timing (loggedAt target) milliseconds).withoutLog ∧
      service.state.2 ++ later.attempts =
        (service.run timing (loggedAt target) milliseconds).state.2 := by
  obtain ⟨later, course, logs⟩ := proceeds_run_received timing works punctual target milliseconds
  exact ⟨later, (course_drain service.withoutLog works).trans course, logs⟩

theorem proceeds_run (service : Service (Logged State)) (punctual : service.Punctual)
    (target : Nat → Target State) (milliseconds : Nat) :
    Proceeds timing service (service.run timing (loggedAt target) milliseconds) := by
  cases works : service.isDone with
  | false =>
      obtain ⟨later, course, logs⟩ := exists_course_run timing works punctual target milliseconds
      refine ⟨_, course, ?_⟩
      rw [Timeline.attempts_append, attempts_received]
      exact logs
  | true =>
      rw [run, if_pos works]
      refine proceeds_wait (Nat.le_add_right _ _) fun undone => ?_
      rw [works] at undone
      cases undone

theorem proceeds_perform (target : Nat → Target State) (service : Service (Logged State))
    (punctual : service.Punctual) (operation : Operation) :
    Proceeds timing service (service.perform timing (loggedAt target) operation) := by
  cases operation with
  | send kind =>
      rw [perform]
      split
      · exact proceeds_self service
      next signalled => exact proceeds_send signalled kind
  | copySender => exact proceeds_copySender service
  | dropSender => exact proceeds_dropSender service
  | dropSenders => exact proceeds_dropSenders service
  | run milliseconds => exact proceeds_run service punctual target milliseconds

theorem proceeds_performAll (target : Nat → Target State) (operations : List Operation)
    (service : Service (Logged State)) (punctual : service.Punctual) :
    Proceeds timing service (service.performAll timing (loggedAt target) operations) := by
  induction operations generalizing service with
  | nil => exact proceeds_self service
  | cons operation rest inductionHypothesis =>
      have proceeds : Proceeds timing service _ :=
        proceeds_perform target service punctual operation
      exact proceeds.trans (inductionHypothesis _ (proceeds.punctual punctual))

end Operations

theorem exists_course_performAll (timing : Timing) (target : Nat → Target State)
    (operations : List Operation) {service : Service State} (punctual : service.Punctual) :
    ∃ timeline, Course timing service timeline (service.performAll timing target operations) ∧
      timeline.attempts = service.attempts timing target operations := by
  obtain ⟨timeline, course, logs⟩ :
      Proceeds timing { service with state := (service.state, []) } _ :=
    proceeds_performAll target operations _ ⟨punctual.tick, punctual.batch⟩
  rw [withoutLog_performAll] at course
  exact ⟨timeline, course, logs⟩

/--
Whatever is done with a service that obeys its timers in order, it takes a course, and the attempts
on that course are those that the service makes.
-/
theorem exists_course (timing : Timing) (target : Nat → Target State) (operations : List Operation)
    (capacity : Nat) (state : State) :
    ∃ timeline,
      Course timing (start timing capacity state) timeline
        ((start timing capacity state).performAll timing target operations) ∧
      timeline.attempts = (start timing capacity state).attempts timing target operations :=
  exists_course_performAll timing target operations (punctual_start timing capacity state)

/-! ### Without the times -/

/-- The service as a machine that makes no attempt just now. -/
def machine (service : Service State) : Machine :=
  ⟨service.senders, service.signals, service.scheduler.dirty,
    if service.isDone then .ended else .waiting⟩

section Machine

variable {timing : Timing} {service final : Service State} {deeds timeline : Timeline}

theorem machine_waits (works : service.isDone = false) : service.machine.stage = .waiting := by
  rw [machine, works]
  rfl

theorem dirty_flush_logged (target : Target State) (service : Service State) :
    (service.scheduler.dirty.flush (logged target) (service.state, [])).1 =
      (service.scheduler.dirty.flush target service.state).1 :=
  congrArg (fun flushed => flushed.1.dirty)
    (flush_logged target service.scheduler (service.state, []))

theorem exists_run_flush (works : service.isDone = false) (target : Target State) :
    ∃ events,
      Machine.Run service.machine events
        { service.machine with dirty := (service.scheduler.dirty.flush target service.state).1 } ∧
      outcomes events = (service.flushed target).attempts := by
  obtain ⟨events, run, logs⟩ := run_flush target (machine_waits works) service.state []
  rw [← dirty_flush_logged, attempts_flushed]
  exact ⟨events, run, logs⟩

theorem exists_run_finish (works : service.isDone = false) (alone : service.senders = 0)
    (empty : service.signals.waiting = []) (target : Target State) :
    ∃ events,
      Machine.Run service.machine events
        { service.machine with
          dirty := (service.scheduler.dirty.flush target service.state).1
          stage := .ended } ∧
      outcomes events = (service.flushed target).attempts := by
  obtain ⟨events, run, logs⟩ := run_finish target (machine_waits works) alone empty service.state []
  rw [← dirty_flush_logged, attempts_flushed]
  exact ⟨events, run, logs⟩

/-- A move is a run of the machine, or none of its steps when time passes. -/
theorem Move.exists_run (move : Move timing service deeds final) :
    ∃ events, Machine.Run service.machine events final.machine ∧
      outcomes events = deeds.attempts := by
  cases move with
  | copy alive => exact ⟨_, .single (.copy (Nat.pos_of_ne_zero alive)), rfl⟩
  | drop alive => exact ⟨_, .single (.drop (Nat.pos_of_ne_zero alive)), rfl⟩
  | send kind alive => exact ⟨_, .single (.signal kind (Nat.pos_of_ne_zero alive)), rfl⟩
  | receive works received => exact ⟨_, .single (.receive (machine_waits works) received), rfl⟩
  | batch target works armed due => exact exists_run_flush works target
  | tick target works due => exact exists_run_flush works target
  | finish target works alone empty => exact exists_run_finish works alone empty target
  | wait onward idle => exact ⟨[], .refl, rfl⟩

theorem Course.exists_run (course : Course timing service timeline final) :
    ∃ events, Machine.Run service.machine events final.machine ∧
      outcomes events = timeline.attempts := by
  induction course with
  | refl => exact ⟨[], .refl, rfl⟩
  | snoc _ move inductionHypothesis =>
      obtain ⟨earlier, run, logs⟩ := inductionHypothesis
      obtain ⟨later, runOn, logsOn⟩ := move.exists_run
      refine ⟨earlier ++ later, run.trans runOn, ?_⟩
      rw [outcomes_append, Timeline.attempts_append, logs, logsOn]

end Machine

/--
Whatever is done with a service, the machine has a history with the attempts of the service that
ends with its flags. A kind is flagged exactly if it was received since its last success began; and
when the service is done, the last attempt to save a kind that is still flagged failed.
-/
theorem exists_history {timing : Timing} {target : Nat → Target State} {capacity : Nat}
    {state : State} {operations : List Operation} {final : Service State}
    (performed : (start timing capacity state).performAll timing target operations = final) :
    ∃ history, Machine.History (Machine.start capacity) history final.machine ∧
      outcomes (Machine.seenIn history) =
        (start timing capacity state).attempts timing target operations ∧
      ∀ kind,
        (final.scheduler.dirty.has kind = true ↔ .received kind ∈ sinceSaved kind history) ∧
        (final.isDone = true → final.scheduler.dirty.has kind = true →
          ((start timing capacity state).attempts timing target operations).reverse.lookup kind =
            some false) := by
  obtain ⟨timeline, course, attempted⟩ := exists_course timing target operations capacity state
  rw [performed] at course
  obtain ⟨events, run, logs⟩ := course.exists_run
  obtain ⟨history, reached, rfl⟩ := run.exists_history
  have tried : outcomes (Machine.seenIn history) =
      (start timing capacity state).attempts timing target operations := logs.trans attempted
  refine ⟨history, reached, tried, ?_⟩
  intro kind
  refine ⟨(Machine.told_history reached kind).flag, ?_⟩
  intro done flagged
  have ended : final.machine.stage = .ended := by
    rw [machine, done]
    rfl
  have failed := Machine.lastOutcome_of_flagged run ended flagged
  rw [lastOutcome, tried] at failed
  exact failed

end Service

end SplitDns.Persist
