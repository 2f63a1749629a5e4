import SplitDns.Persist.Service
import SplitDns.Proofs.Persist.Machine

/-!
# Operations on the service

What others do with a service, one operation after another, and the attempts to save that it makes
meanwhile. The attempts are taken from a log beside what is outside; the log changes nothing else:
`withoutLog_performAll`.
-/

namespace SplitDns.Persist

variable {State : Type}

/-- What is outside, with the attempts so far and their outcomes. -/
abbrev Logged (State : Type) :=
  State × List (SaveKind × Bool)

def loggedAt (target : Nat → Target State) : Nat → Target (Logged State) :=
  fun time => logged (target time)

namespace Service

/-- What others may do with a service, and letting time pass. -/
inductive Operation where
  | send (kind : SaveKind)
  | copySender
  | dropSender
  | dropSenders
  | run (milliseconds : Nat)

/-- Only a sender can signal. -/
def perform (timing : Timing) (target : Nat → Target State) (service : Service State) :
    Operation → Service State
  | .send kind => if service.senders = 0 then service else (service.send kind).2
  | .copySender => service.copySender
  | .dropSender => service.dropSender
  | .dropSenders => service.dropSenders
  | .run milliseconds => service.run timing target milliseconds

def performAll (timing : Timing) (target : Nat → Target State) (operations : List Operation)
    (service : Service State) : Service State :=
  operations.foldl (perform timing target) service

/-- The service as it is outside of proofs. -/
def withoutLog (service : Service (Logged State)) : Service State :=
  { service with state := service.state.1 }

theorem flushKind_logged (target : Target State) (kind : SaveKind) (dirty : Dirty)
    (state : Logged State) :
    Prod.map id Prod.fst (dirty.flushKind (logged target) kind state) =
      dirty.flushKind target kind state.1 := by
  unfold Dirty.flushKind
  split <;> rfl

theorem flush_logged (target : Target State) (scheduler : Scheduler) (state : Logged State) :
    Prod.map id Prod.fst (scheduler.flush (logged target) state) =
      scheduler.flush target state.1 := by
  have sets := flushKind_logged target .addressSet scheduler.dirty state
  have maps := flushKind_logged target .addressMap
    (scheduler.dirty.flushKind (logged target) .addressSet state).1
    (scheduler.dirty.flushKind (logged target) .addressSet state).2
  simp only [Scheduler.flush, Dirty.flush, Prod.map, id] at sets maps ⊢
  rw [← sets, ← maps]

theorem flushKind_log (target : Target State) (kind : SaveKind) (dirty : Dirty)
    (log : List (SaveKind × Bool)) (state : Logged State) :
    dirty.flushKind (logged target) kind (state.1, log ++ state.2) =
      Prod.map id (Prod.map id (log ++ ·)) (dirty.flushKind (logged target) kind state) := by
  unfold Dirty.flushKind
  split
  · simp only [logged, List.append_assoc, Prod.map, id]
  · rfl

/-- A flush adds its attempts to the log. -/
theorem flush_log (target : Target State) (scheduler : Scheduler)
    (log : List (SaveKind × Bool)) (state : Logged State) :
    scheduler.flush (logged target) (state.1, log ++ state.2) =
      Prod.map id (Prod.map id (log ++ ·)) (scheduler.flush (logged target) state) := by
  have sets := flushKind_log target .addressSet scheduler.dirty log state
  have maps := flushKind_log target .addressMap
    (scheduler.dirty.flushKind (logged target) .addressSet state).1 log
    (scheduler.dirty.flushKind (logged target) .addressSet state).2
  simp only [Scheduler.flush, Dirty.flush, Prod.map, id] at sets maps ⊢
  rw [sets, maps]

theorem fireUntil_logged (timing : Timing) (target : Nat → Target State) (deadline : Nat)
    (scheduler : Scheduler) (state : Logged State) :
    Prod.map id Prod.fst (scheduler.fireUntil timing (loggedAt target) deadline state) =
      scheduler.fireUntil timing target deadline state.1 := by
  fun_induction Scheduler.fireUntil timing (loggedAt target) deadline scheduler state with
  | case1 scheduler state time due fired inductionHypothesis =>
      have flushed : Prod.map id Prod.fst fired = scheduler.fireBatch (target time) state.1 :=
        flush_logged (target time) { scheduler with batch := none } state
      rw [inductionHypothesis, Scheduler.fireUntil.eq_def timing target deadline scheduler]
      split
      next found =>
        cases due.symm.trans found
        rw [← flushed]
        rfl
      next none => cases due.symm.trans none
  | case2 scheduler state due ticks fired inductionHypothesis =>
      have flushed : Prod.map id Prod.fst fired =
          scheduler.fireTick timing (target scheduler.tick) scheduler.tick state.1 :=
        flush_logged (target scheduler.tick)
          { scheduler with tick := scheduler.tick + timing.interval } state
      rw [inductionHypothesis, Scheduler.fireUntil.eq_def timing target deadline scheduler]
      split
      next found => cases due.symm.trans found
      next =>
        rw [if_pos ticks, ← flushed]
        rfl
  | case3 scheduler state due later =>
      rw [Scheduler.fireUntil.eq_def timing target deadline scheduler]
      split
      next found => cases due.symm.trans found
      next =>
        rw [if_neg later]
        rfl

/-- The log changes nothing. -/
theorem withoutLog_run (timing : Timing) (target : Nat → Target State) (milliseconds : Nat)
    (service : Service (Logged State)) :
    (service.run timing (loggedAt target) milliseconds).withoutLog =
      service.withoutLog.run timing target milliseconds := by
  by_cases done : service.isDone = true
  · have doneWithout : service.withoutLog.isDone = true := done
    rw [run, if_pos done, run, if_pos doneWithout]
    rfl
  · have undone : ¬ service.withoutLog.isDone = true := done
    rw [run, if_neg done, run, if_neg undone]
    by_cases alone : (service.receiveAll timing).senders = 0
    · have aloneWithout : (service.withoutLog.receiveAll timing).senders = 0 := alone
      have flushed := flush_logged (target service.now) (service.receiveAll timing).scheduler
        service.state
      rw [if_pos alone, if_pos aloneWithout]
      exact congrArg (fun result : Scheduler × State =>
        { service.withoutLog.receiveAll timing with
          now := service.now + milliseconds
          scheduler := result.1
          isDone := true
          state := result.2 }) flushed
    · have others : ¬ (service.withoutLog.receiveAll timing).senders = 0 := alone
      have fired := fireUntil_logged timing target (service.now + milliseconds)
        (service.receiveAll timing).scheduler service.state
      rw [if_neg alone, if_neg others]
      exact congrArg (fun result : Scheduler × State =>
        { service.withoutLog.receiveAll timing with
          now := service.now + milliseconds
          scheduler := result.1
          state := result.2 }) fired

theorem withoutLog_perform (timing : Timing) (target : Nat → Target State)
    (service : Service (Logged State)) (operation : Operation) :
    (service.perform timing (loggedAt target) operation).withoutLog =
      service.withoutLog.perform timing target operation := by
  cases operation with
  | send kind =>
      rw [perform, perform, apply_ite withoutLog]
      rfl
  | copySender =>
      rw [perform, perform, copySender, copySender, apply_ite withoutLog]
      rfl
  | dropSender => rfl
  | dropSenders => rfl
  | run milliseconds => exact withoutLog_run timing target milliseconds service

theorem withoutLog_performAll (timing : Timing) (target : Nat → Target State)
    (operations : List Operation) (service : Service (Logged State)) :
    (service.performAll timing (loggedAt target) operations).withoutLog =
      service.withoutLog.performAll timing target operations := by
  induction operations generalizing service with
  | nil => rfl
  | cons operation rest inductionHypothesis =>
      rw [performAll, performAll, List.foldl_cons, List.foldl_cons, ← withoutLog_perform]
      exact inductionHypothesis _

/-- The attempts that a service makes, with their outcomes. -/
def attempts (timing : Timing) (target : Nat → Target State) (operations : List Operation)
    (service : Service State) : List (SaveKind × Bool) :=
  (performAll timing (loggedAt target) operations
    { service with state := (service.state, []) }).state.2

end Service

end SplitDns.Persist
