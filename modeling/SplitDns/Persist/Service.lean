import SplitDns.Persist.Scheduler

/-!
# The scheduler in time

The scheduler with its signal queue on a clock that counts milliseconds. Whenever it runs, it
receives all waiting signals first and then obeys its timers in the order of their times. When no
sender is left and the queue is empty, it saves what is flagged and ends.
-/

namespace SplitDns.Persist

variable {State : Type}

namespace Scheduler

/-- The time of the flush after quiet time, if it comes before the next tick and the deadline. -/
def dueBatch? (scheduler : Scheduler) (deadline : Nat) : Option Nat :=
  scheduler.batch.filter fun time => time ≤ scheduler.tick && time ≤ deadline

@[simp]
theorem batch_flush (target : Target State) (scheduler : Scheduler) (state : State) :
    (scheduler.flush target state).1.batch = scheduler.batch := rfl

@[simp]
theorem tick_flush (target : Target State) (scheduler : Scheduler) (state : State) :
    (scheduler.flush target state).1.tick = scheduler.tick := rfl

/-- Obeys all timers up to a deadline; the target is told the time of every flush. -/
def fireUntil (timing : Timing) (target : Nat → Target State) (deadline : Nat)
    (scheduler : Scheduler) (state : State) : Scheduler × State :=
  match _found : scheduler.dueBatch? deadline with
  | some time =>
      let fired := scheduler.fireBatch (target time) state
      fireUntil timing target deadline fired.1 fired.2
  | none =>
      if scheduler.tick ≤ deadline then
        let fired := scheduler.fireTick timing (target scheduler.tick) scheduler.tick state
        fireUntil timing target deadline fired.1 fired.2
      else
        (scheduler, state)
  termination_by (deadline + 1 - scheduler.tick, scheduler.batch.isSome.toNat)
  decreasing_by
    · have armed : scheduler.batch.isSome = true := by
        unfold dueBatch? at _found
        rw [Option.filter_eq_some_iff] at _found
        simp [_found.1]
      simp only [fireBatch, tick_flush, batch_flush]
      apply Prod.Lex.right
      simp [armed]
    · have positive := timing.interval_pos
      simp only [fireTick, tick_flush]
      apply Prod.Lex.left
      omega

end Scheduler

structure Service (State : Type) where
  now : Nat
  /-- The number of senders that may still signal. -/
  senders : Nat
  signals : Signals
  scheduler : Scheduler
  isDone : Bool
  /-- What is outside, where the snapshots are. -/
  state : State

namespace Service

/-- A service with one sender, at time zero. -/
def start (timing : Timing) (capacity : Nat) (state : State) : Service State :=
  ⟨0, 1, .new capacity, .start timing 0, false, state⟩

def send (service : Service State) (kind : SaveKind) : Bool × Service State :=
  let (accepted, signals) := service.signals.send kind
  (accepted, { service with signals := signals })

/-- Copies a sender, if there is one. -/
def copySender (service : Service State) : Service State :=
  if service.senders = 0 then service else { service with senders := service.senders + 1 }

def dropSender (service : Service State) : Service State :=
  { service with senders := service.senders - 1 }

def dropSenders (service : Service State) : Service State :=
  { service with senders := 0 }

def receiveAll (timing : Timing) (service : Service State) : Service State :=
  let (kinds, signals) := service.signals.drain
  { service with
    signals := signals
    scheduler := kinds.foldl
      (fun scheduler kind => scheduler.receive timing service.now kind) service.scheduler }

/-- Ends the service with a last flush. -/
def finish (target : Nat → Target State) (service : Service State) : Service State :=
  let (scheduler, state) := service.scheduler.finish (target service.now) service.state
  { service with scheduler := scheduler, isDone := true, state := state }

/-- Lets the service run for a number of milliseconds, in which nobody signals. -/
def run (timing : Timing) (target : Nat → Target State) (milliseconds : Nat)
    (service : Service State) : Service State :=
  let deadline := service.now + milliseconds
  if service.isDone then { service with now := deadline }
  else
    let service := service.receiveAll timing
    if service.senders = 0 then { service.finish target with now := deadline }
    else
      let (scheduler, state) :=
        service.scheduler.fireUntil timing target deadline service.state
      { service with scheduler := scheduler, state := state, now := deadline }

end Service

end SplitDns.Persist
