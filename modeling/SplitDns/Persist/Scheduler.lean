import SplitDns.Persist.Signals

/-!
# The save scheduler

One flag per kind says that something is to be saved. A received signal sets the flag of its kind;
a flush tries to save every flagged kind and clears the flag of one that succeeds. Flushes happen
when the quiet time after the last signal ends, at the ticks of a fixed interval, and at the end.
-/

namespace SplitDns.Persist

/-- Tries to save one kind, over the state of what is outside; says whether that succeeded. -/
abbrev Target (State : Type) := SaveKind → State → Bool × State

/-- The kinds that are to be saved. -/
structure Dirty where
  addressSet : Bool
  addressMap : Bool
  deriving DecidableEq, Repr

namespace Dirty

def clean : Dirty :=
  ⟨false, false⟩

def has (dirty : Dirty) : SaveKind → Bool
  | .addressSet => dirty.addressSet
  | .addressMap => dirty.addressMap

def set (dirty : Dirty) (kind : SaveKind) (flag : Bool) : Dirty :=
  match kind with
  | .addressSet => { dirty with addressSet := flag }
  | .addressMap => { dirty with addressMap := flag }

def mark (dirty : Dirty) (kind : SaveKind) : Dirty :=
  dirty.set kind true

def any (dirty : Dirty) : Bool :=
  dirty.addressSet || dirty.addressMap

@[simp]
theorem has_set (dirty : Dirty) (kind other : SaveKind) (flag : Bool) :
    (dirty.set kind flag).has other = if other = kind then flag else dirty.has other := by
  cases kind <;> cases other <;> rfl

/-- Tries to save one kind if it is flagged. -/
def flushKind {State : Type} (target : Target State) (kind : SaveKind) (dirty : Dirty)
    (state : State) : Dirty × State :=
  if dirty.has kind then
    let (saved, state) := target kind state
    (dirty.set kind !saved, state)
  else
    (dirty, state)

/-- Tries to save every flagged kind, the address sets first. -/
def flush {State : Type} (target : Target State) (dirty : Dirty) (state : State) : Dirty × State :=
  let (dirty, state) := dirty.flushKind target .addressSet state
  dirty.flushKind target .addressMap state

end Dirty

structure Timing where
  /-- The milliseconds between two ticks. -/
  interval : Nat
  /-- The quiet time in milliseconds after which signals lead to a flush. -/
  quiet : Nat
  interval_pos : 0 < interval

structure Scheduler where
  dirty : Dirty
  /-- The time of the flush that the last signal led to, until it happens. -/
  batch : Option Nat
  /-- The time of the next tick. -/
  tick : Nat

namespace Scheduler

def start (timing : Timing) (now : Nat) : Scheduler :=
  ⟨.clean, none, now + timing.interval⟩

def receive (timing : Timing) (now : Nat) (kind : SaveKind) (scheduler : Scheduler) : Scheduler :=
  { scheduler with dirty := scheduler.dirty.mark kind, batch := some (now + timing.quiet) }

variable {State : Type}

def flush (target : Target State) (scheduler : Scheduler) (state : State) : Scheduler × State :=
  let (dirty, state) := scheduler.dirty.flush target state
  ({ scheduler with dirty := dirty }, state)

/-- The quiet time has ended. -/
def fireBatch (target : Target State) (scheduler : Scheduler) (state : State) :
    Scheduler × State :=
  { scheduler with batch := none }.flush target state

def fireTick (timing : Timing) (target : Target State) (now : Nat) (scheduler : Scheduler)
    (state : State) : Scheduler × State :=
  { scheduler with tick := now + timing.interval }.flush target state

/-- Saves what is still flagged when no more signals can come. -/
def finish (target : Target State) (scheduler : Scheduler) (state : State) : Scheduler × State :=
  scheduler.flush target state

end Scheduler

end SplitDns.Persist
