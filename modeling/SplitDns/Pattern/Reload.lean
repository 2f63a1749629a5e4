import SplitDns.Pattern.Store

/-!
# Periodic reloads

Reads the pattern files again after every interval, from one interval after the start on.
-/

namespace SplitDns.Pattern

structure Reloader where
  /-- The milliseconds between two reloads. -/
  interval : Nat
  /-- The time of the next reload. -/
  next : Nat
  interval_pos : 0 < interval

namespace Reloader

/-- A reloader that is started at a time. -/
def start? (interval now : Nat) : Option Reloader :=
  if positive : 0 < interval then some ⟨interval, now + interval, positive⟩ else none

/-- The reloads up to a time, and the reloader that waits for the next one. -/
def advance (reloader : Reloader) (deadline : Nat) (files : Files.Store) (store : Store) :
    Store × Reloader :=
  if due : reloader.next ≤ deadline then
    have _later : deadline + 1 - (reloader.next + reloader.interval) <
        deadline + 1 - reloader.next := by
      have positive := reloader.interval_pos
      omega
    advance { reloader with next := reloader.next + reloader.interval } deadline files
      (store.reload files)
  else
    (store, reloader)
  termination_by deadline + 1 - reloader.next

end Reloader

end SplitDns.Pattern
