import SplitDns.Persist.Scheduler

/-!
# Scripted saving

A target that saves nothing: it takes the outcomes from a list, succeeds when the list is used up,
and keeps a log.
-/

namespace SplitDns.Persist

structure Attempt where
  time : Nat
  kind : SaveKind
  saved : Bool
  deriving DecidableEq, Repr

structure Script where
  /-- Whether the next attempts fail. -/
  failures : List Bool
  /-- All attempts so far, the first one first. -/
  attempts : List Attempt

def Script.target (time : Nat) : Target Script := fun kind script =>
  let saved := !(script.failures.head?.getD false)
  (saved, ⟨script.failures.tail, script.attempts ++ [⟨time, kind, saved⟩]⟩)

end SplitDns.Persist
