/-!
# Save signals

Whoever changes the address map or an address set says so without waiting: the signal goes into a
bounded queue and is dropped when the queue is full or closed. `length_waiting_le` keeps the bound.
-/

namespace SplitDns.Persist

inductive SaveKind where
  | addressSet
  | addressMap
  deriving DecidableEq, Repr

/-- The signals that wait to be received, the oldest first. -/
structure Signals where
  capacity : Nat
  waiting : List SaveKind
  isOpen : Bool
  capacity_pos : 0 < capacity
  length_waiting_le : waiting.length ≤ capacity

namespace Signals

/-- An empty queue with room for one signal at least. -/
def new (capacity : Nat) : Signals :=
  ⟨max capacity 1, [], true, by omega, by simp⟩

def send (signals : Signals) (kind : SaveKind) : Bool × Signals :=
  if room : signals.isOpen = true ∧ signals.waiting.length < signals.capacity then
    (true, { signals with
      waiting := signals.waiting ++ [kind]
      length_waiting_le := by simp; omega })
  else
    (false, signals)

/-- Takes the oldest signal. -/
def receive? (signals : Signals) : Option (SaveKind × Signals) :=
  match found : signals.waiting with
  | [] => none
  | kind :: rest =>
      some (kind, { signals with
        waiting := rest
        length_waiting_le := by
          have bound := signals.length_waiting_le
          rw [found, List.length_cons] at bound
          omega })

theorem waiting_of_receive? {signals rest : Signals} {kind : SaveKind}
    (found : signals.receive? = some (kind, rest)) :
    signals.waiting = kind :: rest.waiting := by
  unfold receive? at found
  split at found
  · cases found
  next cons =>
    simp only [Option.some.injEq, Prod.mk.injEq] at found
    obtain ⟨rfl, rfl⟩ := found
    exact cons

def drain (signals : Signals) : List SaveKind × Signals :=
  (signals.waiting, { signals with waiting := [], length_waiting_le := by simp })

/-- Gives up the signals that wait, and lets no further one in. -/
def close (signals : Signals) : Signals :=
  { signals with waiting := [], isOpen := false, length_waiting_le := by simp }

end Signals

end SplitDns.Persist
