import SplitDns.AddressSet.Backend

/-!
# Calls of a backend

Calls are performed one after another, each with its result. A noting backend keeps every call
that was made of it, whatever the operation, and whether the call succeeded. It adds as the backend
does whose calls it notes.
-/

namespace SplitDns.AddressSet

open SplitDns.Address

variable {State Other : Type}

/-- What a call that succeeds gives back. -/
inductive Reply where
  | done
  | membership (isMember : Bool)
  | dump (text : String)
  deriving DecidableEq

namespace Backend

/-- Performs a call. -/
def perform (backend : Backend State) (call : Call) (state : State) :
    Except Error Reply × State :=
  match call with
  | .create set =>
      let (result, state) := backend.create set state
      (result.map fun _ => .done, state)
  | .add set address =>
      let (result, state) := backend.add set address state
      (result.map fun _ => .done, state)
  | .remove set address =>
      let (result, state) := backend.remove set address state
      (result.map .membership, state)
  | .test set address =>
      let (result, state) := backend.test set address state
      (result.map .membership, state)
  | .save =>
      let (result, state) := backend.save state
      (result.map .dump, state)

/-- Performs calls in order and collects their results. -/
def performAll (backend : Backend State) :
    List Call → State → List (Except Error Reply) × State
  | [], state => ([], state)
  | call :: rest, state =>
      let (result, state) := backend.perform call state
      let (results, state) := backend.performAll rest state
      (result :: results, state)

/-- Additions do the same on both sides of a change of state. -/
def AddsAlike (backend : Backend State) (other : Backend Other) (change : State → Other) : Prop :=
  ∀ set address state, other.add set address (change state) =
    ((backend.add set address state).1, change (backend.add set address state).2)

theorem performAll_cons (backend : Backend State) (call : Call) (rest : List Call)
    (state : State) :
    backend.performAll (call :: rest) state =
      ((backend.perform call state).1 ::
          (backend.performAll rest (backend.perform call state).2).1,
        (backend.performAll rest (backend.perform call state).2).2) := rfl

theorem performAll_append (backend : Backend State) (calls others : List Call) (state : State) :
    backend.performAll (calls ++ others) state =
      ((backend.performAll calls state).1 ++
          (backend.performAll others (backend.performAll calls state).2).1,
        (backend.performAll others (backend.performAll calls state).2).2) := by
  induction calls generalizing state with
  | nil => rfl
  | cons call rest inductionHypothesis =>
      rw [List.cons_append, performAll_cons, performAll_cons, inductionHypothesis]
      rfl

end Backend

/-! ### Calls that are noted -/

/-- A call that was made, and whether it succeeded. -/
structure CallNote where
  call : Call
  succeeded : Bool
  deriving DecidableEq

/-- The set and the address of an addition that succeeded. -/
def CallNote.added? : CallNote → Option (String × Ipv4)
  | ⟨.add set (.v4 address), true⟩ => some (set, address)
  | _ => none

/-- A state with the calls that led to it, the first one first. -/
structure Noted (State : Type) where
  notes : List CallNote
  state : State

namespace Backend

/-- Performs an operation and notes the call that it was. -/
def note {Result : Type} (call : Call) (operation : State → Except Error Result × State)
    (noted : Noted State) : Except Error Result × Noted State :=
  let (result, state) := operation noted.state
  (result, ⟨noted.notes ++ [⟨call, result.isOk⟩], state⟩)

/-- The backend that also notes every call. -/
def noting (backend : Backend State) : Backend (Noted State) where
  create set := note (.create set) (backend.create set)
  add set address := note (.add set address) (backend.add set address)
  remove set address := note (.remove set address) (backend.remove set address)
  test set address := note (.test set address) (backend.test set address)
  save := note .save backend.save

theorem noting_add (backend : Backend State) (set : String) (address : Ip) (noted : Noted State) :
    backend.noting.add set address noted =
      ((backend.add set address noted.state).1,
        ⟨noted.notes ++ [⟨.add set address, (backend.add set address noted.state).1.isOk⟩],
          (backend.add set address noted.state).2⟩) := rfl

theorem noting_addsAlike (backend : Backend State) :
    backend.noting.AddsAlike backend Noted.state := fun _ _ _ => rfl

end Backend

end SplitDns.AddressSet
