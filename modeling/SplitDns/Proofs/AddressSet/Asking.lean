import SplitDns.Proofs.AddressSet.Calls
import SplitDns.Proofs.AddressSet.Members

/-!
# Asking the sets in memory

A test is noted among the calls and makes no address a member, nor takes one out. Where no failure
is switched on, it answers whether the address is a member: a set that exists has a name that sets
can have, since every call sees to that.
-/

namespace SplitDns.AddressSet.Memory

open SplitDns.Address

variable {memory middle next : Memory} {set : String} {address : Ip}
  {questions more : List Call}

/-! ### Names of sets -/

/-- Every set that exists has a name that sets can have. -/
def HasValidNames (memory : Memory) : Prop :=
  ∀ set, memory.sets.contains set = true → isValidName set = true

theorem hasValidNames_new (strict : Bool) : (new strict).HasValidNames := by
  intro set found
  cases found

theorem HasValidNames.log (valid : memory.HasValidNames) (call : Call) :
    (memory.log call).HasValidNames := valid

theorem HasValidNames.put (valid : memory.HasValidNames) (named : isValidName set = true)
    (addresses : List Ip) : (memory.put set addresses).HasValidNames := by
  intro other found
  by_cases same : other = set
  · rw [same]
    exact named
  · rw [Memory.put, SortedMap.contains, SortedMap.find?_put, if_neg same] at found
    exact valid other found

theorem isValidName_of_checkName (checked : checkName set = .ok ()) : isValidName set = true := by
  unfold checkName at checked
  split at checked
  next valid => exact valid
  next => cases checked

theorem isValidName_of_permit {command : String}
    (permitted : memory.permit command set address = .ok ()) : isValidName set = true := by
  unfold Memory.permit at permitted
  cases checked : checkName set with
  | error cause =>
      rw [checked] at permitted
      cases permitted
  | ok done => exact isValidName_of_checkName checked

/-- No call makes a set whose name is not valid. -/
theorem HasValidNames.perform (valid : memory.HasValidNames) (call : Call) :
    (Memory.backend.perform call memory).2.HasValidNames := by
  cases call with
  | create set =>
      change (memory.create set).2.HasValidNames
      unfold Memory.create
      simp only
      split
      next => exact valid
      next => exact valid
      next checked _ =>
        split
        · exact valid
        · exact (valid.log _).put (isValidName_of_checkName checked) []
  | add set address =>
      change (memory.add set address).2.HasValidNames
      rw [add_eq]
      cases permitted : memory.permit "add" set address with
      | error cause => exact valid
      | ok done => exact (valid.log _).put (isValidName_of_permit permitted) _
  | remove set address =>
      change (memory.remove set address).2.HasValidNames
      rw [remove_eq]
      cases permitted : memory.permit "del" set address with
      | error cause => exact valid
      | ok done => exact (valid.log _).put (isValidName_of_permit permitted) _
  | test set address =>
      change (memory.test set address).2.HasValidNames
      rw [test_eq]
      cases permitted : memory.permit "test" set address with
      | error cause => exact valid
      | ok done => exact (valid.log _).put (isValidName_of_permit permitted) _
  | save => exact valid

theorem HasValidNames.performAll (valid : memory.HasValidNames) (calls : List Call) :
    (Memory.backend.performAll calls memory).2.HasValidNames := by
  induction calls generalizing memory with
  | nil => exact valid
  | cons call rest inductionHypothesis =>
      rw [Backend.performAll_cons]
      exact inductionHypothesis (valid.perform call)

/-! ### Questions and answers -/

/-- Nothing stands in the way of an answer. -/
structure IsAnswering (memory : Memory) : Prop where
  failing : memory.failing = []
  failAll : memory.failAll = false
  validNames : memory.HasValidNames

/-- Questions were asked and noted, and that is all that can be told. -/
structure Asked (questions : List Call) (memory next : Memory) : Prop where
  calls : next.calls = memory.calls ++ questions
  members : ∀ set, members next.sets set = members memory.sets set
  answering : memory.IsAnswering → next.IsAnswering

theorem Asked.refl (memory : Memory) : Asked [] memory memory where
  calls := (List.append_nil _).symm
  members _ := rfl
  answering := id

theorem Asked.trans (first : Asked questions memory middle) (second : Asked more middle next) :
    Asked (questions ++ more) memory next where
  calls := by rw [second.calls, first.calls, List.append_assoc]
  members set := (second.members set).trans (first.members set)
  answering answering := second.answering (first.answering answering)

theorem asked_test (memory : Memory) (set : String) (address : Ip) :
    Asked [.test set address] memory (memory.test set address).2 where
  calls := by
    rw [test_eq]
    cases memory.permit "test" set address <;> rfl
  members other := by
    rw [test_eq]
    cases memory.permit "test" set address with
    | error cause => rfl
    | ok done =>
        simp only [AddressSet.members, Memory.put, SortedMap.find?_put]
        split
        next same =>
          rw [same]
          rfl
        next => rfl
  answering answering := by
    have valid := answering.validNames.perform (.test set address)
    refine ⟨?_, ?_, valid⟩
    · rw [test_eq]
      cases memory.permit "test" set address <;> exact answering.failing
    · rw [test_eq]
      cases memory.permit "test" set address <;> exact answering.failAll

theorem IsAnswering.permit_of_contains (answering : memory.IsAnswering) (command : String)
    (found : memory.sets.contains set = true) (address : Ip) :
    memory.permit command set address = .ok () := by
  have named := answering.validNames set found
  simp [Memory.permit, checkName, injected, answering.failing, answering.failAll, named, found,
    bind, Except.bind]

theorem IsAnswering.permit_of_isMember (answering : memory.IsAnswering) (command : String)
    (member : memory.IsMember set address) : memory.permit command set address = .ok () := by
  apply answering.permit_of_contains
  rw [IsMember, AddressSet.members] at member
  rw [SortedMap.contains]
  cases found : memory.sets.find? set with
  | none => simp [found] at member
  | some list => rfl

/-- A test finds the members and nothing else; a set that is refused has none. -/
theorem IsAnswering.test_eq_true_iff (answering : memory.IsAnswering) :
    (memory.test set address).1 = .ok true ↔ memory.IsMember set address := by
  rw [test_eq]
  cases permitted : memory.permit "test" set address with
  | error cause =>
      refine ⟨nofun, fun member => ?_⟩
      rw [answering.permit_of_isMember "test" member] at permitted
      cases permitted
  | ok done => rw [Except.ok.injEq, List.contains_iff_mem, IsMember]

end SplitDns.AddressSet.Memory
