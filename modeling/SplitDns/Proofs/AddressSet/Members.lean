import SplitDns.AddressSet.Memory
import SplitDns.Proofs.AddressSet.Calls
import SplitDns.SortedMap

/-!
# Members of the sets in memory

What an addition and a removal do to the members of every set. `Keeps` is what a backend promises
about the members of its sets. A backend is steady if an addition makes one member and nothing else,
or is refused for reasons that no addition changes.
-/

namespace SplitDns.AddressSet

open SplitDns.Address

/-- An addition that succeeds makes a member, and no addition takes a member away. -/
structure Backend.Keeps {Sets : Type} (backend : Backend Sets)
    (IsMember : Sets → String → Ip → Prop) : Prop where
  added : ∀ set address sets, (backend.add set address sets).1 = .ok () →
    IsMember (backend.add set address sets).2 set address
  kept : ∀ set address sets other member, IsMember sets other member →
    IsMember (backend.add set address sets).2 other member

/--
Additions that can be repeated, and that are refused depending on the set and the address only. The
states that occur are closed under additions.
-/
structure Backend.Steady {Sets : Type} (backend : Backend Sets) (Occurs : Sets → Prop)
    (IsMember : Sets → String → Ip → Prop) (Refused : String → Ip → Prop) : Prop where
  occurs : ∀ set address sets, Occurs sets → Occurs (backend.add set address sets).2
  isOk : ∀ set address sets, Occurs sets →
    ((backend.add set address sets).1.isOk = true ↔ ¬ Refused set address)
  isMember : ∀ set address sets other member, Occurs sets →
    (IsMember (backend.add set address sets).2 other member ↔
      IsMember sets other member ∨ ¬ Refused set address ∧ other = set ∧ member = address)

namespace Memory

variable {memory other : Memory} {set wanted : String} {address member : Ip}

def IsMember (memory : Memory) (set : String) (address : Ip) : Prop :=
  address ∈ members memory.sets set

theorem isMember_put {addresses : List Ip} :
    (memory.put set addresses).IsMember wanted address ↔
      if wanted = set then address ∈ addresses else memory.IsMember wanted address := by
  rw [IsMember, members, put, SortedMap.find?_put]
  by_cases same : wanted = set
  · rw [if_pos same, if_pos same, Option.getD_some]
  · rw [if_neg same, if_neg same]
    rfl

theorem isMember_log {call : Call} :
    (memory.log call).IsMember set address ↔ memory.IsMember set address := Iff.rfl

theorem add_eq (memory : Memory) (set : String) (address : Ip) :
    memory.add set address =
      match memory.permit "add" set address with
      | .error cause => (.error cause, memory.log (.add set address))
      | .ok () => (.ok (), (memory.log (.add set address)).put set
          (insertMember address (members memory.sets set))) := rfl

theorem remove_eq (memory : Memory) (set : String) (address : Ip) :
    memory.remove set address =
      match memory.permit "del" set address with
      | .error cause => (.error cause, memory.log (.remove set address))
      | .ok () => (.ok ((members memory.sets set).contains address),
          (memory.log (.remove set address)).put set
            (removeMember address (members memory.sets set))) := rfl

theorem test_eq (memory : Memory) (set : String) (address : Ip) :
    memory.test set address =
      match memory.permit "test" set address with
      | .error cause => (.error cause, memory.log (.test set address))
      | .ok () => (.ok ((members memory.sets set).contains address),
          (memory.log (.test set address)).put set (members memory.sets set)) := rfl

theorem isOk_add (memory : Memory) (set : String) (address : Ip) :
    (memory.add set address).1.isOk = (memory.permit "add" set address).isOk := by
  rw [add_eq]
  cases memory.permit "add" set address <;> rfl

/-- An addition that succeeds makes one member. -/
theorem isMember_add :
    (memory.add set address).2.IsMember wanted member ↔
      memory.IsMember wanted member ∨
        (memory.add set address).1.isOk = true ∧ wanted = set ∧ member = address := by
  rw [add_eq]
  cases memory.permit "add" set address with
  | error cause => simp [Except.isOk, Except.toBool, isMember_log]
  | ok done =>
      rw [isMember_put]
      by_cases same : wanted = set
      · subst same
        rw [if_pos rfl, mem_insertMember]
        simp [Except.isOk, Except.toBool, IsMember, or_comm]
      · simp [same, isMember_log]

/-- The sets in memory keep what a backend promises. -/
theorem keeps_memory : Memory.backend.Keeps IsMember where
  added set address memory added := by
    have succeeded : (memory.add set address).1.isOk = true := congrArg Except.isOk added
    exact isMember_add.mpr (.inr ⟨succeeded, rfl, rfl⟩)
  kept _ _ _ _ _ inOther := isMember_add.mpr (.inl inOther)

/-- A removal that succeeds takes one member out. -/
theorem isMember_remove :
    (memory.remove set address).2.IsMember wanted member ↔
      memory.IsMember wanted member ∧
        ¬ ((memory.remove set address).1.isOk = true ∧ wanted = set ∧ member = address) := by
  rw [remove_eq]
  cases memory.permit "del" set address with
  | error cause => simp [Except.isOk, Except.toBool, isMember_log]
  | ok done =>
      rw [isMember_put]
      by_cases same : wanted = set
      · subst same
        rw [if_pos rfl, removeMember, List.mem_filter]
        simp [Except.isOk, Except.toBool, IsMember]
      · simp [same, isMember_log]

/-! ### Refusals -/

/-- The same failures are switched on, and as far as it matters the same sets exist. -/
structure SameChecks (left right : Memory) : Prop where
  failing : left.failing = right.failing
  failAll : left.failAll = right.failAll
  strict : left.strict = right.strict
  exists_ : right.strict = true → ∀ set, left.sets.contains set = right.sets.contains set

theorem SameChecks.permit (same : SameChecks memory other) (command set : String) (address : Ip) :
    memory.permit command set address = other.permit command set address := by
  unfold Memory.permit injected
  rw [same.failing, same.failAll, same.strict]
  cases strict : other.strict with
  | false => rfl
  | true => rw [same.exists_ strict]

/-- In a strict store an addition is permitted only where the set exists. -/
theorem contains_of_permit {command : String} (strict : memory.strict = true)
    (permitted : memory.permit command set address = .ok ()) :
    memory.sets.contains set = true := by
  cases found : memory.sets.contains set with
  | true => rfl
  | false =>
      unfold Memory.permit at permitted
      rw [strict, found] at permitted
      cases checked : checkName set with
      | error cause =>
          rw [checked] at permitted
          cases permitted
      | ok done =>
          cases injection : memory.injected command (some address) with
          | error cause =>
              rw [checked, injection] at permitted
              cases permitted
          | ok done =>
              rw [checked, injection] at permitted
              cases permitted

theorem SameChecks.add (same : SameChecks memory other) (set : String) (address : Ip) :
    SameChecks (memory.add set address).2 other := by
  rw [add_eq]
  cases permitted : memory.permit "add" set address with
  | error cause => exact ⟨same.failing, same.failAll, same.strict, same.exists_⟩
  | ok done =>
      refine ⟨same.failing, same.failAll, same.strict, ?_⟩
      intro strict wanted
      rw [← same.exists_ strict]
      have found := contains_of_permit (same.strict.trans strict) permitted
      rw [put, SortedMap.contains, SortedMap.find?_put]
      by_cases equal : wanted = set
      · rw [if_pos equal, equal, found]
        rfl
      · rw [if_neg equal]
        rfl

/-- The sets in memory are steady, whatever failures are switched on. -/
theorem steady_memory (memory : Memory) :
    Memory.backend.Steady (SameChecks · memory) IsMember
      fun set address => (memory.permit "add" set address).isOk = false where
  occurs set address _ same := same.add set address
  isOk set address sets same := by
    rw [Bool.not_eq_false, ← same.permit "add", ← isOk_add]
    rfl
  isMember set address sets wanted member same := by
    have added : (sets.add set address).1.isOk = true ↔
        ¬ (memory.permit "add" set address).isOk = false := by
      rw [Bool.not_eq_false, ← same.permit "add", isOk_add]
    rw [← added]
    exact isMember_add

end Memory

end SplitDns.AddressSet
