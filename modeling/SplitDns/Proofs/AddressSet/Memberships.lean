import Mathlib.Data.Finset.Card
import SplitDns.Proofs.AddressSet.Members
import SplitDns.Proofs.Outcome

/-!
# Counting members

The memberships in the sets in memory are finitely many. Where some sets only grow and all others
only shrink, the memberships that are gone at the end are those that went on the way, so that they
can be counted one operation at a time.
-/

namespace SplitDns.AddressSet.Memory

open SplitDns.Address

variable {memory before middle after : Memory} {set : String} {address : Ip}

/-! ### Failures -/

/-- Every operation on the address fails. -/
def Fails (memory : Memory) (address : Ip) : Prop :=
  memory.failAll = true ∨ address ∈ memory.failing

instance (memory : Memory) (address : Ip) : Decidable (memory.Fails address) :=
  inferInstanceAs (Decidable (_ ∨ _))

theorem injected_eq (memory : Memory) (command : String) (address : Ip) :
    memory.injected command (some address) =
      if memory.Fails address then .error (.commandFailed command (.code 1) "injected failure")
      else .ok () := by
  have same : (memory.failAll || (some address).any memory.failing.contains) = true ↔
      memory.Fails address := by
    simp [Fails]
  rw [injected]
  by_cases fails : memory.Fails address
  · rw [if_pos fails, if_pos (same.mpr fails)]
  · rw [if_neg fails, if_neg (mt same.mp fails)]

/-- Where sets need not be created, nothing but a failure stands in the way. -/
theorem isOk_permit_iff (lenient : memory.strict = false) (valid : isValidName set = true)
    (command : String) (address : Ip) :
    (memory.permit command set address).isOk = true ↔ ¬ memory.Fails address := by
  have named : checkName set = .ok () := if_pos valid
  rw [Memory.permit, named, injected_eq, lenient]
  by_cases fails : memory.Fails address
  · rw [if_pos fails]
    exact ⟨nofun, fun passes => absurd fails passes⟩
  · rw [if_neg fails]
    exact ⟨fun _ => fails, fun _ => rfl⟩

/-- The same failures are switched on, and sets need to be created or not. -/
structure SameSwitches (before after : Memory) : Prop where
  failing : after.failing = before.failing
  failAll : after.failAll = before.failAll
  strict : after.strict = before.strict

theorem SameSwitches.refl (memory : Memory) : SameSwitches memory memory :=
  ⟨rfl, rfl, rfl⟩

theorem SameSwitches.trans (first : SameSwitches before middle)
    (second : SameSwitches middle after) : SameSwitches before after :=
  ⟨second.failing.trans first.failing, second.failAll.trans first.failAll,
    second.strict.trans first.strict⟩

theorem SameSwitches.fails_iff (same : SameSwitches before after) (address : Ip) :
    after.Fails address ↔ before.Fails address := by
  rw [Fails, Fails, same.failing, same.failAll]

theorem sameSwitches_add (memory : Memory) (set : String) (address : Ip) :
    SameSwitches memory (memory.add set address).2 := by
  rw [add_eq]
  cases memory.permit "add" set address <;> exact ⟨rfl, rfl, rfl⟩

theorem sameSwitches_remove (memory : Memory) (set : String) (address : Ip) :
    SameSwitches memory (memory.remove set address).2 := by
  rw [remove_eq]
  cases memory.permit "del" set address <;> exact ⟨rfl, rfl, rfl⟩

theorem isOk_remove (memory : Memory) (set : String) (address : Ip) :
    (memory.remove set address).1.isOk = (memory.permit "del" set address).isOk := by
  rw [remove_eq]
  cases memory.permit "del" set address <;> rfl

theorem isOk_add_iff (lenient : memory.strict = false) (valid : isValidName set = true) :
    (memory.add set address).1.isOk = true ↔ ¬ memory.Fails address := by
  rw [isOk_add]
  exact isOk_permit_iff lenient valid "add" address

theorem isOk_remove_iff (lenient : memory.strict = false) (valid : isValidName set = true) :
    (memory.remove set address).1.isOk = true ↔ ¬ memory.Fails address := by
  rw [isOk_remove]
  exact isOk_permit_iff lenient valid "del" address

/-- A removal tells whether the address was a member. -/
theorem remove_eq_true_iff : (memory.remove set address).1 = .ok true ↔
    (memory.remove set address).1.isOk = true ∧ memory.IsMember set address := by
  rw [remove_eq]
  cases memory.permit "del" set address with
  | error cause => simp [Except.isOk, Except.toBool]
  | ok done =>
      rw [Except.ok.injEq, List.contains_iff_mem]
      simp [Except.isOk, Except.toBool, IsMember]

/-! ### Memberships -/

/-- The pairs of a set and one of its members. -/
def memberships (memory : Memory) : Finset (String × Ip) :=
  (memory.sets.pairs.flatMap fun pair => pair.2.map fun member => (pair.1, member)).toFinset

theorem mem_memberships : (set, address) ∈ memory.memberships ↔ memory.IsMember set address := by
  have listed : (set, address) ∈ memory.memberships ↔
      ∃ pair ∈ memory.sets.pairs, pair.1 = set ∧ address ∈ pair.2 := by
    simp only [memberships, List.mem_toFinset, List.mem_flatMap, List.mem_map, Prod.mk.injEq]
    grind
  rw [listed, IsMember, members]
  constructor
  · rintro ⟨⟨_, list⟩, found, rfl, inList⟩
    rw [SortedMap.find?_eq_some_iff.mpr found]
    exact inList
  · intro member
    cases found : memory.sets.find? set with
    | none => simp [found] at member
    | some list =>
        rw [found] at member
        exact ⟨(set, list), SortedMap.find?_eq_some_iff.mp found, rfl, member⟩

/-- The memberships that are there before and not after. -/
def departed (before after : Memory) : Finset (String × Ip) :=
  before.memberships \ after.memberships

theorem mem_departed : (set, address) ∈ departed before after ↔
    before.IsMember set address ∧ ¬ after.IsMember set address := by
  rw [departed, Finset.mem_sdiff, mem_memberships, mem_memberships]

@[simp]
theorem departed_self (memory : Memory) : departed memory memory = ∅ :=
  Finset.sdiff_self _

/-- Some sets lose no member, and the others gain none. -/
structure Shifts (Grows : String → Prop) (before after : Memory) : Prop where
  grows : ∀ set address, Grows set → before.IsMember set address → after.IsMember set address
  shrinks : ∀ set address, ¬ Grows set → after.IsMember set address → before.IsMember set address

namespace Shifts

variable {Grows : String → Prop}

theorem refl (memory : Memory) : Shifts Grows memory memory :=
  ⟨fun _ _ _ member => member, fun _ _ _ member => member⟩

theorem trans (first : Shifts Grows before middle) (second : Shifts Grows middle after) :
    Shifts Grows before after where
  grows set address grows member :=
    second.grows set address grows (first.grows set address grows member)
  shrinks set address shrinks member :=
    first.shrinks set address shrinks (second.shrinks set address shrinks member)

/-- What is gone at the end went in one of two parts, and not in both. -/
theorem card_departed (first : Shifts Grows before middle) (second : Shifts Grows middle after) :
    (departed before after).card =
      (departed before middle).card + (departed middle after).card := by
  have apart : Disjoint (departed before middle) (departed middle after) := by
    apply Finset.disjoint_left.mpr
    rintro ⟨set, address⟩ early late
    exact (mem_departed.mp early).2 (mem_departed.mp late).1
  rw [← Finset.card_union_of_disjoint apart]
  congr 1
  ext ⟨set, address⟩
  rw [Finset.mem_union, mem_departed, mem_departed, mem_departed]
  have firstGrows := first.grows set address
  have firstShrinks := first.shrinks set address
  have secondGrows := second.grows set address
  have secondShrinks := second.shrinks set address
  by_cases grows : Grows set
  · grind
  · grind

end Shifts

theorem shifts_add {Grows : String → Prop} (grows : Grows set) (memory : Memory) (address : Ip) :
    Shifts Grows memory (memory.add set address).2 where
  grows other member _ old := isMember_add.mpr (.inl old)
  shrinks other member shrinks new := by
    rcases isMember_add.mp new with old | ⟨_, rfl, _⟩
    · exact old
    · exact absurd grows shrinks

theorem shifts_remove {Grows : String → Prop} (shrinks : ¬ Grows set) (memory : Memory)
    (address : Ip) : Shifts Grows memory (memory.remove set address).2 where
  grows other member grows old := by
    refine isMember_remove.mpr ⟨old, ?_⟩
    rintro ⟨_, rfl, _⟩
    exact shrinks grows
  shrinks other member _ left := (isMember_remove.mp left).1

theorem departed_add (memory : Memory) (set : String) (address : Ip) :
    departed memory (memory.add set address).2 = ∅ := by
  apply Finset.eq_empty_of_forall_notMem
  rintro ⟨other, member⟩ gone
  obtain ⟨old, absent⟩ := mem_departed.mp gone
  exact absent (isMember_add.mpr (.inl old))

theorem card_departed_remove (memory : Memory) (set : String) (address : Ip) :
    (departed memory (memory.remove set address).2).card =
      if (memory.remove set address).1 = .ok true then 1 else 0 := by
  by_cases removed : (memory.remove set address).1 = .ok true
  · obtain ⟨ok, old⟩ := remove_eq_true_iff.mp removed
    have only : departed memory (memory.remove set address).2 = {(set, address)} := by
      ext ⟨other, member⟩
      rw [mem_departed, isMember_remove, Finset.mem_singleton, Prod.mk.injEq]
      grind
    rw [if_pos removed, only, Finset.card_singleton]
  · have none : departed memory (memory.remove set address).2 = ∅ := by
      apply Finset.eq_empty_of_forall_notMem
      rintro ⟨other, member⟩ gone
      obtain ⟨old, absent⟩ := mem_departed.mp gone
      rw [isMember_remove] at absent
      rw [remove_eq_true_iff] at removed
      grind
    rw [if_neg removed, none, Finset.card_empty]

end SplitDns.AddressSet.Memory
