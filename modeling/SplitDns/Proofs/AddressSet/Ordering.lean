import SplitDns.Proofs.AddressSet.Asking

/-!
# What a call makes of the sets in memory

A call leaves all sets as they are, or it writes the members of one set with a valid name and then
has succeeded. The members of every set stand in the order of addresses, which no two addresses
share a place in, so that a set is the list of its members.
-/

namespace SplitDns.Address

theorem Ipv4.eq_of_toNat_eq {left right : Ipv4} (same : left.toNat = right.toNat) :
    left = right := by
  obtain ⟨a, b, c, d⟩ := left
  obtain ⟨w, x, y, z⟩ := right
  have leftBounds := And.intro b.toNat_lt (And.intro c.toNat_lt d.toNat_lt)
  have rightBounds := And.intro x.toNat_lt (And.intro y.toNat_lt z.toNat_lt)
  simp only [Ipv4.toNat] at same
  rw [Ipv4.mk.injEq, ← UInt8.toNat_inj, ← UInt8.toNat_inj, ← UInt8.toNat_inj, ← UInt8.toNat_inj]
  omega

theorem Ipv4.toNat_lt (address : Ipv4) : address.toNat < 0x100000000 := by
  have a := address.a.toNat_lt
  have b := address.b.toNat_lt
  have c := address.c.toNat_lt
  have d := address.d.toNat_lt
  simp only [Ipv4.toNat]
  omega

/-- Groups are the digits of their number. -/
theorem Ipv6.eq_of_foldl_eq {groups others : List UInt16} {first second : Nat}
    (length : groups.length = others.length)
    (same : groups.foldl (fun value group => value * 65536 + group.toNat) first =
      others.foldl (fun value group => value * 65536 + group.toNat) second) :
    first = second ∧ groups = others := by
  induction groups generalizing others first second with
  | nil =>
      cases others with
      | nil => exact ⟨same, rfl⟩
      | cons => cases length
  | cons group rest inductionHypothesis =>
      cases others with
      | nil => cases length
      | cons other restOther =>
          obtain ⟨front, equal⟩ := inductionHypothesis (Nat.succ.inj length) same
          have joined : first * 65536 + group.toNat = second * 65536 + other.toNat := front
          have bound := group.toNat_lt
          have otherBound := other.toNat_lt
          have digit : group.toNat = other.toNat := by omega
          exact ⟨by omega, by rw [UInt16.toNat_inj.mp digit, equal]⟩

theorem Ipv6.eq_of_toNat_eq {left right : Ipv6} (same : left.toNat = right.toNat) :
    left = right := by
  obtain ⟨groups, length⟩ := left
  obtain ⟨others, otherLength⟩ := right
  rw [Ipv6.mk.injEq]
  exact (Ipv6.eq_of_foldl_eq (length.trans otherLength.symm) same).2

/-- No two addresses share a place in the order. -/
theorem Ip.eq_of_sortKey_eq {left right : Ip} (same : left.sortKey = right.sortKey) :
    left = right := by
  cases left with
  | v4 address =>
      cases right with
      | v4 other => rw [Ipv4.eq_of_toNat_eq same]
      | v6 other =>
          have bound := address.toNat_lt
          simp only [Ip.sortKey] at same
          omega
  | v6 address =>
      cases right with
      | v4 other =>
          have bound := other.toNat_lt
          simp only [Ip.sortKey] at same
          omega
      | v6 other => rw [Ipv6.eq_of_toNat_eq (Nat.add_left_cancel same)]

end SplitDns.Address

namespace SplitDns.AddressSet

open SplitDns.Address

/-! ### Members in order -/

/-- Each address stands once, and before all that are greater. -/
def InOrder (addresses : List Ip) : Prop :=
  addresses.Pairwise fun left right => left.sortKey < right.sortKey

variable {addresses : List Ip} {sets next : Sets} {succeeded : Bool}

theorem inOrder_nil : InOrder [] :=
  List.Pairwise.nil

theorem InOrder.insertMember (ordered : InOrder addresses) (address : Ip) :
    InOrder (insertMember address addresses) := by
  induction addresses with
  | nil => exact List.pairwise_singleton _ address
  | cons member rest inductionHypothesis =>
      obtain ⟨before, restOrdered⟩ := List.pairwise_cons.mp ordered
      unfold AddressSet.insertMember
      split
      next => exact ordered
      next different =>
        split
        next less =>
          refine List.pairwise_cons.mpr ⟨fun other found => ?_, ordered⟩
          rcases List.mem_cons.mp found with rfl | later
          · exact less
          · exact Nat.lt_trans less (before other later)
        next notLess =>
          have apart : member.sortKey ≠ address.sortKey :=
            fun same => different (Ip.eq_of_sortKey_eq same).symm
          refine List.pairwise_cons.mpr ⟨fun other found => ?_, inductionHypothesis restOrdered⟩
          rcases mem_insertMember.mp found with rfl | later
          · omega
          · exact before other later

theorem InOrder.removeMember (ordered : InOrder addresses) (address : Ip) :
    InOrder (removeMember address addresses) :=
  ordered.filter _

/-- An address that is greater than all members comes last. -/
theorem insertMember_of_last {address : Ip}
    (last : ∀ member ∈ addresses, member.sortKey < address.sortKey) :
    insertMember address addresses = addresses ++ [address] := by
  induction addresses with
  | nil => rfl
  | cons member rest inductionHypothesis =>
      have greater := last member List.mem_cons_self
      have different : address ≠ member := by
        rintro rfl
        exact Nat.lt_irrefl _ greater
      rw [insertMember, if_neg different, if_neg (Nat.lt_asymm greater),
        inductionHypothesis fun other found => last other (List.mem_cons_of_mem member found)]
      rfl

/-! ### Calls -/

/-- What a call makes of the sets, with whether it succeeds. -/
inductive Makes (sets : Sets) : Bool → Sets → Prop where
  | nothing (succeeded : Bool) : Makes sets succeeded sets
  | created {set : String} (valid : isValidName set = true) : Makes sets true (sets.put set [])
  | added {set : String} (valid : isValidName set = true) (address : Ip) :
      Makes sets true (sets.put set (insertMember address (members sets set)))
  | removed {set : String} (valid : isValidName set = true) (address : Ip) :
      Makes sets true (sets.put set (removeMember address (members sets set)))
  | tested {set : String} (valid : isValidName set = true) :
      Makes sets true (sets.put set (members sets set))

/-- The members of every set stand in order. -/
def AllInOrder (sets : Sets) : Prop :=
  ∀ set addresses, sets.find? set = some addresses → InOrder addresses

theorem AllInOrder.members (ordered : AllInOrder sets) (set : String) :
    InOrder (members sets set) := by
  rw [AddressSet.members]
  cases found : sets.find? set with
  | none => exact inOrder_nil
  | some addresses => exact ordered set addresses found

theorem AllInOrder.put (ordered : AllInOrder sets) (set : String) (here : InOrder addresses) :
    AllInOrder (sets.put set addresses) := by
  intro other found there
  rw [SortedMap.find?_put] at there
  split at there
  · cases there
    exact here
  · exact ordered other found there

theorem Makes.allInOrder (makes : Makes sets succeeded next) (ordered : AllInOrder sets) :
    AllInOrder next := by
  cases makes with
  | nothing => exact ordered
  | created => exact ordered.put _ inOrder_nil
  | added _ address => exact ordered.put _ ((ordered.members _).insertMember address)
  | removed _ address => exact ordered.put _ ((ordered.members _).removeMember address)
  | tested => exact ordered.put _ (ordered.members _)

theorem Makes.eq_of_failed (makes : Makes sets false next) : next = sets := by
  cases makes
  rfl

namespace Memory

variable {memory : Memory}

theorem makes_perform (memory : Memory) (call : Call) :
    Makes memory.sets (backend.perform call memory).1.isOk
      (backend.perform call memory).2.sets := by
  cases call with
  | create set =>
      change Makes memory.sets ((memory.create set).1.map _).isOk (memory.create set).2.sets
      unfold Memory.create
      simp only
      split
      next => exact .nothing _
      next => exact .nothing _
      next checked _ =>
        split
        · exact .nothing _
        · exact .created (isValidName_of_checkName checked)
  | add set address =>
      change Makes memory.sets ((memory.add set address).1.map _).isOk
        (memory.add set address).2.sets
      rw [add_eq]
      cases permitted : memory.permit "add" set address with
      | error cause => exact .nothing _
      | ok done => exact .added (isValidName_of_permit permitted) address
  | remove set address =>
      change Makes memory.sets ((memory.remove set address).1.map _).isOk
        (memory.remove set address).2.sets
      rw [remove_eq]
      cases permitted : memory.permit "del" set address with
      | error cause => exact .nothing _
      | ok done => exact .removed (isValidName_of_permit permitted) address
  | test set address =>
      change Makes memory.sets ((memory.test set address).1.map _).isOk
        (memory.test set address).2.sets
      rw [test_eq]
      cases permitted : memory.permit "test" set address with
      | error cause => exact .nothing _
      | ok done => exact .tested (isValidName_of_permit permitted)
  | save => exact .nothing _

/-- A call that fails changes no set. -/
theorem sets_of_failed {call : Call} {cause : Error}
    (failed : (backend.perform call memory).1 = .error cause) :
    (backend.perform call memory).2.sets = memory.sets := by
  have makes := makes_perform memory call
  rw [failed] at makes
  exact makes.eq_of_failed

/-! ### Histories -/

/-- What happens to the sets: a call, or failures are switched on or off. -/
inductive Step where
  | call (call : Call)
  | failOn (address : Ip)
  | setFailing (fail : Bool)

def step (memory : Memory) : Step → Memory
  | .call call => (backend.perform call memory).2
  | .failOn address => memory.failOn address
  | .setFailing fail => memory.setFailing fail

/-- The sets after a history. -/
def after (memory : Memory) (steps : List Step) : Memory :=
  steps.foldl step memory

/-- The sets have valid names, and members in order. -/
structure IsRegular (memory : Memory) : Prop where
  validNames : memory.HasValidNames
  inOrder : AllInOrder memory.sets

theorem isRegular_new (strict : Bool) : (new strict).IsRegular where
  validNames := hasValidNames_new strict
  inOrder := by
    intro set addresses found
    cases found

theorem IsRegular.step (regular : memory.IsRegular) (step : Step) :
    (memory.step step).IsRegular := by
  cases step with
  | call call =>
      exact ⟨regular.validNames.perform call,
        (makes_perform memory call).allInOrder regular.inOrder⟩
  | failOn address => exact ⟨regular.validNames, regular.inOrder⟩
  | setFailing fail => exact ⟨regular.validNames, regular.inOrder⟩

theorem IsRegular.after (regular : memory.IsRegular) (steps : List Step) :
    (memory.after steps).IsRegular := by
  induction steps generalizing memory with
  | nil => exact regular
  | cons step rest inductionHypothesis => exact inductionHypothesis (regular.step step)

end Memory

end SplitDns.AddressSet
