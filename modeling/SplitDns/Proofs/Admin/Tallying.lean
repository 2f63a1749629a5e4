import SplitDns.Proofs.AddressSet.Memberships
import SplitDns.Proofs.Admin.Failing
import SplitDns.Proofs.Admin.Reconciling
import SplitDns.Proofs.Config.Accepting

/-!
# What an edit counts

An edit treats the recorded addresses one after another, and some of them may fail. What it counts
is what became of the sets: the removals are the memberships that are gone, an addition is counted
for every text whose address passes, and a failure for every operation on one that does not.
-/

namespace SplitDns.Admin

open SplitDns.Address
open SplitDns.AddressSet
open SplitDns.AddressSet.Memory (SameSwitches Shifts departed)

/-! ### Single operations -/

section Single

variable {Sets : Type} (backend : Backend Sets) (set : String) (address : Ip) (tally : Tally)
  (sets : Sets)

theorem added_addMember : (addMember backend set address tally sets).1.added =
    tally.added + (if (backend.add set address sets).1.isOk then 1 else 0) := by
  unfold addMember
  obtain ⟨_ | _, _⟩ := backend.add set address sets <;> rfl

theorem removed_addMember :
    (addMember backend set address tally sets).1.removed = tally.removed := by
  unfold addMember
  obtain ⟨_ | _, _⟩ := backend.add set address sets <;> rfl

theorem added_removeMember :
    (removeMember backend set address tally sets).1.added = tally.added := by
  unfold removeMember
  obtain ⟨_ | _ | _, _⟩ := backend.remove set address sets <;> rfl

theorem removed_removeMember : (removeMember backend set address tally sets).1.removed =
    tally.removed + (if (backend.remove set address sets).1 = .ok true then 1 else 0) := by
  unfold removeMember
  obtain ⟨_ | _ | _, _⟩ := backend.remove set address sets <;> simp

end Single

variable {memory final : Memory} {tally : Tally} {address : Ip} {target : String}
  {others texts : List String} {treat following : Ip → Tally → Memory → Tally × Memory}

/-! ### Removals -/

/-- The removals that were counted are the memberships that are gone. -/
structure Accounted (Grows : String → Prop) (before after : Tally × Memory) : Prop where
  shifts : Shifts Grows before.2 after.2
  removed : after.1.removed = before.1.removed + (departed before.2 after.2).card

section Accounted

variable {Grows : String → Prop} {before middle after : Tally × Memory}

theorem Accounted.trans (first : Accounted Grows before middle)
    (second : Accounted Grows middle after) : Accounted Grows before after where
  shifts := first.shifts.trans second.shifts
  removed := by
    rw [second.removed, first.removed, first.shifts.card_departed second.shifts, Nat.add_assoc]

theorem accounted_of_eq (sameSets : after.2 = before.2)
    (sameCount : after.1.removed = before.1.removed) : Accounted Grows before after where
  shifts := by
    rw [sameSets]
    exact .refl before.2
  removed := by
    rw [sameSets, sameCount, Memory.departed_self, Finset.card_empty, Nat.add_zero]

theorem accounted_addMember (grows : Grows target) :
    Accounted Grows (tally, memory) (addMember Memory.backend target address tally memory) where
  shifts := by
    rw [sets_addMember]
    exact Memory.shifts_add grows memory address
  removed := by
    rw [removed_addMember, sets_addMember]
    have none : departed memory (Memory.backend.add target address memory).2 = ∅ :=
      Memory.departed_add memory target address
    rw [none, Finset.card_empty, Nat.add_zero]

theorem accounted_removeMember (shrinks : ¬ Grows target) :
    Accounted Grows (tally, memory) (removeMember Memory.backend target address tally memory) where
  shifts := by
    rw [sets_removeMember]
    exact Memory.shifts_remove shrinks memory address
  removed := by
    rw [removed_removeMember, sets_removeMember]
    exact congrArg (tally.removed + ·) (Memory.card_departed_remove memory target address).symm

theorem accounted_removeMembers (shrink : ∀ set ∈ others, ¬ Grows set) :
    Accounted Grows (tally, memory) (removeMembers Memory.backend others address tally memory) := by
  induction others generalizing tally memory with
  | nil => exact accounted_of_eq rfl rfl
  | cons first rest inductionHypothesis =>
      apply (accounted_removeMember (shrink first List.mem_cons_self)).trans
      exact inductionHypothesis fun set found => shrink set (List.mem_cons_of_mem _ found)

theorem accounted_moveMember (grows : Grows target) (shrink : ∀ set ∈ others, ¬ Grows set) :
    Accounted Grows (tally, memory)
      (moveMember Memory.backend target others address tally memory) :=
  (accounted_addMember grows).trans (accounted_removeMembers shrink)

theorem accounted_foldl
    (each : ∀ address tally memory, Accounted Grows (tally, memory) (treat address tally memory))
    (texts : List String) (state : Tally × Memory) :
    Accounted Grows state (texts.foldl (treatText treat) state) := by
  induction texts generalizing state with
  | nil => exact accounted_of_eq rfl rfl
  | cons text rest inductionHypothesis =>
      have first : Accounted Grows state (treatText treat state text) := by
        unfold treatText
        split
        · exact each _ state.1 state.2
        · exact accounted_of_eq rfl rfl
      exact first.trans (inductionHypothesis _)

end Accounted

/-! ### Additions and failures -/

/-- What is counted for an address that passes, and for one that fails and is left alone. -/
structure Costs (treat : Ip → Tally → Memory → Tally × Memory) (gain cost : Nat) : Prop where
  switches : ∀ address tally memory, SameSwitches memory (treat address tally memory).2
  passing : ∀ address tally memory, memory.strict = false → ¬ memory.Fails address →
    (treat address tally memory).1.added = tally.added + gain ∧
      (treat address tally memory).1.failed = tally.failed
  failing : ∀ address tally memory, memory.strict = false → memory.Fails address →
    (treat address tally memory).1.added = tally.added ∧
      (treat address tally memory).1.failed = tally.failed + cost ∧
      ∀ set member, (treat address tally memory).2.IsMember set member ↔
        memory.IsMember set member

variable {gain moreGain cost moreCost : Nat}

theorem costs_addMember (valid : isValidName target = true) :
    Costs (addMember Memory.backend target) 1 1 where
  switches address tally memory := by
    rw [sets_addMember]
    exact Memory.sameSwitches_add memory target address
  passing address tally memory lenient passes := by
    have ok : (Memory.backend.add target address memory).1.isOk = true :=
      (Memory.isOk_add_iff lenient valid).mpr passes
    rw [added_addMember, failed_addMember, if_pos ok, if_pos ok]
    exact ⟨rfl, rfl⟩
  failing address tally memory lenient fails := by
    have refused : ¬ (Memory.backend.add target address memory).1.isOk = true :=
      fun ok => (Memory.isOk_add_iff lenient valid).mp ok fails
    rw [added_addMember, failed_addMember, sets_addMember, if_neg refused, if_neg refused]
    refine ⟨rfl, rfl, ?_⟩
    intro set member
    refine Memory.isMember_add.trans (or_iff_left ?_)
    exact fun added => refused added.1

theorem costs_removeMember (valid : isValidName target = true) :
    Costs (removeMember Memory.backend target) 0 1 where
  switches address tally memory := by
    rw [sets_removeMember]
    exact Memory.sameSwitches_remove memory target address
  passing address tally memory lenient passes := by
    have ok : (Memory.backend.remove target address memory).1.isOk = true :=
      (Memory.isOk_remove_iff lenient valid).mpr passes
    rw [added_removeMember, failed_removeMember, if_pos ok]
    exact ⟨rfl, rfl⟩
  failing address tally memory lenient fails := by
    have refused : ¬ (Memory.backend.remove target address memory).1.isOk = true :=
      fun ok => (Memory.isOk_remove_iff lenient valid).mp ok fails
    rw [added_removeMember, failed_removeMember, sets_removeMember, if_neg refused]
    refine ⟨rfl, rfl, ?_⟩
    intro set member
    refine Memory.isMember_remove.trans (and_iff_left ?_)
    exact fun removed => refused removed.1

theorem Costs.andThen (first : Costs treat gain cost) (second : Costs following moreGain moreCost) :
    Costs
      (fun address tally memory =>
        following address (treat address tally memory).1 (treat address tally memory).2)
      (gain + moreGain) (cost + moreCost) where
  switches address tally memory :=
    (first.switches address tally memory).trans (second.switches address _ _)
  passing address tally memory lenient passes := by
    have same := first.switches address tally memory
    have lenientStill := same.strict.trans lenient
    have passesStill := mt (same.fails_iff address).mp passes
    obtain ⟨added, failed⟩ := first.passing address tally memory lenient passes
    obtain ⟨moreAdded, moreFailed⟩ := second.passing address (treat address tally memory).1
      (treat address tally memory).2 lenientStill passesStill
    rw [moreAdded, added, moreFailed, failed]
    exact ⟨Nat.add_assoc _ _ _, rfl⟩
  failing address tally memory lenient fails := by
    have same := first.switches address tally memory
    have lenientStill := same.strict.trans lenient
    have failsStill := (same.fails_iff address).mpr fails
    obtain ⟨added, failed, kept⟩ := first.failing address tally memory lenient fails
    obtain ⟨moreAdded, moreFailed, moreKept⟩ := second.failing address
      (treat address tally memory).1 (treat address tally memory).2 lenientStill failsStill
    rw [moreAdded, added, moreFailed, failed]
    exact ⟨rfl, Nat.add_assoc _ _ _,
      fun set member => (moreKept set member).trans (kept set member)⟩

theorem costs_removeMembers (valid : ∀ set ∈ others, isValidName set = true) :
    Costs (removeMembers Memory.backend others) 0 others.length := by
  induction others with
  | nil =>
      exact ⟨fun _ _ memory => .refl memory, fun _ _ _ _ _ => ⟨rfl, rfl⟩,
        fun _ _ _ _ _ => ⟨rfl, rfl, fun _ _ => Iff.rfl⟩⟩
  | cons first rest inductionHypothesis =>
      have others := inductionHypothesis fun set found => valid set (List.mem_cons_of_mem _ found)
      have both := (costs_removeMember (valid first List.mem_cons_self)).andThen others
      rw [Nat.add_comm 1] at both
      exact both

theorem costs_moveMember (valid : isValidName target = true)
    (othersValid : ∀ set ∈ others, isValidName set = true) :
    Costs (moveMember Memory.backend target others) 1 (others.length + 1) := by
  have both := (costs_addMember valid).andThen (costs_removeMembers othersValid)
  rw [Nat.add_comm 1 others.length] at both
  exact both

/-! ### All texts -/

/-- The text is no address. -/
def isUnreadable (text : String) : Bool :=
  (Ip.parse? text.toList).isNone

/-- The text is an address that passes. -/
def passes (memory : Memory) (text : String) : Bool :=
  (Ip.parse? text.toList).any fun address => !decide (memory.Fails address)

/-- The text is an address that fails. -/
def fails (memory : Memory) (text : String) : Bool :=
  (Ip.parse? text.toList).any fun address => decide (memory.Fails address)

/--
The texts are done with: addresses that pass have joined some sets and left others, everything else
is as it was, and all texts are counted.
-/
structure Handled (Puts Takes : String → Prop) (gain cost : Nat) (texts : List String)
    (before after : Tally × Memory) : Prop where
  switches : SameSwitches before.2 after.2
  added : after.1.added = before.1.added + gain * texts.countP (passes before.2)
  failed : after.1.failed = before.1.failed + texts.countP isUnreadable +
    cost * texts.countP (fails before.2)
  reached : ∀ set member, Names texts member → ¬ before.2.Fails member →
    (after.2.IsMember set member ↔ Puts set ∨ ¬ Takes set ∧ before.2.IsMember set member)
  kept : ∀ set member, ¬ (Names texts member ∧ ¬ before.2.Fails member) →
    (after.2.IsMember set member ↔ before.2.IsMember set member)

variable {Puts Takes : String → Prop}

theorem handled_nil (state : Tally × Memory) :
    Handled Puts Takes gain cost [] state state where
  switches := .refl state.2
  added := rfl
  failed := rfl
  reached := by
    rintro set member ⟨text, found, _⟩
    cases found
  kept set member _ := Iff.rfl

theorem Handled.append {front back : List String} {before middle after : Tally × Memory}
    (first : Handled Puts Takes gain cost front before middle)
    (second : Handled Puts Takes gain cost back middle after) :
    Handled Puts Takes gain cost (front ++ back) before after := by
  have same := first.switches.fails_iff
  have samePasses : passes middle.2 = passes before.2 := by
    funext text
    simp only [passes, same]
  have sameFails : fails middle.2 = fails before.2 := by
    funext text
    simp only [fails, same]
  have names (member : Ip) : Names (front ++ back) member ↔
      Names front member ∨ Names back member := by
    simp only [Names, List.mem_append, or_and_right, exists_or]
  constructor
  case switches => exact first.switches.trans second.switches
  case added =>
    rw [second.added, first.added, samePasses, List.countP_append, Nat.mul_add, Nat.add_assoc]
  case failed =>
    rw [second.failed, first.failed, sameFails, List.countP_append, List.countP_append,
      Nat.mul_add]
    omega
  case reached =>
    intro set member named passing
    have passingStill := mt (same member).mp passing
    by_cases inBack : Names back member
    · rw [second.reached set member inBack passingStill]
      by_cases inFront : Names front member
      · rw [first.reached set member inFront passing]
        grind
      · rw [first.kept set member (fun both => inFront both.1)]
    · have inFront := ((names member).mp named).resolve_right inBack
      rw [second.kept set member (fun both => inBack both.1),
        first.reached set member inFront passing]
  case kept =>
    intro set member unreached
    rw [names] at unreached
    rw [second.kept set member, first.kept set member]
    · exact fun both => unreached ⟨.inl both.1, both.2⟩
    · exact fun both => unreached ⟨.inr both.1, mt (same member).mpr both.2⟩

theorem handled_treatText (settles : Settles treat Puts Takes) (costs : Costs treat gain cost)
    {state : Tally × Memory} (lenient : state.2.strict = false) (text : String) :
    Handled Puts Takes gain cost [text] state (treatText treat state text) := by
  have names (member : Ip) : Names [text] member ↔ Ip.parse? text.toList = some member := by
    simp [Names]
  cases parsed : Ip.parse? text.toList with
  | none =>
      have skipped : treatText treat state text =
          ({ state.1 with failed := state.1.failed + 1 }, state.2) := by
        simp only [treatText, parsed]
      rw [skipped]
      constructor
      case switches => exact .refl state.2
      case added => simp [passes, parsed]
      case failed => simp [fails, isUnreadable, parsed]
      case reached =>
        intro set member named
        rw [names, parsed] at named
        cases named
      case kept => exact fun _ _ _ => Iff.rfl
  | some address =>
      have treated : treatText treat state text = treat address state.1 state.2 := by
        simp only [treatText, parsed]
      have named (member : Ip) : Names [text] member ↔ member = address := by
        rw [names, parsed, Option.some_inj, eq_comm]
      rw [treated]
      by_cases failing : state.2.Fails address
      · obtain ⟨added, failed, kept⟩ := costs.failing address state.1 state.2 lenient failing
        constructor
        case switches => exact costs.switches address state.1 state.2
        case added => simp [added, passes, parsed, failing]
        case failed => simp [failed, fails, isUnreadable, parsed, failing]
        case reached =>
          intro set member isNamed passing
          rw [(named member).mp isNamed] at passing
          exact absurd failing passing
        case kept => exact fun set member _ => kept set member
      · obtain ⟨added, failed⟩ := costs.passing address state.1 state.2 lenient failing
        have settled := settles.isMember address state.1 state.2 failed
        constructor
        case switches => exact costs.switches address state.1 state.2
        case added => simp [added, passes, parsed, failing]
        case failed => simp [failed, fails, isUnreadable, parsed, failing]
        case reached =>
          intro set member isNamed _
          rw [settled, if_pos ((named member).mp isNamed)]
        case kept =>
          intro set member unreached
          have other : member ≠ address := by
            rintro rfl
            exact unreached ⟨(named member).mpr rfl, failing⟩
          rw [settled, if_neg other]

theorem handled_foldl (settles : Settles treat Puts Takes) (costs : Costs treat gain cost)
    {state : Tally × Memory} (lenient : state.2.strict = false) (texts : List String) :
    Handled Puts Takes gain cost texts state (texts.foldl (treatText treat) state) := by
  induction texts generalizing state with
  | nil => exact handled_nil state
  | cons text rest inductionHypothesis =>
      have first := handled_treatText settles costs lenient text
      exact first.append (inductionHypothesis (first.switches.strict.trans lenient))

end SplitDns.Admin
