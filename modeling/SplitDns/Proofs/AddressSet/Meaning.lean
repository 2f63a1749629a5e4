import Mathlib.Order.BooleanAlgebra.Set
import SplitDns.Proofs.AddressSet.Calls
import SplitDns.Proofs.AddressSet.Members

/-!
# What calls mean

What becomes of a call on named sets is said once, without a backend. Backends that do what calls
mean give the same results call by call and hold the same sets all the time. The strict store in
memory is one of them.
-/

namespace SplitDns.AddressSet

open SplitDns.Address

variable {State Other : Type}

/-! ### What calls mean -/

/-- Named sets as they are: `none` for a set that does not exist. -/
abbrev Contents := String → Option (Set Ip)

def Contents.put (contents : Contents) (set : String) (members : Set Ip) : Contents :=
  fun other => if other = set then some members else contents other

theorem Contents.put_self {contents : Contents} {set : String} {members : Set Ip}
    (found : contents set = some members) : contents.put set members = contents := by
  funext other
  unfold Contents.put
  split
  next same => rw [same, found]
  next => rfl

namespace Call

/-- The set that a call is about; a dump is about none of them. -/
def set : Call → String
  | .create set | .add set _ | .remove set _ | .test set _ => set
  | .save => ""

/-- The call creates a set, or is about an IPv4 address in a set. -/
def IsPlain : Call → Prop
  | .create _ => True
  | .add _ address | .remove _ address | .test _ address => address.isV6 = false
  | .save => False

end Call

/-- What becomes of a call. -/
inductive Verdict where
  | done
  /-- The set exists and the address is no member of it. -/
  | notMember
  | setMissing

/-- What becomes of a call on named sets, and the sets after it. -/
inductive Answers (contents : Contents) : Call → Verdict → Contents → Prop where
  | create (set : String) :
      Answers contents (.create set) .done (contents.put set ((contents set).getD ∅))
  | add {set : String} {members : Set Ip} (address : Ip) (found : contents set = some members) :
      Answers contents (.add set address) .done (contents.put set (insert address members))
  | remove {set : String} {members : Set Ip} {address : Ip} (found : contents set = some members)
      (member : address ∈ members) :
      Answers contents (.remove set address) .done (contents.put set (members \ {address}))
  | removeOther {set : String} {members : Set Ip} {address : Ip}
      (found : contents set = some members) (other : address ∉ members) :
      Answers contents (.remove set address) .notMember contents
  | test {set : String} {members : Set Ip} {address : Ip} (found : contents set = some members)
      (member : address ∈ members) :
      Answers contents (.test set address) .done contents
  | testOther {set : String} {members : Set Ip} {address : Ip}
      (found : contents set = some members) (other : address ∉ members) :
      Answers contents (.test set address) .notMember contents
  | missing {call : Call} (uses : ∀ set, call ≠ .create set) (absent : contents call.set = none) :
      Answers contents call .setMissing contents

/-- The result that tells what became of a call. -/
def Verdict.result : Verdict → Call → Except Error Reply
  | .done, .create _ | .done, .add _ _ => .ok .done
  | .done, _ => .ok (.membership true)
  | .notMember, _ => .ok (.membership false)
  | .setMissing, call => .error (.notFound call.set)

/-- Something becomes of every call. -/
theorem exists_answers (contents : Contents) {call : Call} (plain : call.IsPlain) :
    ∃ verdict after, Answers contents call verdict after := by
  cases found : contents call.set with
  | none =>
      by_cases creates : ∃ set, call = .create set
      · obtain ⟨set, rfl⟩ := creates
        exact ⟨_, _, .create set⟩
      · exact ⟨_, _, .missing (fun set equal => creates ⟨set, equal⟩) found⟩
  | some members =>
      cases call with
      | create set => exact ⟨_, _, .create set⟩
      | add set address => exact ⟨_, _, .add address found⟩
      | remove set address =>
          by_cases member : address ∈ members
          · exact ⟨_, _, .remove found member⟩
          · exact ⟨_, _, .removeOther found member⟩
      | test set address =>
          by_cases member : address ∈ members
          · exact ⟨_, _, .test found member⟩
          · exact ⟨_, _, .testOther found member⟩
      | save => exact absurd plain id

/--
A backend that does what calls mean, over the states that occur. Calls with a name that no set can
have are refused.
-/
structure Meets (backend : Backend State) (Occurs : State → Prop)
    (contents : State → Contents) : Prop where
  occurs : ∀ call state, Occurs state → call.IsPlain → Occurs (backend.perform call state).2
  performs : ∀ call state verdict after, Occurs state → call.IsPlain →
    isValidName call.set = true → Answers (contents state) call verdict after →
      (backend.perform call state).1 = verdict.result call ∧
        contents (backend.perform call state).2 = after
  refuses : ∀ call state, Occurs state → call.IsPlain → isValidName call.set = false →
    (backend.perform call state).1 = .error (.invalidName call.set) ∧
      contents (backend.perform call state).2 = contents state

section Agreement

variable {first : Backend State} {second : Backend Other} {FirstOccurs : State → Prop}
  {SecondOccurs : Other → Prop} {firstContents : State → Contents}
  {secondContents : Other → Contents} {state : State} {other : Other}

theorem Meets.perform_agrees (firstMeets : Meets first FirstOccurs firstContents)
    (secondMeets : Meets second SecondOccurs secondContents) (firstOccurs : FirstOccurs state)
    (secondOccurs : SecondOccurs other) (same : firstContents state = secondContents other)
    {call : Call} (plain : call.IsPlain) :
    (first.perform call state).1 = (second.perform call other).1 ∧
      firstContents (first.perform call state).2 =
        secondContents (second.perform call other).2 := by
  cases valid : isValidName call.set with
  | true =>
      obtain ⟨verdict, after, answers⟩ := exists_answers (firstContents state) plain
      obtain ⟨result, contents⟩ :=
        firstMeets.performs call state verdict after firstOccurs plain valid answers
      obtain ⟨otherResult, otherContents⟩ :=
        secondMeets.performs call other verdict after secondOccurs plain valid (same ▸ answers)
      exact ⟨result.trans otherResult.symm, contents.trans otherContents.symm⟩
  | false =>
      obtain ⟨result, contents⟩ := firstMeets.refuses call state firstOccurs plain valid
      obtain ⟨otherResult, otherContents⟩ :=
        secondMeets.refuses call other secondOccurs plain valid
      exact ⟨result.trans otherResult.symm, contents.trans (same.trans otherContents.symm)⟩

/-- Backends that do what calls mean give the same results and hold the same sets. -/
theorem Meets.performAll_agrees (firstMeets : Meets first FirstOccurs firstContents)
    (secondMeets : Meets second SecondOccurs secondContents) (firstOccurs : FirstOccurs state)
    (secondOccurs : SecondOccurs other) (same : firstContents state = secondContents other)
    {calls : List Call} (plain : ∀ call ∈ calls, call.IsPlain) :
    (first.performAll calls state).1 = (second.performAll calls other).1 ∧
      firstContents (first.performAll calls state).2 =
        secondContents (second.performAll calls other).2 := by
  induction calls generalizing state other with
  | nil => exact ⟨rfl, same⟩
  | cons call rest inductionHypothesis =>
      have here := plain call List.mem_cons_self
      obtain ⟨result, contents⟩ :=
        firstMeets.perform_agrees secondMeets firstOccurs secondOccurs same here
      obtain ⟨results, final⟩ := inductionHypothesis
        (firstMeets.occurs call state firstOccurs here)
        (secondMeets.occurs call other secondOccurs here) contents
        fun later found => plain later (List.mem_cons_of_mem call found)
      rw [Backend.performAll_cons, Backend.performAll_cons, result, results]
      exact ⟨rfl, final⟩

/-- A call fails only for a name that no set can have or a set that does not exist. -/
def IsExpected (result : Except Error Reply) : Prop :=
  (∃ reply, result = .ok reply) ∨
    ∃ set, result = .error (.invalidName set) ∨ result = .error (.notFound set)

theorem Verdict.isExpected_result (verdict : Verdict) (call : Call) :
    IsExpected (verdict.result call) := by
  cases verdict with
  | done => cases call <;> exact .inl ⟨_, rfl⟩
  | notMember => exact .inl ⟨_, rfl⟩
  | setMissing => exact .inr ⟨call.set, .inr rfl⟩

theorem Meets.isExpected_performAll (meets : Meets first FirstOccurs firstContents)
    (occurs : FirstOccurs state) {calls : List Call} (plain : ∀ call ∈ calls, call.IsPlain) :
    ∀ result ∈ (first.performAll calls state).1, IsExpected result := by
  induction calls generalizing state with
  | nil =>
      intro result impossible
      cases impossible
  | cons call rest inductionHypothesis =>
      have here := plain call List.mem_cons_self
      rw [Backend.performAll_cons]
      intro result found
      rcases List.mem_cons.mp found with rfl | later
      · cases valid : isValidName call.set with
        | true =>
            obtain ⟨verdict, after, answers⟩ := exists_answers (firstContents state) here
            rw [(meets.performs call state verdict after occurs here valid answers).1]
            exact verdict.isExpected_result call
        | false =>
            rw [(meets.refuses call state occurs here valid).1]
            exact .inr ⟨call.set, .inl rfl⟩
      · exact inductionHypothesis (meets.occurs call state occurs here)
          (fun other found => plain other (List.mem_cons_of_mem call found)) result later

end Agreement

/-! ### Sets in memory -/

/-- Sets that are kept as lists. -/
def contentsOf (sets : Sets) : Contents :=
  fun set => (sets.find? set).map fun members => {address | address ∈ members}

theorem contentsOf_eq_some_iff {sets : Sets} {set : String} {members : Set Ip} :
    contentsOf sets set = some members ↔
      ∃ list, sets.find? set = some list ∧ {address | address ∈ list} = members :=
  Option.map_eq_some_iff

theorem contentsOf_put (sets : Sets) (set : String) (addresses : List Ip) :
    contentsOf (sets.put set addresses) =
      (contentsOf sets).put set {address | address ∈ addresses} := by
  funext other
  rw [contentsOf, SortedMap.find?_put, Contents.put]
  split <;> rfl

theorem contentsOf_put_insertMember {sets : Sets} {set : String} {list : List Ip} (address : Ip) :
    contentsOf (sets.put set (insertMember address list)) =
      (contentsOf sets).put set (insert address {member | member ∈ list}) := by
  rw [contentsOf_put]
  congr 1
  ext member
  exact mem_insertMember

theorem contentsOf_put_removeMember {sets : Sets} {set : String} {list : List Ip} (address : Ip) :
    contentsOf (sets.put set (removeMember address list)) =
      (contentsOf sets).put set ({member | member ∈ list} \ {address}) := by
  rw [contentsOf_put]
  congr 1
  ext member
  simp [removeMember]

/-- A set is created with what it has, and without members if it did not exist. -/
theorem contentsOf_create (sets : Sets) (set : String) :
    contentsOf (if sets.contains set then sets else sets.put set []) =
      (contentsOf sets).put set ((contentsOf sets set).getD ∅) := by
  rw [SortedMap.contains]
  cases found : sets.find? set with
  | none =>
      have absent : contentsOf sets set = none := Option.map_eq_none_iff.mpr found
      rw [Option.isSome_none, if_neg Bool.false_ne_true, contentsOf_put, absent]
      congr 1
      ext member
      simp
  | some list =>
      have there : contentsOf sets set = some {member | member ∈ list} :=
        contentsOf_eq_some_iff.mpr ⟨list, found, rfl⟩
      rw [Option.isSome_some, if_pos rfl, there]
      exact (Contents.put_self there).symm

namespace Memory

variable {memory : Memory} {set : String} {address : Ip} {members : Set Ip}

def contents (memory : Memory) : Contents :=
  contentsOf memory.sets

/-- A strict store without failures that were switched on. -/
structure IsReliable (memory : Memory) : Prop where
  strict : memory.strict = true
  failing : memory.failing = []
  failAll : memory.failAll = false

/-- A set that exists has the members that are listed. -/
theorem members_of_contents (found : memory.contents set = some members) :
    memory.sets.contains set = true ∧
      {address | address ∈ AddressSet.members memory.sets set} = members := by
  obtain ⟨list, here, rfl⟩ := contentsOf_eq_some_iff.mp found
  rw [SortedMap.contains, AddressSet.members, here]
  exact ⟨rfl, rfl⟩

theorem contains_of_contents_eq_none (absent : memory.contents set = none) :
    memory.sets.contains set = false := by
  rw [SortedMap.contains, Option.map_eq_none_iff.mp absent]
  rfl

theorem IsReliable.permit (reliable : memory.IsReliable) (command set : String) (address : Ip) :
    memory.permit command set address =
      if isValidName set then
        if memory.sets.contains set then .ok () else .error (.notFound set)
      else .error (.invalidName set) := by
  simp only [Memory.permit, checkName, injected, reliable.strict, reliable.failing,
    reliable.failAll]
  cases isValidName set with
  | false => rfl
  | true => cases memory.sets.contains set <;> simp [bind, Except.bind]

theorem IsReliable.permit_of_contents (reliable : memory.IsReliable) (command : String)
    (address : Ip) (valid : isValidName set = true) (found : memory.contents set = some members) :
    memory.permit command set address = .ok () := by
  rw [reliable.permit, if_pos valid, if_pos (members_of_contents found).1]

theorem IsReliable.create_eq (reliable : memory.IsReliable) (set : String) :
    memory.create set =
      if isValidName set then
        (.ok (), if memory.sets.contains set then memory.log (.create set)
          else (memory.log (.create set)).put set [])
      else (.error (.invalidName set), memory.log (.create set)) := by
  simp only [create, checkName, injected, log, reliable.failAll]
  cases isValidName set <;> rfl

/-- The command under which a call that uses a set is checked, and the address. -/
def use? : Call → Option (String × Ip)
  | .add _ address => some ("add", address)
  | .remove _ address => some ("del", address)
  | .test _ address => some ("test", address)
  | .create _ | .save => none

theorem exists_use {call : Call} (plain : call.IsPlain) (uses : ∀ set, call ≠ .create set) :
    ∃ command address, use? call = some (command, address) := by
  cases call with
  | create set => exact absurd rfl (uses set)
  | add set address => exact ⟨_, _, rfl⟩
  | remove set address => exact ⟨_, _, rfl⟩
  | test set address => exact ⟨_, _, rfl⟩
  | save => exact absurd plain id

/-- A call that is not permitted gives the cause and changes no set. -/
theorem perform_of_permit_eq_error {call : Call} {command : String} {cause : Error}
    (uses : use? call = some (command, address))
    (refused : memory.permit command call.set address = .error cause) :
    Memory.backend.perform call memory = (.error cause, memory.log call) := by
  cases call with
  | create set => cases uses
  | add set address =>
      cases uses
      rw [Call.set] at refused
      simp only [Backend.perform, backend, add_eq, refused]
      rfl
  | remove set address =>
      cases uses
      rw [Call.set] at refused
      simp only [Backend.perform, backend, remove_eq, refused]
      rfl
  | test set address =>
      cases uses
      rw [Call.set] at refused
      simp only [Backend.perform, backend, test_eq, refused]
      rfl
  | save => cases uses

theorem IsReliable.perform (reliable : memory.IsReliable) (call : Call) :
    (Memory.backend.perform call memory).2.IsReliable := by
  have kept (changed : Memory) (strict : changed.strict = memory.strict)
      (failing : changed.failing = memory.failing)
      (failAll : changed.failAll = memory.failAll) : changed.IsReliable :=
    ⟨strict.trans reliable.strict, failing.trans reliable.failing, failAll.trans reliable.failAll⟩
  cases call with
  | create set =>
      simp only [Backend.perform, backend, reliable.create_eq]
      split
      · split
        · exact kept _ rfl rfl rfl
        · exact kept _ rfl rfl rfl
      · exact kept _ rfl rfl rfl
  | add set address =>
      simp only [Backend.perform, backend, add_eq]
      split <;> exact kept _ rfl rfl rfl
  | remove set address =>
      simp only [Backend.perform, backend, remove_eq]
      split <;> exact kept _ rfl rfl rfl
  | test set address =>
      simp only [Backend.perform, backend, test_eq]
      split <;> exact kept _ rfl rfl rfl
  | save => exact kept _ rfl rfl rfl

theorem IsReliable.performs_create (reliable : memory.IsReliable) (set : String)
    (valid : isValidName set = true) :
    (Memory.backend.perform (.create set) memory).1 = .ok .done ∧
      (Memory.backend.perform (.create set) memory).2.contents =
        memory.contents.put set ((memory.contents set).getD ∅) := by
  simp only [Backend.perform, backend, reliable.create_eq, valid, if_true]
  refine ⟨rfl, Eq.trans ?_ (contentsOf_create memory.sets set)⟩
  split <;> rfl

theorem IsReliable.performs_add (reliable : memory.IsReliable) (set : String)
    (valid : isValidName set = true) (address : Ip) (found : memory.contents set = some members) :
    (Memory.backend.perform (.add set address) memory).1 = .ok .done ∧
      (Memory.backend.perform (.add set address) memory).2.contents =
        memory.contents.put set (insert address members) := by
  have permitted := reliable.permit_of_contents "add" address valid found
  obtain ⟨_, rfl⟩ := members_of_contents found
  simp only [Backend.perform, backend, add_eq, permitted]
  exact ⟨rfl, contentsOf_put_insertMember address⟩

theorem IsReliable.performs_remove (reliable : memory.IsReliable) (set : String)
    (valid : isValidName set = true) (address : Ip) (found : memory.contents set = some members) :
    ∃ isMember : Bool, (isMember = true ↔ address ∈ members) ∧
      (Memory.backend.perform (.remove set address) memory).1 = .ok (.membership isMember) ∧
      (Memory.backend.perform (.remove set address) memory).2.contents =
        memory.contents.put set (members \ {address}) := by
  have permitted := reliable.permit_of_contents "del" address valid found
  obtain ⟨_, rfl⟩ := members_of_contents found
  simp only [Backend.perform, backend, remove_eq, permitted]
  exact ⟨_, List.contains_iff_mem, rfl, contentsOf_put_removeMember address⟩

theorem IsReliable.performs_test (reliable : memory.IsReliable) (set : String)
    (valid : isValidName set = true) (address : Ip) (found : memory.contents set = some members) :
    ∃ isMember : Bool, (isMember = true ↔ address ∈ members) ∧
      (Memory.backend.perform (.test set address) memory).1 = .ok (.membership isMember) ∧
      (Memory.backend.perform (.test set address) memory).2.contents = memory.contents := by
  have permitted := reliable.permit_of_contents "test" address valid found
  have kept := Contents.put_self found
  obtain ⟨_, rfl⟩ := members_of_contents found
  simp only [Backend.perform, backend, test_eq, permitted]
  exact ⟨_, List.contains_iff_mem, rfl, (contentsOf_put memory.sets set _).trans kept⟩

/-- The strict store in memory does what calls mean. -/
theorem meets_memory : Meets Memory.backend IsReliable contents where
  occurs call memory reliable _ := reliable.perform call
  performs call memory verdict after reliable plain valid answers := by
    cases answers with
    | create set => exact reliable.performs_create set valid
    | @add set members address found => exact reliable.performs_add set valid address found
    | @remove set members address found member =>
        obtain ⟨isMember, known, result, sets⟩ := reliable.performs_remove set valid address found
        rw [result, known.mpr member]
        exact ⟨rfl, sets⟩
    | @removeOther set members address found other =>
        obtain ⟨isMember, known, result, sets⟩ := reliable.performs_remove set valid address found
        rw [result, Bool.eq_false_iff.mpr (mt known.mp other), sets,
          Set.sdiff_singleton_eq_self other]
        exact ⟨rfl, Contents.put_self found⟩
    | @test set members address found member =>
        obtain ⟨isMember, known, result, sets⟩ := reliable.performs_test set valid address found
        rw [result, known.mpr member]
        exact ⟨rfl, sets⟩
    | @testOther set members address found other =>
        obtain ⟨isMember, known, result, sets⟩ := reliable.performs_test set valid address found
        rw [result, Bool.eq_false_iff.mpr (mt known.mp other)]
        exact ⟨rfl, sets⟩
    | missing uses absent =>
        obtain ⟨command, address, use⟩ := exists_use plain uses
        have refused : memory.permit command call.set address = .error (.notFound call.set) := by
          rw [reliable.permit, if_pos valid, contains_of_contents_eq_none absent]
          rfl
        rw [perform_of_permit_eq_error use refused]
        exact ⟨rfl, rfl⟩
  refuses call memory reliable plain invalid := by
    by_cases creates : ∃ set, call = .create set
    · obtain ⟨set, rfl⟩ := creates
      rw [Call.set] at invalid
      simp only [Backend.perform, backend, reliable.create_eq, invalid]
      exact ⟨rfl, rfl⟩
    · obtain ⟨command, address, use⟩ := exists_use plain fun set equal => creates ⟨set, equal⟩
      have refused : memory.permit command call.set address = .error (.invalidName call.set) := by
        rw [reliable.permit, invalid]
        rfl
      rw [perform_of_permit_eq_error use refused]
      exact ⟨rfl, rfl⟩

end Memory

end SplitDns.AddressSet
