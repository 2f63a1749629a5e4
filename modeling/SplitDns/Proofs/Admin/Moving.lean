import SplitDns.Admin.Edit
import SplitDns.AddressSet.Memory
import SplitDns.Proofs.AddressSet.Members

/-!
# Moving addresses between sets

What an edit does with the addresses that it treats, where nothing fails: each of them ends up in
some sets and leaves some others, and all else stays. The count of failures never falls, so that a
whole edit without failure has no failure in any part.
-/

namespace SplitDns.Admin

open SplitDns.Address
open SplitDns.AddressSet

/-! ### Single operations -/

section Single

variable {Sets : Type} (backend : Backend Sets) (set : String) (address : Ip) (tally : Tally)
  (sets : Sets)

theorem sets_addMember :
    (addMember backend set address tally sets).2 = (backend.add set address sets).2 := by
  unfold addMember
  obtain ⟨_ | _, _⟩ := backend.add set address sets <;> rfl

theorem failed_addMember : (addMember backend set address tally sets).1.failed =
    tally.failed + (if (backend.add set address sets).1.isOk then 0 else 1) := by
  unfold addMember
  obtain ⟨_ | _, _⟩ := backend.add set address sets <;> rfl

theorem isOk_add_of_failed_eq
    (succeeded : (addMember backend set address tally sets).1.failed = tally.failed) :
    (backend.add set address sets).1.isOk = true := by
  rw [failed_addMember] at succeeded
  apply Classical.byContradiction
  intro refused
  rw [if_neg refused] at succeeded
  omega

theorem sets_removeMember :
    (removeMember backend set address tally sets).2 = (backend.remove set address sets).2 := by
  unfold removeMember
  obtain ⟨_ | _ | _, _⟩ := backend.remove set address sets <;> rfl

theorem failed_removeMember : (removeMember backend set address tally sets).1.failed =
    tally.failed + (if (backend.remove set address sets).1.isOk then 0 else 1) := by
  unfold removeMember
  obtain ⟨_ | _ | _, _⟩ := backend.remove set address sets <;> rfl

theorem isOk_remove_of_failed_eq
    (succeeded : (removeMember backend set address tally sets).1.failed = tally.failed) :
    (backend.remove set address sets).1.isOk = true := by
  rw [failed_removeMember] at succeeded
  apply Classical.byContradiction
  intro refused
  rw [if_neg refused] at succeeded
  omega

end Single

/-! ### Treatments -/

/-- Where nothing fails, the treated address joins some sets and leaves others. -/
structure Settles (treat : Ip → Tally → Memory → Tally × Memory) (Puts Takes : String → Prop) :
    Prop where
  failed : ∀ address tally memory, tally.failed ≤ (treat address tally memory).1.failed
  isMember : ∀ address tally memory, (treat address tally memory).1.failed = tally.failed →
    ∀ set member, (treat address tally memory).2.IsMember set member ↔
      if member = address then Puts set ∨ ¬ Takes set ∧ memory.IsMember set member
      else memory.IsMember set member

variable {treat following : Ip → Tally → Memory → Tally × Memory}
  {Puts Takes NextPuts NextTakes : String → Prop}

theorem settles_addMember (target : String) :
    Settles (addMember Memory.backend target) (· = target) (fun _ => False) where
  failed address tally memory := by
    rw [failed_addMember]
    exact Nat.le_add_right _ _
  isMember address tally memory succeeded set member := by
    have permitted : (memory.add target address).1.isOk = true :=
      isOk_add_of_failed_eq Memory.backend target address tally memory succeeded
    have joined : (addMember Memory.backend target address tally memory).2 =
        (memory.add target address).2 := sets_addMember ..
    rw [joined, Memory.isMember_add, permitted]
    by_cases same : member = address
    · simp [same, or_comm]
    · simp [same]

theorem settles_removeMember (target : String) :
    Settles (removeMember Memory.backend target) (fun _ => False) (· = target) where
  failed address tally memory := by
    rw [failed_removeMember]
    exact Nat.le_add_right _ _
  isMember address tally memory succeeded set member := by
    have permitted : (memory.remove target address).1.isOk = true :=
      isOk_remove_of_failed_eq Memory.backend target address tally memory succeeded
    have left : (removeMember Memory.backend target address tally memory).2 =
        (memory.remove target address).2 := sets_removeMember ..
    rw [left, Memory.isMember_remove, permitted]
    by_cases same : member = address
    · simp [same, and_comm]
    · simp [same]

/-- One treatment after another; what the second takes, the first has put in vain. -/
theorem Settles.andThen (first : Settles treat Puts Takes)
    (second : Settles following NextPuts NextTakes) :
    Settles
      (fun address tally memory =>
        following address (treat address tally memory).1 (treat address tally memory).2)
      (fun set => NextPuts set ∨ ¬ NextTakes set ∧ Puts set)
      (fun set => NextTakes set ∨ Takes set) where
  failed address tally memory :=
    Nat.le_trans (first.failed address tally memory) (second.failed address _ _)
  isMember address tally memory succeeded set member := by
    have before := first.failed address tally memory
    have after := second.failed address (treat address tally memory).1
      (treat address tally memory).2
    rw [second.isMember address _ _ (by omega), first.isMember address _ _ (by omega)]
    by_cases same : member = address
    · simp only [if_pos same, not_or]
      grind
    · simp only [if_neg same]

theorem Settles.congr (settles : Settles treat Puts Takes)
    (puts : ∀ set, Puts set ↔ NextPuts set) (takes : ∀ set, Takes set ↔ NextTakes set) :
    Settles treat NextPuts NextTakes := by
  have samePuts : Puts = NextPuts := funext fun set => propext (puts set)
  have sameTakes : Takes = NextTakes := funext fun set => propext (takes set)
  exact samePuts ▸ sameTakes ▸ settles

theorem settles_removeMembers (others : List String) :
    Settles (removeMembers Memory.backend others) (fun _ => False) (· ∈ others) := by
  induction others with
  | nil => exact ⟨fun _ _ _ => Nat.le_refl _, fun _ _ _ _ _ _ => by simp [removeMembers]⟩
  | cons first rest inductionHypothesis =>
      apply ((settles_removeMember first).andThen inductionHypothesis).congr
      · simp
      · intro set
        rw [List.mem_cons, or_comm]

theorem settles_moveMember {target : String} {others : List String} (apart : target ∉ others) :
    Settles (moveMember Memory.backend target others) (· = target) (· ∈ others) := by
  apply ((settles_addMember target).andThen (settles_removeMembers others)).congr
  · intro set
    grind
  · simp

/-! ### All addresses of an edit -/

/-- One of the texts is the address. -/
def Names (texts : List String) (address : Ip) : Prop :=
  ∃ text ∈ texts, Ip.parse? text.toList = some address

theorem names_cons {text : String} {rest : List String} {address : Ip} :
    Names (text :: rest) address ↔ Ip.parse? text.toList = some address ∨ Names rest address := by
  simp only [Names, List.mem_cons, or_and_right, exists_or, exists_eq_left]

/-- The part of `forAddresses` that treats one text. -/
def treatText (treat : Ip → Tally → Memory → Tally × Memory) (state : Tally × Memory)
    (text : String) : Tally × Memory :=
  match Ip.parse? text.toList with
  | some address => treat address state.1 state.2
  | none => ({ state.1 with failed := state.1.failed + 1 }, state.2)

theorem Settles.failed_foldl (settles : Settles treat Puts Takes) (texts : List String)
    (state : Tally × Memory) :
    state.1.failed ≤ (texts.foldl (treatText treat) state).1.failed := by
  induction texts generalizing state with
  | nil => exact Nat.le_refl _
  | cons text rest inductionHypothesis =>
      apply Nat.le_trans ?_ (inductionHypothesis _)
      unfold treatText
      split
      · exact settles.failed _ _ _
      · exact Nat.le_succ _

theorem Settles.isMember_foldl (settles : Settles treat Puts Takes) {texts : List String}
    {state : Tally × Memory}
    (succeeded : (texts.foldl (treatText treat) state).1.failed = state.1.failed)
    (set : String) (member : Ip) :
    (texts.foldl (treatText treat) state).2.IsMember set member ↔
      (Names texts member → Puts set ∨ ¬ Takes set ∧ state.2.IsMember set member) ∧
        (¬ Names texts member → state.2.IsMember set member) := by
  induction texts generalizing state with
  | nil => simp [Names]
  | cons text rest inductionHypothesis =>
      rw [List.foldl_cons] at succeeded ⊢
      have later := settles.failed_foldl rest (treatText treat state text)
      cases parsed : Ip.parse? text.toList with
      | none =>
          have counted : (treatText treat state text).1.failed = state.1.failed + 1 := by
            simp only [treatText, parsed]
          omega
      | some address =>
          have treated : treatText treat state text = treat address state.1 state.2 := by
            simp only [treatText, parsed]
          have first := settles.failed address state.1 state.2
          rw [treated] at succeeded later ⊢
          rw [inductionHypothesis (by omega), settles.isMember address _ _ (by omega)]
          have names : Names (text :: rest) member ↔ member = address ∨ Names rest member := by
            rw [names_cons, parsed, Option.some_inj, eq_comm]
          rw [names]
          grind

/-- Without failure, an edit settles exactly the addresses that its texts name. -/
theorem Settles.isMember_forAddresses (settles : Settles treat Puts Takes) {texts : List String}
    {memory : Memory} (succeeded : (forAddresses treat texts memory).1.failed = 0)
    (set : String) (member : Ip) :
    (forAddresses treat texts memory).2.IsMember set member ↔
      (Names texts member → Puts set ∨ ¬ Takes set ∧ memory.IsMember set member) ∧
        (¬ Names texts member → memory.IsMember set member) :=
  settles.isMember_foldl succeeded set member

end SplitDns.Admin
