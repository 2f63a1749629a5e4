/-!
# Outcomes of operations in a row

An operation that consists of others succeeds only if each of them does.
-/

namespace SplitDns

variable {Cause Other First Second : Type}

instance decidableEqOutcome [DecidableEq Cause] [DecidableEq First] :
    DecidableEq (Except Cause First)
  | .error left, .error right => decidable_of_iff (left = right) (by simp)
  | .error _, .ok _ => .isFalse nofun
  | .ok _, .error _ => .isFalse nofun
  | .ok left, .ok right => decidable_of_iff (left = right) (by simp)

theorem exists_of_bind_eq_ok {first : Except Cause First} {rest : First → Except Cause Second}
    {result : Second} (done : first >>= rest = .ok result) :
    ∃ middle, first = .ok middle ∧ rest middle = .ok result := by
  cases first with
  | error cause => cases done
  | ok middle => exact ⟨middle, rfl, done⟩

theorem eq_ok_of_mapError {first : Except Cause First} {change : Cause → Other} {result : First}
    (done : first.mapError change = .ok result) : first = .ok result := by
  cases first with
  | error cause => cases done
  | ok value =>
      cases done
      rfl

/-- What succeeds for every item succeeds for the list, with one result for each item. -/
theorem exists_of_mapM {treat : First → Except Cause Second} {items : List First}
    (succeeds : ∀ item ∈ items, ∃ result, treat item = .ok result) :
    ∃ results : List Second, items.mapM treat = .ok results ∧
      ∀ (index : Nat) (item : First), items[index]? = some item →
        ∃ result, treat item = .ok result ∧ results[index]? = some result := by
  induction items with
  | nil => exact ⟨[], rfl, fun _ _ impossible => nomatch impossible⟩
  | cons first rest inductionHypothesis =>
      obtain ⟨result, treated⟩ := succeeds first List.mem_cons_self
      obtain ⟨results, others, found⟩ := inductionHypothesis fun item inRest =>
        succeeds item (List.mem_cons_of_mem first inRest)
      refine ⟨result :: results, ?_, ?_⟩
      · rw [List.mapM_cons, treated, others]
        rfl
      · intro index item here
        cases index with
        | zero =>
            cases here
            exact ⟨result, treated, rfl⟩
        | succ index => exact found index item here

theorem isSome_of_mapM {treat : First → Option Second} {items : List First}
    {results : List Second} (done : items.mapM treat = some results) :
    ∀ item ∈ items, (treat item).isSome = true := by
  induction items generalizing results with
  | nil => exact fun _ impossible => nomatch impossible
  | cons first rest inductionHypothesis =>
      rw [List.mapM_cons] at done
      obtain ⟨result, treated, others⟩ := Option.bind_eq_some_iff.mp done
      obtain ⟨later, treatedLater, _⟩ := Option.bind_eq_some_iff.mp others
      intro item found
      rcases List.mem_cons.mp found with rfl | inRest
      · rw [treated, Option.isSome_some]
      · exact inductionHypothesis treatedLater item inRest

end SplitDns
