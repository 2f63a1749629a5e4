import Mathlib.Data.List.Basic

/-!
# First occurrences

The items of a list without repetition, in the order in which they first occur. A list of them
grows at the end, by the items that have not occurred.
-/

namespace SplitDns

variable {Item : Type} [DecidableEq Item] {all kept : List Item} {item : Item}

/-- The kept items are those of the whole list, in the order of their first occurrence there. -/
structure IsFirstOccurrences (all kept : List Item) : Prop where
  mem_iff : ∀ item, item ∈ kept ↔ item ∈ all
  ordered : kept.Pairwise fun earlier later => all.idxOf earlier < all.idxOf later

namespace IsFirstOccurrences

theorem empty : IsFirstOccurrences ([] : List Item) [] :=
  ⟨fun _ => Iff.rfl, .nil⟩

/-- No item comes twice, since it would come before itself. -/
theorem nodup (first : IsFirstOccurrences all kept) : kept.Nodup := by
  apply first.ordered.imp
  rintro earlier later before rfl
  exact Nat.lt_irrefl _ before

theorem unique {other : List Item} (first : IsFirstOccurrences all kept)
    (second : IsFirstOccurrences all other) : kept = other := by
  have same : kept.Perm other := (List.perm_ext_iff_of_nodup first.nodup second.nodup).mpr
    fun item => (first.mem_iff item).trans (second.mem_iff item).symm
  refine same.eq_of_pairwise ?_ first.ordered second.ordered
  intro one two _ _ before after
  exact absurd before (Nat.lt_asymm after)

/-- What comes after does not change where an item occurs first. -/
theorem ordered_append (first : IsFirstOccurrences all kept) (more : List Item) :
    kept.Pairwise fun earlier later =>
      (all ++ more).idxOf earlier < (all ++ more).idxOf later := by
  apply first.ordered.imp_of_mem
  intro earlier later earlierKept laterKept before
  rw [List.idxOf_append_of_mem ((first.mem_iff earlier).mp earlierKept),
    List.idxOf_append_of_mem ((first.mem_iff later).mp laterKept)]
  exact before

theorem again (first : IsFirstOccurrences all kept) (occurs : item ∈ all) :
    IsFirstOccurrences (all ++ [item]) kept where
  mem_iff other := by
    rw [first.mem_iff, List.mem_append, List.mem_singleton]
    constructor
    · exact .inl
    · rintro (old | rfl)
      · exact old
      · exact occurs
  ordered := first.ordered_append [item]

theorem anew (first : IsFirstOccurrences all kept) (new : item ∉ all) :
    IsFirstOccurrences (all ++ [item]) (kept ++ [item]) where
  mem_iff other := by
    rw [List.mem_append, List.mem_append, first.mem_iff]
  ordered := by
    apply List.pairwise_append.mpr
    refine ⟨first.ordered_append [item], List.pairwise_singleton _ _, ?_⟩
    intro earlier earlierKept last isItem
    have occurs := (first.mem_iff earlier).mp earlierKept
    rw [List.mem_singleton.mp isItem, List.idxOf_append_of_mem occurs,
      List.idxOf_append_of_notMem new]
    exact Nat.lt_of_lt_of_le (List.idxOf_lt_length_iff.mpr occurs) (Nat.le_add_right _ _)

/-- A loop that keeps each item unless it was kept before. -/
theorem foldl (first : IsFirstOccurrences all kept) (more : List Item) :
    IsFirstOccurrences (all ++ more)
      (more.foldl (fun kept item => if kept.contains item then kept else kept ++ [item]) kept) := by
  induction more generalizing all kept with
  | nil =>
      rw [List.append_nil]
      exact first
  | cons item rest inductionHypothesis =>
      rw [List.foldl_cons, List.append_cons]
      apply inductionHypothesis
      by_cases known : item ∈ kept
      · rw [if_pos (List.contains_iff_mem.mpr known)]
        exact first.again ((first.mem_iff item).mp known)
      · rw [if_neg (mt List.contains_iff_mem.mp known)]
        exact first.anew (mt (first.mem_iff item).mpr known)

end IsFirstOccurrences

end SplitDns
