/-!
# Ranges of code points

A property of characters, given as the closed ranges of the code points that have it.
-/

namespace SplitDns.Text

/-- Whether a character lies in one of the ranges, ends included. -/
def inRanges (ranges : List (Nat × Nat)) (character : Char) : Bool :=
  ranges.any fun range => range.1 ≤ character.toNat && character.toNat ≤ range.2

theorem inRanges_iff {ranges : List (Nat × Nat)} {character : Char} :
    inRanges ranges character = true ↔
      ∃ range ∈ ranges, range.1 ≤ character.toNat ∧ character.toNat ≤ range.2 := by
  simp [inRanges]

end SplitDns.Text
