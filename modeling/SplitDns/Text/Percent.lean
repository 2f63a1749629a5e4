import SplitDns.Text.Number

/-!
# Percent escapes

A percent sign with two hexadecimal digits stands for an octet; everything else stands for itself.
-/

namespace SplitDns.Text

/-- The octets that a text with percent escapes stands for. -/
def percentOctets : List Char → List UInt8
  | [] => []
  | '%' :: first :: second :: rest =>
      match hexDigit? first, hexDigit? second with
      | some high, some low => UInt8.ofNat (high * 16 + low) :: percentOctets rest
      | _, _ => String.utf8EncodeChar '%' ++ percentOctets (first :: second :: rest)
  | character :: rest => String.utf8EncodeChar character ++ percentOctets rest

theorem percentOctets_cons {character : Char} (rest : List Char) (plain : character ≠ '%') :
    percentOctets (character :: rest) =
      String.utf8EncodeChar character ++ percentOctets rest := by
  rw [percentOctets]
  intro first second tail equal
  exact absurd equal plain

/-- A text without a percent sign stands for itself. -/
theorem percentOctets_eq_flatMap {text : List Char} (free : '%' ∉ text) :
    percentOctets text = text.flatMap String.utf8EncodeChar := by
  induction text with
  | nil => rfl
  | cons character rest inductionHypothesis =>
      simp only [List.mem_cons, not_or] at free
      rw [percentOctets_cons rest (Ne.symm free.1), List.flatMap_cons, inductionHypothesis free.2]

end SplitDns.Text
