import Mathlib.Data.String.Basic
import SplitDns.Text.Utf8

/-!
# The order of texts

Texts are compared character by character. Their octets are compared octet by octet, and that gives
the same order: of two characters the smaller one is written with the smaller octets.
-/

namespace SplitDns.Text

theorem octet_cons_lt {lower upper : Nat} {front back : List UInt8} (bound : upper < 256)
    (ordered : lower ≤ upper) (later : lower = upper → front < back) :
    UInt8.ofNat lower :: front < UInt8.ofNat upper :: back := by
  rcases Nat.lt_or_eq_of_le ordered with less | rfl
  · apply List.Lex.rel
    rw [UInt8.lt_iff_toNat_lt, UInt8.toNat_ofNat', UInt8.toNat_ofNat']
    omega
  · exact List.Lex.cons (later rfl)

theorem utf8EncodeChar_append_lt {first second : Char} (less : first < second)
    (front back : List UInt8) :
    String.utf8EncodeChar first ++ front < String.utf8EncodeChar second ++ back := by
  have codes : first.val.toNat < second.val.toNat := less
  have bound : second.val.toNat < 0x110000 := by
    rcases second.valid with below | above
    · exact Nat.lt_trans below (by decide)
    · exact above.2
  fun_cases String.utf8EncodeChar first <;> fun_cases String.utf8EncodeChar second
  -- The second character does not take fewer octets.
  all_goals
    simp only [List.cons_append]
    try omega
  -- If it takes more, the first octets differ; otherwise some octets do.
  all_goals
    repeat
      refine octet_cons_lt (by omega) (by omega) fun same => ?_
    omega

theorem flatMap_utf8EncodeChar_lt {first second : List Char} (less : first < second) :
    first.flatMap String.utf8EncodeChar < second.flatMap String.utf8EncodeChar := by
  induction less with
  | nil =>
      rename_i head rest
      rw [List.flatMap_nil, List.flatMap_cons]
      cases encoded : String.utf8EncodeChar head with
      | nil => exact absurd encoded String.utf8EncodeChar_ne_nil
      | cons octet others => exact List.nil_lt_cons _ _
  | rel less =>
      rw [List.flatMap_cons, List.flatMap_cons]
      exact utf8EncodeChar_append_lt less _ _
  | cons _ inductionHypothesis =>
      rw [List.flatMap_cons, List.flatMap_cons]
      exact List.append_left_lt inductionHypothesis

theorem toList_utf8 (text : String) :
    (utf8 text).data.toList = text.toList.flatMap String.utf8EncodeChar := by
  obtain ⟨characters, rfl⟩ : ∃ characters, text = String.ofList characters :=
    ⟨text.toList, String.ofList_toList.symm⟩
  rw [String.toList_ofList]
  exact List.toList_data_toByteArray

/-- Texts in order are in the order of their octets. -/
theorem utf8_lt {first second : String} (less : first < second) :
    (utf8 first).data.toList < (utf8 second).data.toList := by
  rw [toList_utf8, toList_utf8]
  exact flatMap_utf8EncodeChar_lt (String.lt_iff_toList_lt.mp less)

end SplitDns.Text
