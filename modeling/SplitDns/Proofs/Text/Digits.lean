import Mathlib.Tactic.IntervalCases
import SplitDns.Text.Number

/-!
# Written numbers

A decimal number is read exactly if all its characters are digits and it is within the limit of the
reader; zeros at its start do not matter. Hexadecimal digits are read back as the number, and all
digits are hexadecimal ones.
-/

namespace SplitDns.Text

theorem hexDigit?_digitChar {digit : Nat} (small : digit < 16) :
    hexDigit? digit.digitChar = some digit := by
  interval_cases digit <;> rfl

/-! ### Decimal numbers -/

/-- A number in decimal digits, which may begin with zeros. -/
structure IsDecimal (text : List Char) (value : Nat) : Prop where
  filled : text ≠ []
  digits : ∀ character ∈ text, character.isDigit = true
  value_eq : Nat.ofDigitChars 10 text 0 = value

theorem isDecimal_digitsOf (value : Nat) : IsDecimal (digitsOf 10 value) value where
  filled := Nat.toDigits_ne_nil
  digits := fun _ found => Nat.isDigit_of_mem_toDigits (by decide) (by decide) found
  value_eq := Nat.ofDigitChars_toDigits (by decide) (by decide)

theorem IsDecimal.not_mem {text : List Char} {value : Nat} (decimal : IsDecimal text value)
    {character : Char} (other : character.isDigit = false) : character ∉ text := by
  intro found
  have digit := decimal.digits character found
  rw [other] at digit
  cases digit

theorem not_mem_digitsOf {character : Char} (other : character.isDigit = false) (value : Nat) :
    character ∉ digitsOf 10 value :=
  (isDecimal_digitsOf value).not_mem other

theorem decimalDigit?_of_isDigit {character : Char} (digit : character.isDigit = true) :
    decimalDigit? character = some (character.toNat - '0'.toNat) :=
  if_pos digit

theorem decimalDigit?_of_not_isDigit {character : Char} (other : character.isDigit = false) :
    decimalDigit? character = none :=
  if_neg (Bool.eq_false_iff.mp other)

/-- Digits behind a number do not make it less. -/
theorem le_ofDigitChars (value : Nat) (text : List Char) :
    value ≤ Nat.ofDigitChars 10 text value := by
  induction text generalizing value with
  | nil => exact Nat.le_refl value
  | cons character rest inductionHypothesis =>
      rw [Nat.ofDigitChars_cons]
      have later := inductionHypothesis (10 * value + (character.toNat - '0'.toNat))
      omega

/-- All characters are digits, and the number that they write is within the limit. -/
theorem readDigits_eq_ok_iff {limit value result : Nat} {text : List Char}
    (bounded : value ≤ limit) :
    readDigits limit value text = .ok result ↔
      (∀ character ∈ text, character.isDigit = true) ∧
        Nat.ofDigitChars 10 text value = result ∧ result ≤ limit := by
  induction text generalizing value with
  | nil =>
      rw [readDigits, Except.ok.injEq, Nat.ofDigitChars_nil]
      constructor
      · rintro rfl
        exact ⟨List.forall_mem_nil _, rfl, bounded⟩
      · exact fun whole => whole.2.1
  | cons character rest inductionHypothesis =>
      rw [List.forall_mem_cons, Nat.ofDigitChars_cons, Nat.mul_comm 10 value]
      cases digit : character.isDigit with
      | false => simp [readDigits, decimalDigit?_of_not_isDigit digit]
      | true =>
          simp only [readDigits, decimalDigit?_of_isDigit digit, true_and]
          split
          next large =>
            constructor
            · intro impossible
              cases impossible
            · rintro ⟨-, rfl, small⟩
              exact absurd (Nat.le_trans (le_ofDigitChars _ rest) small) (Nat.not_le.mpr large)
          next small => exact inductionHypothesis (Nat.le_of_not_lt small)

theorem readDigits_eq_ok_iff_isDecimal {limit value : Nat} {text : List Char}
    (filled : text ≠ []) :
    readDigits limit 0 text = .ok value ↔ IsDecimal text value ∧ value ≤ limit := by
  rw [readDigits_eq_ok_iff (Nat.zero_le limit)]
  constructor
  · rintro ⟨digits, same, small⟩
    exact ⟨⟨filled, digits, same⟩, small⟩
  · rintro ⟨⟨-, digits, same⟩, small⟩
    exact ⟨digits, same, small⟩

theorem digits?_eq_some_iff {limit value : Nat} {text : List Char} :
    digits? limit text = some value ↔ IsDecimal text value ∧ value ≤ limit := by
  rw [digits?]
  split
  next empty =>
    constructor
    · intro impossible
      cases impossible
    · exact fun whole => absurd (List.isEmpty_iff.mp empty) whole.1.filled
  next filled =>
    rw [← readDigits_eq_ok_iff_isDecimal fun empty => filled (List.isEmpty_iff.mpr empty)]
    cases readDigits limit 0 text <;> simp [Except.toOption]

/-- A number may have a plus sign before its digits, and only one. -/
theorem readNumber_eq_ok_iff {limit value : Nat} {text : List Char} :
    readNumber limit text = .ok value ↔
      (IsDecimal text value ∨ ∃ digits, text = '+' :: digits ∧ IsDecimal digits value) ∧
        value ≤ limit := by
  have signed (digits : List Char) : ¬IsDecimal ('+' :: digits) value := fun decimal =>
    decimal.not_mem (by decide) List.mem_cons_self
  unfold readNumber
  split
  next =>
    simp only [reduceCtorEq, List.nil_eq, false_and, exists_false, or_false, false_iff, not_and]
    exact fun decimal => absurd rfl decimal.filled
  next =>
    simp only [reduceCtorEq, List.cons.injEq, true_and, signed, false_or, exists_eq_left',
      false_iff, not_and]
    exact fun decimal => absurd rfl decimal.filled
  next digits filled =>
    rw [readDigits_eq_ok_iff_isDecimal (by rintro rfl; exact filled rfl)]
    simp only [List.cons.injEq, true_and, signed, false_or, exists_eq_left']
  next filled unsigned unsignedToo =>
    rw [readDigits_eq_ok_iff_isDecimal filled]
    constructor
    · exact fun decimal => ⟨.inl decimal.1, decimal.2⟩
    · rintro ⟨decimal | ⟨digits, rfl, -⟩, small⟩
      · exact ⟨decimal, small⟩
      · exact absurd rfl (unsignedToo digits)

/-! ### Hexadecimal numbers -/

theorem hexDigit?_of_isDigit {character : Char} (digit : character.isDigit = true) :
    (hexDigit? character).isSome = true := by
  rw [hexDigit?, if_pos digit, Option.isSome_some]

theorem hexDigit?_bounds {character : Char} (digit : (hexDigit? character).isSome = true) :
    48 ≤ character.toNat ∧ character.toNat ≤ 102 := by
  unfold hexDigit? at digit
  split at digit
  next decimal =>
    simp only [Char.isDigit, Bool.and_eq_true, decide_eq_true_eq] at decimal
    have lower : 48 ≤ character.toNat := decimal.1
    have upper : character.toNat ≤ 57 := decimal.2
    omega
  next =>
    split at digit
    next small =>
      simp only [Bool.and_eq_true, decide_eq_true_eq] at small
      have lower : 97 ≤ character.toNat := small.1
      have upper : character.toNat ≤ 102 := small.2
      omega
    next =>
      split at digit
      next large =>
        simp only [Bool.and_eq_true, decide_eq_true_eq] at large
        have lower : 65 ≤ character.toNat := large.1
        have upper : character.toNat ≤ 70 := large.2
        omega
      next => cases digit

theorem exists_hexDigits (value : Nat) :
    ∃ digits, (digitsOf 16 value).mapM hexDigit? = some digits ∧
      digits.foldl (fun read digit => read * 16 + digit) 0 = value := by
  induction value using Nat.strongRecOn with
  | ind value inductionHypothesis =>
      rw [digitsOf, Nat.toDigits_eq_if (by decide)]
      split
      next small => exact ⟨[value], by simp [hexDigit?_digitChar small], by simp⟩
      next large =>
          obtain ⟨digits, read, same⟩ := inductionHypothesis (value / 16) (by omega)
          have last : hexDigit? (value % 16).digitChar = some (value % 16) :=
            hexDigit?_digitChar (Nat.mod_lt value (by decide))
          refine ⟨digits ++ [value % 16], ?_, ?_⟩
          · rw [digitsOf] at read
            rw [List.mapM_append, read]
            simp [last]
          · rw [List.foldl_append, same, List.foldl_cons, List.foldl_nil]
            omega

end SplitDns.Text
