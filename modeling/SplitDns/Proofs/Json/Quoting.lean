import SplitDns.Json.Text

/-!
# Quoted texts are read back

Every escape is read as the character it stands for, so that `unquote?` takes back a quoted text
and leaves what follows it.
-/

namespace SplitDns.Json

variable {character : Char} {digits rest : List Char} {value : Nat}

/-! ### Escapes by code -/

/-- Digits that are all read leave what follows them. -/
theorem readUnit?_append (read : readUnit? digits = some (value, [])) (rest : List Char) :
    readUnit? (digits ++ rest) = some (value, rest) := by
  match digits, read with
  | a :: b :: c :: d :: after, read =>
      simp only [readUnit?, bind, Option.bind_eq_some_iff, pure, Option.some.injEq,
        Prod.mk.injEq] at read
      obtain ⟨first, readFirst, second, readSecond, third, readThird, fourth, readFourth, sum,
        rfl⟩ := read
      simp [readUnit?, readFirst, readSecond, readThird, readFourth, sum]

theorem readUnit?_fourDigits (control : value < 0x20) (rest : List Char) :
    readUnit? (fourDigits value ++ rest) = some (value, rest) := by
  have all : ∀ code < 0x20, readUnit? (fourDigits code) = some (code, []) := by
    decide
  exact readUnit?_append (all value control) rest

theorem readEscapedUnit?_fourDigits (control : character.toNat < 0x20) (rest : List Char) :
    readEscapedUnit? (fourDigits character.toNat ++ rest) = some (character, rest) := by
  have noHigh : isHighUnit character.toNat = false := by
    simp only [isHighUnit, Bool.and_eq_false_iff, decide_eq_false_iff_not]
    omega
  have noLow : isLowUnit character.toNat = false := by
    simp only [isLowUnit, Bool.and_eq_false_iff, decide_eq_false_iff_not]
    omega
  rw [readEscapedUnit?, readUnit?_fourDigits control]
  simp [noHigh, noLow, Char.ofNat_toNat]

/-! ### Texts -/

theorem unquoteRest?_escapeChar (character : Char) (rest : List Char) :
    unquoteRest? (escapeChar character ++ rest) =
      (unquoteRest? rest).map fun read => (character :: read.1, read.2) := by
  unfold escapeChar
  split
  case h_8 noQuote noBackslash _ _ _ _ _ =>
    by_cases control : character.toNat < 0x20
    · rw [if_pos control, List.cons_append, List.cons_append, unquoteRest?]
      split
      next none => rw [readEscapedUnit?_fourDigits control] at none; cases none
      next found =>
        rw [readEscapedUnit?_fourDigits control] at found
        cases found
        rfl
    · have plain : (character = '\\' || decide (character.toNat < 0x20)) = false := by
        simp [control, mt noBackslash not_false]
      rw [if_neg control, List.singleton_append, unquoteRest?, plain, if_neg Bool.false_ne_true]
      · exact noQuote
      · exact fun _ equal => absurd equal noBackslash
      · exact fun _ _ equal => absurd equal noBackslash
  all_goals
    rw [List.cons_append, List.cons_append, List.nil_append, unquoteRest?]
    all_goals simp [shortEscape?]

theorem unquoteRest?_quote (text rest : List Char) :
    unquoteRest? (text.flatMap escapeChar ++ '"' :: rest) = some (text, rest) := by
  induction text with
  | nil => rw [List.flatMap_nil, List.nil_append, unquoteRest?]
  | cons character others inductionHypothesis =>
      rw [List.flatMap_cons, List.append_assoc, unquoteRest?_escapeChar, inductionHypothesis,
        Option.map_some]

/-- A quoted text is read back, whatever follows it. -/
@[simp]
theorem unquote?_quote (text : String) (rest : List Char) :
    unquote? (quote text ++ rest) = some (text, rest) := by
  rw [quote, List.cons_append, List.cons_append, List.append_assoc, List.singleton_append, unquote?,
    unquoteRest?_quote, Option.map_some, String.ofList_toList]

/-! ### White space -/

/-- The character is no white space of the format. -/
def isSolid (character : Char) : Bool :=
  character != ' ' && character != '\n' && character != '\t' && character != '\r'

theorem skipSpace_cons (solid : isSolid character = true) (rest : List Char) :
    skipSpace (character :: rest) = character :: rest := by
  apply List.dropWhile_cons_of_neg
  simp only [isSolid, Bool.and_eq_true, bne_iff_ne] at solid
  simp [solid]

theorem skipSpace_append {blank : List Char} (blanks : ∀ other ∈ blank, isSolid other = false)
    (rest : List Char) : skipSpace (blank ++ rest) = skipSpace rest := by
  apply List.dropWhile_append_of_pos
  intro other inBlank
  have soft := blanks other inBlank
  simp only [isSolid] at soft
  grind

end SplitDns.Json
