import Mathlib.Data.List.Basic
import SplitDns.Text.Blank
import SplitDns.Text.Search
import SplitDns.Text.Utf8

/-!
# Finding plain texts

A text of ASCII characters stands in what octets are read as exactly where its octets stand, even
if the octets are not all well formed. Blank characters around a text do not matter for what is
found in it.
-/

namespace SplitDns.Text

/-! ### ASCII -/

/-- A character that is written as one octet, and is not zero. -/
def IsAscii (character : Char) : Prop :=
  0 < character.toNat ∧ character.toNat < 128

instance (character : Char) : Decidable (IsAscii character) :=
  inferInstanceAs (Decidable (_ ∧ _))

/-- The octet of an ASCII character. -/
def asciiOctet (character : Char) : UInt8 :=
  UInt8.ofNat character.toNat

theorem toNat_asciiOctet {character : Char} (ascii : IsAscii character) :
    (asciiOctet character).toNat = character.toNat := by
  have bound := ascii.2
  rw [asciiOctet, UInt8.toNat_ofNat']
  omega

theorem lt_of_isAscii_ofNat {code : Nat} (ascii : IsAscii (Char.ofNat code)) : code < 128 := by
  by_cases valid : code.isValidChar
  · rw [Char.ofNat, dif_pos valid] at ascii
    exact ascii.2
  · rw [Char.ofNat, dif_neg valid] at ascii
    exact absurd ascii.1 (by decide)

theorem toNat_ofNat_of_lt {code : Nat} (bound : code < 128) : (Char.ofNat code).toNat = code := by
  have valid : code.isValidChar := .inl (by omega)
  rw [Char.ofNat, dif_pos valid]
  rfl

/-! ### Octets that are read as text -/

theorem isPrefix_continuation (lead : UInt8) (rest : List UInt8) :
    continuation lead rest <+: rest := by
  unfold continuation
  split
  next => exact List.nil_prefix
  next count _ =>
    split
    next => exact List.nil_prefix
    next second others taken =>
      split
      · have front : second :: others <+: rest := taken ▸ List.take_prefix count rest
        have short : second :: others.takeWhile (fun octet => 0x80 ≤ octet && octet ≤ 0xBF) <+:
            second :: others :=
          (List.prefix_cons_inj second).mpr (List.takeWhile_prefix _)
        exact short.trans front
      · exact List.nil_prefix


theorem le_secondRange (lead : UInt8) : 128 ≤ (secondRange lead).1.toNat := by
  unfold secondRange
  split
  · decide
  · split
    · decide
    · split
      · decide
      · split <;> decide

theorem le_of_mem_continuation {lead octet : UInt8} {rest : List UInt8}
    (found : octet ∈ continuation lead rest) : 128 ≤ octet.toNat := by
  unfold continuation at found
  split at found
  next => cases found
  next =>
    split at found
    next => cases found
    next second others _ =>
      split at found
      next inRange =>
        rcases List.mem_cons.mp found with rfl | later
        · rw [Bool.and_eq_true, decide_eq_true_eq, decide_eq_true_eq, UInt8.le_iff_toNat_le]
            at inRange
          exact Nat.le_trans (le_secondRange lead) inRange.1
        · have kept := List.all_eq_true.mp List.all_takeWhile octet later
          rw [Bool.and_eq_true, decide_eq_true_eq, decide_eq_true_eq, UInt8.le_iff_toNat_le] at kept
          exact kept.1
      next => cases found

/-- The second octet lies in the range that the leading octet allows. -/
theorem le_of_continuation_cons {lead second : UInt8} {rest others : List UInt8}
    (whole : continuation lead rest = second :: others) : (secondRange lead).1 ≤ second := by
  unfold continuation at whole
  split at whole
  next => cases whole
  next =>
    split at whole
    next => cases whole
    next head tail _ =>
      split at whole
      next inRange =>
        cases whole
        rw [Bool.and_eq_true, decide_eq_true_eq] at inRange
        exact inRange.1
      next => cases whole

/-- The leading octet says how many octets follow. -/
theorem followers?_cases {lead : UInt8} {count : Nat} (leads : followers? lead = some count) :
    lead.toNat < 128 ∧ count = 0 ∨ 0xC2 ≤ lead.toNat ∧ count = 1 ∨
      0xE0 ≤ lead.toNat ∧ count = 2 ∨ 0xF0 ≤ lead.toNat ∧ count = 3 := by
  simp only [followers?, UInt8.lt_iff_toNat_lt, UInt8.le_iff_toNat_le, Bool.and_eq_true,
    decide_eq_true_eq] at leads
  split at leads
  next small => exact .inl ⟨small, by simpa using leads.symm⟩
  next =>
    split at leads
    next inRange => exact .inr (.inl ⟨inRange.1, by simpa using leads.symm⟩)
    next =>
      split at leads
      next inRange => exact .inr (.inr (.inl ⟨inRange.1, by simpa using leads.symm⟩))
      next =>
        split at leads
        next inRange => exact .inr (.inr (.inr ⟨inRange.1, by simpa using leads.symm⟩))
        next => cases leads

/-- A second octet makes up for what the first leading octet of a length leaves out. -/
theorem le_second {lead second : UInt8} (inRange : (secondRange lead).1 ≤ second) :
    (lead.toNat = 0xE0 → 0xA0 ≤ second.toNat) ∧ (lead.toNat = 0xF0 → 0x90 ≤ second.toNat) := by
  constructor
  · intro equal
    have same : lead = 0xE0 := UInt8.toNat_inj.mp equal
    subst same
    exact UInt8.le_iff_toNat_le.mp inRange
  · intro equal
    have same : lead = 0xF0 := UInt8.toNat_inj.mp equal
    subst same
    exact UInt8.le_iff_toNat_le.mp inRange

/-- Octets beyond ASCII are never read as an ASCII character. -/
theorem not_isAscii_scalar {lead : UInt8} {rest : List UInt8} (beyond : 128 ≤ lead.toNat)
    (complete : followers? lead = some (continuation lead rest).length) :
    ¬ IsAscii (scalar (lead :: continuation lead rest)) := by
  intro ascii
  rcases followers?_cases complete with ⟨small, _⟩ | ⟨above, one⟩ | ⟨above, two⟩ | ⟨above, three⟩
  · omega
  · obtain ⟨second, whole⟩ := List.length_eq_one_iff.mp one
    rw [whole] at ascii
    have below := lt_of_isAscii_ofNat ascii
    omega
  · obtain ⟨second, third, whole⟩ := List.length_eq_two.mp two
    rw [whole] at ascii
    have below := lt_of_isAscii_ofNat ascii
    have large := (le_second (le_of_continuation_cons whole)).1
    omega
  · obtain ⟨second, third, fourth, whole⟩ := List.length_eq_three.mp three
    rw [whole] at ascii
    have below := lt_of_isAscii_ofNat ascii
    have large := (le_second (le_of_continuation_cons whole)).2
    omega

theorem lossyUtf8_cons (lead : UInt8) (rest : List UInt8) :
    lossyUtf8 (lead :: rest) =
      (if followers? lead = some (continuation lead rest).length then
        scalar (lead :: continuation lead rest)
      else Char.ofNat 0xFFFD) ::
        lossyUtf8 (rest.drop (continuation lead rest).length) := by
  rw [lossyUtf8]

theorem lossyUtf8_ascii {lead : UInt8} (small : lead.toNat < 128) (rest : List UInt8) :
    lossyUtf8 (lead :: rest) = Char.ofNat lead.toNat :: lossyUtf8 rest := by
  have alone : followers? lead = some 0 := if_pos (UInt8.lt_iff_toNat_lt.mpr small)
  have nothing : continuation lead rest = [] := by
    rw [continuation, alone]
    rfl
  rw [lossyUtf8_cons, nothing, List.length_nil, if_pos alone]
  rfl

/-- Octets beyond ASCII give one character beyond ASCII and are left behind together. -/
theorem exists_of_lossyUtf8_beyond {lead : UInt8} (beyond : 128 ≤ lead.toNat)
    (rest : List UInt8) :
    ∃ character skipped behind, ¬ IsAscii character ∧ rest = skipped ++ behind ∧
      (∀ octet ∈ skipped, 128 ≤ octet.toNat) ∧
      lossyUtf8 (lead :: rest) = character :: lossyUtf8 behind := by
  refine ⟨_, continuation lead rest, rest.drop (continuation lead rest).length, ?_, ?_, ?_,
    lossyUtf8_cons lead rest⟩
  · split
    next complete => exact not_isAscii_scalar beyond complete
    next => decide
  · exact (List.prefix_iff_eq_append.mp (isPrefix_continuation lead rest)).symm
  · exact fun octet found => le_of_mem_continuation found

/-! ### Plain texts in octets -/

variable {pattern : List Char}

theorem prefix_lossyUtf8_iff (ascii : ∀ character ∈ pattern, IsAscii character)
    (octets : List UInt8) :
    pattern <+: lossyUtf8 octets ↔ pattern.map asciiOctet <+: octets := by
  induction pattern generalizing octets with
  | nil => simp
  | cons character pattern inductionHypothesis =>
      have here := ascii character List.mem_cons_self
      have later := fun other found => ascii other (List.mem_cons_of_mem character found)
      cases octets with
      | nil => simp [lossyUtf8]
      | cons lead rest =>
          rw [List.map_cons, List.cons_prefix_cons]
          by_cases small : lead.toNat < 128
          · have same : character = Char.ofNat lead.toNat ↔ asciiOctet character = lead := by
              rw [← Char.toNat_inj, toNat_ofNat_of_lt small, ← UInt8.toNat_inj,
                toNat_asciiOctet here]
            rw [lossyUtf8_ascii small, List.cons_prefix_cons, inductionHypothesis later, same]
          · obtain ⟨other, _, behind, notAscii, _, _, read⟩ :=
              exists_of_lossyUtf8_beyond (Nat.le_of_not_lt small) rest
            rw [read, List.cons_prefix_cons]
            constructor
            · rintro ⟨rfl, _⟩
              exact absurd here notAscii
            · rintro ⟨rfl, _⟩
              rw [toNat_asciiOctet here] at small
              exact absurd here.2 small

/-- A plain text does not begin inside octets beyond ASCII. -/
theorem infix_append_iff_of_beyond {character : Char} (here : IsAscii character)
    {skipped : List UInt8} (beyond : ∀ octet ∈ skipped, 128 ≤ octet.toNat)
    (behind : List UInt8) :
    (character :: pattern).map asciiOctet <:+: skipped ++ behind ↔
      (character :: pattern).map asciiOctet <:+: behind := by
  induction skipped with
  | nil => rfl
  | cons octet skipped inductionHypothesis =>
      rw [List.cons_append, List.infix_cons_iff,
        inductionHypothesis fun other found => beyond other (List.mem_cons_of_mem octet found)]
      refine or_iff_right ?_
      rw [List.map_cons, List.cons_prefix_cons]
      rintro ⟨rfl, _⟩
      have large := beyond _ List.mem_cons_self
      rw [toNat_asciiOctet here] at large
      exact absurd here.2 (Nat.not_lt_of_le large)

/-- A plain text stands in what octets are read as exactly where its own octets stand. -/
theorem infix_lossyUtf8_iff (ascii : ∀ character ∈ pattern, IsAscii character)
    (octets : List UInt8) :
    pattern <:+: lossyUtf8 octets ↔ pattern.map asciiOctet <:+: octets := by
  cases pattern with
  | nil => simp
  | cons character pattern =>
      have here := ascii character List.mem_cons_self
      -- Octets beyond ASCII are taken several at a time, so the induction is on their number.
      generalize size : octets.length = count
      induction count using Nat.strongRecOn generalizing octets with
      | ind count inductionHypothesis =>
          cases octets with
          | nil => simp [lossyUtf8]
          | cons lead rest =>
              have front := prefix_lossyUtf8_iff ascii (lead :: rest)
              rw [List.length_cons] at size
              rw [List.infix_cons_iff (a := lead), ← front]
              by_cases small : lead.toNat < 128
              · have later : character :: pattern <:+: lossyUtf8 rest ↔ _ :=
                  inductionHypothesis rest.length (by omega) rest rfl
                rw [lossyUtf8_ascii small, List.infix_cons_iff, later]
              · obtain ⟨other, skipped, behind, notAscii, whole, beyond, read⟩ :=
                  exists_of_lossyUtf8_beyond (Nat.le_of_not_lt small) rest
                have shorter : behind.length < count := by
                  rw [← size, whole, List.length_append]
                  omega
                have later : character :: pattern <:+: lossyUtf8 behind ↔ _ :=
                  inductionHypothesis behind.length shorter behind rfl
                rw [read, List.infix_cons_iff, later, whole,
                  infix_append_iff_of_beyond here beyond]

/-! ### Texts without blanks at their ends -/

theorem infix_dropWhile_iff {test : Char → Bool}
    (first : ∃ character, pattern.head? = some character ∧ test character = false)
    (text : List Char) : pattern <:+: text.dropWhile test ↔ pattern <:+: text := by
  obtain ⟨character, begins, kept⟩ := first
  induction text with
  | nil => rfl
  | cons head rest inductionHypothesis =>
      by_cases dropped : test head = true
      · rw [List.dropWhile_cons_of_pos dropped, inductionHypothesis, List.infix_cons_iff]
        refine (or_iff_right ?_).symm
        rintro ⟨behind, whole⟩
        have same : (head :: rest).head? = some character := by
          rw [← whole, List.head?_append, begins, Option.some_or]
        rw [Option.some.inj same, kept] at dropped
        cases dropped
      · rw [List.dropWhile_cons_of_neg dropped]

theorem infix_dropTrailing_iff {test : Char → Bool}
    (last : ∃ character, pattern.getLast? = some character ∧ test character = false)
    (text : List Char) : pattern <:+: dropTrailing test text ↔ pattern <:+: text := by
  rw [← List.head?_reverse] at last
  rw [dropTrailing, ← List.reverse_infix, List.reverse_reverse, infix_dropWhile_iff last,
    List.reverse_infix]

/-- Trimming leaves alone what has no blank character at either end. -/
theorem infix_trim_iff
    (first : ∃ character, pattern.head? = some character ∧ isBlank character = false)
    (last : ∃ character, pattern.getLast? = some character ∧ isBlank character = false)
    (text : List Char) : pattern <:+: trim text ↔ pattern <:+: text := by
  rw [trim, trimRight, infix_dropTrailing_iff last, trimLeft, infix_dropWhile_iff first]

end SplitDns.Text
