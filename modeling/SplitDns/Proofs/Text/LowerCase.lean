import SplitDns.Proofs.Dns.Keys
import SplitDns.Text.LowerCase

/-!
# Lower case twice

Every character of a lower-case form is its own lower-case form, wherever it stands: no entry of the
table leads to a character that the table changes, nor to the capital sigma whose form depends on
what is around it. So lower-casing a second time changes nothing. No entry leads to a blank
character either, so that lower-casing makes none.
-/

namespace SplitDns.Text

/-- A character that lower-casing leaves alone, whatever stands around it. -/
def IsLower (character : Char) : Prop :=
  character ≠ 'Σ' ∧ lowerChar character = [character]

instance (character : Char) : Decidable (IsLower character) :=
  inferInstanceAs (Decidable (_ ∧ _))

namespace CaseRun

variable {run other : CaseRun} {code lower : Nat}

/-- No value that a run gives is covered by another one: it lies beside it or between its steps. -/
def avoids (run other : CaseRun) : Bool :=
  other.last < run.target || run.target + (run.last - run.first) < other.first ||
    (other.step == 2 && (run.step == 2 || run.first == run.last) &&
      (run.target + other.first) % 2 == 1)

/-- A run leads to characters beyond the ASCII capitals that have no rule of their own. -/
def isPlain (run : CaseRun) : Bool :=
  let last := run.target + (run.last - run.first)
  97 ≤ run.target && (last < 0xD800 || (0xDFFF < run.target && last < 0x110000)) &&
    (last < 0x130 || 0x130 < run.target) && (last < 0x3A3 || 0x3A3 < run.target)

theorem exists_offset (covered : run.lower? code = some lower) :
    ∃ offset, lower = run.target + offset ∧ offset ≤ run.last - run.first ∧
      offset % run.step = 0 := by
  unfold lower? at covered
  split at covered
  next inside =>
    cases covered
    simp only [Bool.and_eq_true, decide_eq_true_eq, beq_iff_eq] at inside
    exact ⟨code - run.first, rfl, by omega, inside.2⟩
  next => cases covered

theorem lower?_of_avoids (apart : run.avoids other = true)
    (covered : run.lower? code = some lower) :
    other.lower? lower = none := by
  obtain ⟨offset, rfl, bound, onStep⟩ := exists_offset covered
  simp only [avoids, Bool.or_eq_true, Bool.and_eq_true, decide_eq_true_eq, beq_iff_eq] at apart
  unfold lower?
  rw [if_neg]
  simp only [Bool.and_eq_true, decide_eq_true_eq, beq_iff_eq]
  rintro ⟨⟨notBefore, notBehind⟩, onOther⟩
  rcases apart with (beside | beside) | ⟨⟨two, alsoTwo | single⟩, odd⟩
  · omega
  · omega
  · rw [two] at onOther
    rw [alsoTwo] at onStep
    omega
  · rw [two] at onOther
    omega

end CaseRun

/-- The table holds no chains. -/
theorem avoids_runs :
    (lowerCaseRuns.all fun run => lowerCaseRuns.all run.avoids) = true := by
  decide +kernel

theorem isPlain_runs : lowerCaseRuns.all CaseRun.isPlain = true := by
  decide +kernel

/-- The table leads to no blank character. -/
theorem isBlank_runs :
    (lowerCaseRuns.all fun run => (List.range (run.last - run.first + 1)).all fun offset =>
      !isBlank (Char.ofNat (run.target + offset))) = true := by
  decide +kernel

theorem lower?_of_lower? {run other : CaseRun} (inTable : run ∈ lowerCaseRuns)
    (otherInTable : other ∈ lowerCaseRuns) {code lower : Nat}
    (covered : run.lower? code = some lower) : other.lower? lower = none := by
  have apart := List.all_eq_true.mp avoids_runs run inTable
  exact CaseRun.lower?_of_avoids (List.all_eq_true.mp apart other otherInTable) covered

theorem bounds_of_lower? {run : CaseRun} (inTable : run ∈ lowerCaseRuns) {code lower : Nat}
    (covered : run.lower? code = some lower) :
    (Char.ofNat lower).toNat = lower ∧ 97 ≤ lower ∧ lower ≠ 0x130 ∧ lower ≠ 0x3A3 := by
  have plain := List.all_eq_true.mp isPlain_runs run inTable
  obtain ⟨offset, equal, bound, _⟩ := CaseRun.exists_offset covered
  simp only [CaseRun.isPlain, Bool.or_eq_true, Bool.and_eq_true, decide_eq_true_eq] at plain
  obtain ⟨⟨⟨noCapital, range⟩, notDotted⟩, notSigma⟩ := plain
  have valid : lower.isValidChar := by
    unfold Nat.isValidChar
    omega
  refine ⟨?_, by omega, by omega, by omega⟩
  rw [Char.ofNat, dif_pos valid]
  rfl

theorem isBlank_of_lower? {run : CaseRun} (inTable : run ∈ lowerCaseRuns) {code lower : Nat}
    (covered : run.lower? code = some lower) : isBlank (Char.ofNat lower) = false := by
  obtain ⟨offset, rfl, bound, _⟩ := CaseRun.exists_offset covered
  have solid := List.all_eq_true.mp (List.all_eq_true.mp isBlank_runs run inTable) offset
    (List.mem_range.mpr (Nat.lt_succ_of_le bound))
  simpa using solid

theorem isLower_of_lower? {run : CaseRun} (inTable : run ∈ lowerCaseRuns) {code lower : Nat}
    (covered : run.lower? code = some lower) : IsLower (Char.ofNat lower) := by
  obtain ⟨toNat, noCapital, notDotted, notSigma⟩ := bounds_of_lower? inTable covered
  refine ⟨?_, ?_⟩
  · intro sigma
    rw [sigma] at toNat
    exact notSigma toNat.symm
  · by_cases ascii : lower < 128
    · have small : (Char.ofNat lower).toLower = Char.ofNat lower := by
        apply Char.toNat_inj.mp
        rw [Dns.toNat_toLower, toNat]
        apply if_neg
        omega
      rw [lowerChar, toNat, if_pos ascii, small]
    · have uncovered : lowerCaseRuns.findSome? (·.lower? lower) = none := by
        rw [List.findSome?_eq_none_iff]
        intro other otherInTable
        exact lower?_of_lower? inTable otherInTable covered
      rw [lowerChar, toNat, if_neg ascii, if_neg notDotted, uncovered]

theorem isLower_of_mem_lowerChar {character lower : Char} (other : character ≠ 'Σ')
    (found : lower ∈ lowerChar character) : IsLower lower := by
  by_cases ascii : character.toNat < 128
  · rw [lowerChar, if_pos ascii, List.mem_singleton] at found
    subst found
    have small : character.toLower.toNat < 128 := by
      rw [Dns.toNat_toLower]
      split <;> omega
    refine ⟨?_, ?_⟩
    · intro sigma
      rw [sigma] at small
      revert small
      decide
    · rw [lowerChar, if_pos small, Dns.toLower_toLower]
  · by_cases dotted : character.toNat = 0x130
    · rw [lowerChar, if_neg ascii, if_pos dotted] at found
      rcases List.mem_cons.mp found with rfl | dot
      · decide
      · rw [List.mem_singleton.mp dot]
        decide +kernel
    · cases covered : lowerCaseRuns.findSome? (·.lower? character.toNat) with
      | some code =>
          rw [lowerChar, if_neg ascii, if_neg dotted, covered, List.mem_singleton] at found
          subst found
          obtain ⟨run, inTable, mapped⟩ := List.exists_of_findSome?_eq_some covered
          exact isLower_of_lower? inTable mapped
      | none =>
          have alone : lowerChar character = [character] := by
            rw [lowerChar, if_neg ascii, if_neg dotted, covered]
          rw [alone, List.mem_singleton] at found
          subst found
          exact ⟨other, alone⟩

theorem isLower_of_mem_lowerFrom {before text : List Char} {lower : Char}
    (found : lower ∈ lowerFrom before text) : IsLower lower := by
  induction text generalizing before with
  | nil => cases found
  | cons character rest inductionHypothesis =>
      rw [lowerFrom, List.mem_append] at found
      rcases found with here | later
      · by_cases sigma : character = 'Σ'
        · rw [if_pos sigma] at here
          split at here
          · rw [List.mem_singleton.mp here]
            decide +kernel
          · rw [List.mem_singleton.mp here]
            decide +kernel
        · rw [if_neg sigma] at here
          exact isLower_of_mem_lowerChar sigma here
      · exact inductionHypothesis later

theorem lowerFrom_eq_self {text : List Char} (lower : ∀ character ∈ text, IsLower character)
    (before : List Char) : lowerFrom before text = text := by
  induction text generalizing before with
  | nil => rfl
  | cons character rest inductionHypothesis =>
      obtain ⟨other, alone⟩ := lower character List.mem_cons_self
      rw [lowerFrom, if_neg other, alone,
        inductionHypothesis fun next found => lower next (List.mem_cons_of_mem _ found)]
      rfl

theorem lowerCase_lowerCase (text : List Char) :
    lowerCase (lowerCase text) = lowerCase text :=
  lowerFrom_eq_self (fun _ found => isLower_of_mem_lowerFrom found) []

/-! ### What is left where it was -/

/-- The lower-case form of no other character has it: a blank, or one before the small letters. -/
def IsUnmixed (character : Char) : Prop :=
  character.toNat < 97 ∨ isBlank character = true

instance (character : Char) : Decidable (IsUnmixed character) :=
  inferInstanceAs (Decidable (_ ∨ _))

theorem eq_of_mem_lowerChar {character lower : Char} (unmixed : IsUnmixed lower)
    (found : lower ∈ lowerChar character) : lower = character := by
  by_cases ascii : character.toNat < 128
  · rw [lowerChar, if_pos ascii, List.mem_singleton] at found
    subst found
    have code := Dns.toNat_toLower character
    split at code
    next capital =>
      rcases unmixed with small | blank
      · omega
      · rw [Dns.isBlank_toLower] at blank
        simp only [isBlank, Bool.or_eq_true, Bool.and_eq_true, decide_eq_true_eq, beq_iff_eq]
          at blank
        omega
    next => exact Char.toNat_inj.mp code
  · by_cases dotted : character.toNat = 0x130
    · rw [lowerChar, if_neg ascii, if_pos dotted] at found
      rcases List.mem_cons.mp found with rfl | dot
      · exact absurd unmixed (by decide)
      · rw [List.mem_singleton.mp dot] at unmixed
        exact absurd unmixed (by decide)
    · cases covered : lowerCaseRuns.findSome? (·.lower? character.toNat) with
      | some code =>
          rw [lowerChar, if_neg ascii, if_neg dotted, covered, List.mem_singleton] at found
          subst found
          obtain ⟨run, inTable, mapped⟩ := List.exists_of_findSome?_eq_some covered
          obtain ⟨toNat, noCapital, _⟩ := bounds_of_lower? inTable mapped
          rcases unmixed with small | blank
          · omega
          · rw [isBlank_of_lower? inTable mapped] at blank
            cases blank
      | none =>
          rw [lowerChar, if_neg ascii, if_neg dotted, covered, List.mem_singleton] at found
          exact found

theorem lowerChar_ne_nil (character : Char) : lowerChar character ≠ [] := by
  unfold lowerChar
  split
  · simp
  · split
    · simp
    · split <;> simp

theorem exists_lowerFrom_cons (before : List Char) (character : Char) (rest : List Char) :
    ∃ lowered, lowered ≠ [] ∧ (∀ lower ∈ lowered, IsUnmixed lower → lower = character) ∧
      lowerFrom before (character :: rest) = lowered ++ lowerFrom (character :: before) rest := by
  refine ⟨_, ?_, ?_, rfl⟩
  · split
    · split <;> exact List.cons_ne_nil _ _
    · exact lowerChar_ne_nil character
  · intro lower found unmixed
    split at found
    · split at found
      · rw [List.mem_singleton.mp found] at unmixed
        exact absurd unmixed (by decide)
      · rw [List.mem_singleton.mp found] at unmixed
        exact absurd unmixed (by decide)
    · exact eq_of_mem_lowerChar unmixed found

variable {before text : List Char} {lower : Char}

theorem lowerFrom_eq_nil_iff : lowerFrom before text = [] ↔ text = [] := by
  cases text with
  | nil => simp [lowerFrom]
  | cons character rest =>
      obtain ⟨lowered, filled, _, parts⟩ := exists_lowerFrom_cons before character rest
      simp [parts, filled]

theorem lowerCase_eq_nil_iff : lowerCase text = [] ↔ text = [] :=
  lowerFrom_eq_nil_iff

theorem mem_of_mem_lowerFrom (unmixed : IsUnmixed lower) (found : lower ∈ lowerFrom before text) :
    lower ∈ text := by
  induction text generalizing before with
  | nil => cases found
  | cons character rest inductionHypothesis =>
      obtain ⟨lowered, _, same, parts⟩ := exists_lowerFrom_cons before character rest
      rw [parts, List.mem_append] at found
      rcases found with here | later
      · exact same lower here unmixed ▸ List.mem_cons_self
      · exact List.mem_cons_of_mem character (inductionHypothesis later)

theorem head?_of_head?_lowerFrom (unmixed : IsUnmixed lower)
    (first : (lowerFrom before text).head? = some lower) : text.head? = some lower := by
  cases text with
  | nil => cases first
  | cons character rest =>
      obtain ⟨lowered, filled, same, parts⟩ := exists_lowerFrom_cons before character rest
      rw [parts, List.head?_append, Option.or_of_isSome (by simpa using filled)] at first
      rw [same lower (List.mem_of_head? first) unmixed]
      rfl

theorem getLast?_of_getLast?_lowerFrom (unmixed : IsUnmixed lower)
    (last : (lowerFrom before text).getLast? = some lower) : text.getLast? = some lower := by
  induction text generalizing before with
  | nil => cases last
  | cons character rest inductionHypothesis =>
      obtain ⟨lowered, filled, same, parts⟩ := exists_lowerFrom_cons before character rest
      rw [parts] at last
      by_cases longer : rest = []
      · subst longer
        rw [lowerFrom, List.append_nil] at last
        rw [same lower (List.mem_of_getLast? last) unmixed]
        rfl
      · have filledRest : lowerFrom (character :: before) rest ≠ [] :=
          mt lowerFrom_eq_nil_iff.mp longer
        rw [List.getLast?_append, Option.or_of_isSome (by simpa using filledRest)] at last
        rw [List.getLast?_cons_of_ne_nil longer]
        exact inductionHypothesis last

/-- A number sign at the start stays there. -/
theorem head?_lowerCase_numberSign (rest : List Char) :
    (lowerCase ('#' :: rest)).head? = some '#' := by
  have sign : lowerChar '#' = ['#'] := by decide +kernel
  rw [lowerCase, lowerFrom, if_neg (by decide), sign]
  rfl

/-! ### Capitals of ASCII -/

/-- Where only the letters A to Z are capital, lower-casing changes these alone. -/
theorem lowerCase_eq_asciiLower (plain : ∀ character ∈ text, IsLower character.toLower) :
    lowerCase text = asciiLower text := by
  have whole (before : List Char) : lowerFrom before text = asciiLower text := by
    induction text generalizing before with
    | nil => rfl
    | cons character rest inductionHypothesis =>
        obtain ⟨noSigma, alone⟩ := plain character List.mem_cons_self
        have other : character ≠ 'Σ' := by
          rintro rfl
          exact noSigma rfl
        have lowered : lowerChar character = [character.toLower] := by
          by_cases ascii : character.toNat < 128
          · rw [lowerChar, if_pos ascii]
          · have same : character.toLower = character := by
              apply Char.toNat_inj.mp
              rw [Dns.toNat_toLower]
              apply if_neg
              omega
            rw [same] at alone ⊢
            exact alone
        rw [lowerFrom, if_neg other, lowered,
          inductionHypothesis fun next found => plain next (List.mem_cons_of_mem _ found)]
        rfl
  exact whole []

end SplitDns.Text
