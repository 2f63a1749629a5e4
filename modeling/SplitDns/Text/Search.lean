/-!
# Searching and cutting texts

Substring tests, and cuts at a separator character. `containsText_iff` ties the test to the
infix order of lists, and `intercalate_split` says that a cut loses nothing.
-/

namespace SplitDns.Text

/-- Whether `pattern` stands somewhere in `text`. -/
def containsText (text pattern : List Char) : Bool :=
  pattern.isPrefixOf text ||
    match text with
    | [] => false
    | _ :: rest => containsText rest pattern

theorem containsText_iff {text pattern : List Char} :
    containsText text pattern = true ↔ pattern <:+: text := by
  induction text with
  | nil => simp [containsText]
  | cons character rest inductionHypothesis =>
      rw [containsText, Bool.or_eq_true, List.isPrefixOf_iff_prefix, inductionHypothesis,
        List.infix_cons_iff]

/-- The parts of a text between the occurrences of a separator. -/
def split (separator : Char) : List Char → List (List Char)
  | [] => [[]]
  | character :: rest =>
      if character = separator then
        [] :: split separator rest
      else
        match split separator rest with
        | [] => [[character]]
        | part :: parts => (character :: part) :: parts

/-- Joins the parts of a text with a separator between them. -/
def join (separator : List Char) : List (List Char) → List Char
  | [] => []
  | [part] => part
  | part :: parts => part ++ separator ++ join separator parts

theorem split_ne_nil (separator : Char) (text : List Char) : split separator text ≠ [] := by
  induction text with
  | nil => simp [split]
  | cons character rest inductionHypothesis =>
      unfold split
      split
      · simp
      · split <;> simp

/-- Joining the parts gives the text back. -/
theorem join_split (separator : Char) (text : List Char) :
    join [separator] (split separator text) = text := by
  induction text with
  | nil => simp [split, join]
  | cons character rest inductionHypothesis =>
      unfold split
      split
      next equal =>
        subst equal
        cases parts : split character rest with
        | nil => exact absurd parts (split_ne_nil _ _)
        | cons part others =>
            rw [parts] at inductionHypothesis
            simp [join, inductionHypothesis]
      next =>
        cases parts : split separator rest with
        | nil => exact absurd parts (split_ne_nil _ _)
        | cons part others =>
            rw [parts] at inductionHypothesis
            cases others with
            | nil => simpa [join] using inductionHypothesis
            | cons second others => simpa [join] using inductionHypothesis

/-- The parts before and after the first occurrence of a separator. -/
def cutFirst? (separator : Char) : List Char → Option (List Char × List Char)
  | [] => none
  | character :: rest =>
      if character = separator then some ([], rest)
      else (cutFirst? separator rest).map fun parts => (character :: parts.1, parts.2)

/-- The parts before and after the last occurrence of a separator. -/
def cutLast? (separator : Char) (text : List Char) : Option (List Char × List Char) :=
  (cutFirst? separator text.reverse).map fun parts => (parts.2.reverse, parts.1.reverse)

theorem eq_of_cutFirst? {separator : Char} {text before after : List Char}
    (found : cutFirst? separator text = some (before, after)) :
    text = before ++ separator :: after := by
  induction text generalizing before with
  | nil => simp [cutFirst?] at found
  | cons character rest inductionHypothesis =>
      unfold cutFirst? at found
      split at found
      next equal =>
        simp only [Option.some.injEq, Prod.mk.injEq] at found
        simp [← found.1, ← found.2, equal]
      next =>
        obtain ⟨⟨front, back⟩, cut, equal⟩ := Option.map_eq_some_iff.mp found
        simp only [Prod.mk.injEq] at equal
        obtain ⟨rfl, rfl⟩ := equal
        rw [inductionHypothesis cut, List.cons_append]

end SplitDns.Text
