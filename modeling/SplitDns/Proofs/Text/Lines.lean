import SplitDns.Text.Blank
import SplitDns.Text.Lines

/-!
# Lines put together again

Lines that are each ended by a line feed are read back, up to a carriage return at their ends. What
is appended to a text that ends in a line feed, or that gets one, leaves the lines before it alone.
-/

namespace SplitDns.Text

variable {text line rest : List Char} {character : Char}

/-- A line as it is read back when a line feed ends it. -/
def dropReturn (line : List Char) : List Char :=
  if line.getLast? = some '\r' then line.dropLast else line

@[simp]
theorem dropReturn_nil : dropReturn [] = [] := rfl

theorem dropReturn_cons (longer : rest ≠ []) :
    dropReturn (character :: rest) = character :: dropReturn rest := by
  unfold dropReturn
  rw [List.getLast?_cons_of_ne_nil longer, List.dropLast_cons_of_ne_nil longer]
  split <;> rfl

theorem lines_cons_of_ne (noFeed : character ≠ '\n')
    (noReturn : ∀ after, ¬ (character = '\r' ∧ rest = '\n' :: after)) :
    lines (character :: rest) =
      match lines rest with
      | [] => [[character]]
      | line :: others => (character :: line) :: others := by
  apply lines.eq_4
  · exact noFeed
  · intro after isReturn equal
    exact noReturn after ⟨isReturn, equal⟩

theorem lines_append_lineFeed (noFeed : '\n' ∉ line) (rest : List Char) :
    lines (line ++ '\n' :: rest) = dropReturn line :: lines rest := by
  induction line with
  | nil => exact lines_lineFeed rest
  | cons character tail inductionHypothesis =>
      obtain ⟨other, later⟩ := not_or.mp (mt List.mem_cons.mpr noFeed)
      by_cases longer : tail = []
      · subst longer
        by_cases isReturn : character = '\r'
        · subst isReturn
          simp [lines, dropReturn]
        · rw [List.cons_append, List.nil_append, lines_cons_of_ne (Ne.symm other), lines_lineFeed]
          · simp [dropReturn, isReturn]
          · exact fun _ both => isReturn both.1
      · rw [List.cons_append, lines_cons_of_ne (Ne.symm other), inductionHypothesis later,
          dropReturn_cons longer]
        rintro after ⟨_, joined⟩
        cases tail with
        | nil => exact longer rfl
        | cons next tail =>
            have feed : next = '\n' := (List.cons.inj joined).1
            exact later (feed ▸ List.mem_cons_self)

theorem lines_flatMap_append {all : List (List Char)} (noFeed : ∀ line ∈ all, '\n' ∉ line)
    (rest : List Char) :
    lines (all.flatMap (· ++ ['\n']) ++ rest) = all.map dropReturn ++ lines rest := by
  induction all with
  | nil => rfl
  | cons line others inductionHypothesis =>
      have first := noFeed line List.mem_cons_self
      rw [List.flatMap_cons, List.append_assoc, List.append_assoc, List.singleton_append,
        lines_append_lineFeed first,
        inductionHypothesis fun other found => noFeed other (List.mem_cons_of_mem _ found)]
      rfl

/-- Lines that are each ended by a line feed are read back. -/
theorem lines_flatMap {all : List (List Char)} (noFeed : ∀ line ∈ all, '\n' ∉ line) :
    lines (all.flatMap (· ++ ['\n'])) = all.map dropReturn := by
  have whole := lines_flatMap_append noFeed []
  rwa [List.append_nil, lines_nil, List.append_nil] at whole

theorem lines_of_not_mem (noFeed : '\n' ∉ line) (filled : line ≠ []) : lines line = [line] := by
  induction line with
  | nil => exact absurd rfl filled
  | cons character rest inductionHypothesis =>
      obtain ⟨other, later⟩ := not_or.mp (mt List.mem_cons.mpr noFeed)
      have noReturn (after : List Char) : ¬ (character = '\r' ∧ rest = '\n' :: after) := by
        rintro ⟨_, equal⟩
        exact later (equal ▸ List.mem_cons_self)
      rw [lines_cons_of_ne (Ne.symm other) noReturn]
      by_cases longer : rest = []
      · rw [longer, lines_nil]
      · rw [inductionHypothesis later longer]

/-- Every text consists of lines that are ended by a line feed, and a part behind them. -/
theorem exists_lines (text : List Char) :
    ∃ (complete : List (List Char)) (line : List Char),
      text = complete.flatMap (· ++ ['\n']) ++ line ∧
      (∀ line ∈ complete, '\n' ∉ line) ∧ '\n' ∉ line := by
  induction text with
  | nil => exact ⟨[], [], rfl, by simp, by simp⟩
  | cons character rest inductionHypothesis =>
      obtain ⟨complete, line, equal, noFeed, noFeedLast⟩ := inductionHypothesis
      by_cases feed : character = '\n'
      · subst feed
        exact ⟨[] :: complete, line, by simp [equal], by simpa using noFeed, noFeedLast⟩
      · cases complete with
        | nil =>
            refine ⟨[], character :: line, by simp [equal], by simp, ?_⟩
            simp [noFeedLast, Ne.symm feed]
        | cons first others =>
            refine ⟨(character :: first) :: others, line, by simp [equal], ?_, noFeedLast⟩
            simpa [Ne.symm feed] using noFeed

/-- The part behind the lines is empty exactly if the text is, or if a line feed ends it. -/
theorem eq_nil_iff_of_lines (complete : List (List Char)) (noFeed : '\n' ∉ line) :
    line = [] ↔ complete.flatMap (· ++ ['\n']) ++ line = [] ∨
      (complete.flatMap (· ++ ['\n']) ++ line).getLast? = some '\n' := by
  constructor
  · intro empty
    rw [empty, List.append_nil]
    rcases List.eq_nil_or_concat complete with none | ⟨front, last, split⟩
    · exact .inl (by rw [none, List.flatMap_nil])
    · refine .inr ?_
      rw [split, List.concat_eq_append, List.flatMap_append, List.flatMap_singleton,
        ← List.append_assoc, List.getLast?_concat]
  · rintro (empty | last)
    · exact (List.append_eq_nil_iff.mp empty).2
    · apply Classical.byContradiction
      intro filled
      rw [List.getLast?_append, Option.or_of_isSome (by simpa using filled)] at last
      exact noFeed (List.mem_of_getLast? last)

/-! ### Blank ends -/

theorem dropTrailing_append {test : Char → Bool} (passes : test character = true)
    (text : List Char) : dropTrailing test (text ++ [character]) = dropTrailing test text := by
  unfold dropTrailing
  rw [List.reverse_append, List.reverse_singleton, List.singleton_append,
    List.dropWhile_cons_of_pos passes]

theorem trim_append_blank (blank : isBlank character = true) (text : List Char) :
    trim (text ++ [character]) = trim text := by
  unfold trim trimLeft
  rw [List.dropWhile_append]
  cases left : text.dropWhile isBlank with
  | nil => simp [blank]
  | cons first others =>
      simp only [List.isEmpty_cons, Bool.false_eq_true, if_false]
      exact dropTrailing_append blank (first :: others)

/-- What does not depend on a carriage return at the end is the same for a line as it is read. -/
theorem apply_dropReturn {Value : Type} {reading : List Char → Value}
    (same : ∀ front, reading (front ++ ['\r']) = reading front) (line : List Char) :
    reading (dropReturn line) = reading line := by
  unfold dropReturn
  split
  next last =>
    obtain ⟨front, rfl⟩ := List.getLast?_eq_some_iff.mp last
    rw [List.dropLast_concat, same]
  next => rfl

theorem trim_dropReturn (line : List Char) : trim (dropReturn line) = trim line :=
  apply_dropReturn (trim_append_blank (by decide)) line

/-- A line without the carriage returns at its end. -/
def withoutReturns (line : List Char) : List Char :=
  dropTrailing (· == '\r') line

theorem withoutReturns_dropReturn (line : List Char) :
    withoutReturns (dropReturn line) = withoutReturns line :=
  apply_dropReturn (dropTrailing_append (by decide)) line

end SplitDns.Text
