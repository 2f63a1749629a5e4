/-!
# Lines

A text is cut after each line feed. A carriage return right before a line feed belongs to the
line end, and a text that ends in a line feed has no empty last line.
-/

namespace SplitDns.Text

/-- The lines of a text without their line ends. -/
def lines : List Char → List (List Char)
  | [] => []
  | '\n' :: rest => [] :: lines rest
  | '\r' :: '\n' :: rest => [] :: lines rest
  | character :: rest =>
      match lines rest with
      | [] => [[character]]
      | line :: others => (character :: line) :: others

@[simp]
theorem lines_nil : lines [] = [] := by simp [lines]

@[simp]
theorem lines_lineFeed (rest : List Char) : lines ('\n' :: rest) = [] :: lines rest := by
  simp [lines]

/-- No line holds a line feed. -/
theorem not_mem_of_mem_lines {text line : List Char} (found : line ∈ lines text) :
    '\n' ∉ line := by
  fun_induction lines text generalizing line with
  | case1 => simp at found
  | case2 rest inductionHypothesis =>
      rcases List.mem_cons.mp found with rfl | later
      · simp
      · exact inductionHypothesis later
  | case3 rest inductionHypothesis =>
      rcases List.mem_cons.mp found with rfl | later
      · simp
      · exact inductionHypothesis later
  | case4 character rest notFeed notReturn none inductionHypothesis =>
      simp only [List.mem_singleton] at found
      subst found
      simpa using fun equal => notFeed equal.symm
  | case5 character rest notFeed notReturn first others split inductionHypothesis =>
      rw [split] at inductionHypothesis
      rcases List.mem_cons.mp found with rfl | later
      · have inFirst := inductionHypothesis (List.mem_cons_self)
        simp only [List.mem_cons, not_or]
        exact ⟨fun equal => notFeed equal.symm, inFirst⟩
      · exact inductionHypothesis (List.mem_cons_of_mem _ later)

end SplitDns.Text
