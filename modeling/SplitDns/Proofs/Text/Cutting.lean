import SplitDns.Text.Search

/-!
# Cutting texts

Cutting at a separator takes joining back, where no part has the separator. A cut at one separator
cuts each of its two sides; the first cut is behind the first part, and the last cut before the
last one. What has no separator stands in one of the parts.
-/

namespace SplitDns.Text

variable {separator : Char} {text part pattern : List Char}

theorem split_of_not_mem (free : separator ∉ text) :
    split separator text = [text] := by
  induction text with
  | nil => rfl
  | cons character rest inductionHypothesis =>
      have other := List.ne_of_not_mem_cons free
      have restFree := List.not_mem_of_not_mem_cons free
      rw [split, if_neg (Ne.symm other), inductionHypothesis restFree]

/-- A separator cuts a text into what its two sides are cut into. -/
theorem split_append_separator (front back : List Char) :
    split separator (front ++ separator :: back) =
      split separator front ++ split separator back := by
  induction front with
  | nil => simp [split]
  | cons character rest inductionHypothesis =>
      rw [List.cons_append, split, split, inductionHypothesis]
      split
      · rw [List.cons_append]
      · cases parts : split separator rest with
        | nil => exact absurd parts (split_ne_nil separator rest)
        | cons first others => simp only [List.cons_append]

theorem split_append (free : separator ∉ part) (rest : List Char) :
    split separator (part ++ separator :: rest) = part :: split separator rest := by
  rw [split_append_separator, split_of_not_mem free, List.singleton_append]

/-- Cutting at a separator takes joining back, where no part has the separator. -/
theorem split_join {parts : List (List Char)} (some : parts ≠ [])
    (free : ∀ part ∈ parts, separator ∉ part) :
    split separator (join [separator] parts) = parts := by
  induction parts with
  | nil => exact absurd rfl some
  | cons part rest inductionHypothesis =>
      have partFree := free part List.mem_cons_self
      cases rest with
      | nil => exact split_of_not_mem partFree
      | cons second others =>
          rw [join, List.append_assoc, List.singleton_append, split_append partFree,
            inductionHypothesis (List.cons_ne_nil second others) fun other found =>
              free other (List.mem_cons_of_mem part found)]
          simp

theorem mem_join {character : Char} {separator : List Char} {parts : List (List Char)}
    (found : character ∈ join separator parts) :
    character ∈ separator ∨ ∃ part ∈ parts, character ∈ part := by
  induction parts with
  | nil => cases found
  | cons part rest inductionHypothesis =>
      cases rest with
      | nil => exact .inr ⟨part, List.mem_cons_self, found⟩
      | cons second others =>
          rw [join, List.append_assoc, List.mem_append, List.mem_append] at found
          · rcases found with inPart | inSeparator | later
            · exact .inr ⟨part, List.mem_cons_self, inPart⟩
            · exact .inl inSeparator
            · rcases inductionHypothesis later with inSeparator | ⟨other, inRest, inOther⟩
              · exact .inl inSeparator
              · exact .inr ⟨other, List.mem_cons_of_mem _ inRest, inOther⟩
          · simp

theorem not_mem_of_mem_split (found : part ∈ split separator text) : separator ∉ part := by
  induction text generalizing part with
  | nil =>
      rw [split, List.mem_singleton] at found
      rw [found]
      exact List.not_mem_nil
  | cons character rest inductionHypothesis =>
      rw [split] at found
      split at found
      next =>
        rcases List.mem_cons.mp found with rfl | later
        · exact List.not_mem_nil
        · exact inductionHypothesis later
      next other =>
        cases parts : split separator rest with
        | nil => exact absurd parts (split_ne_nil separator rest)
        | cons first others =>
            simp only [parts, List.mem_cons] at found
            rw [parts] at inductionHypothesis
            rcases found with rfl | later
            · rintro (_ | ⟨_, inFirst⟩)
              · exact other rfl
              · exact inductionHypothesis List.mem_cons_self inFirst
            · exact inductionHypothesis (List.mem_cons_of_mem first later)

theorem mem_of_mem_split (separator : Char) {character : Char} (found : character ∈ text) :
    character = separator ∨ ∃ part ∈ split separator text, character ∈ part := by
  rw [← join_split separator text] at found
  exact (mem_join found).imp_left List.mem_singleton.mp

theorem cutFirst?_append {front : List Char} (free : separator ∉ front) (back : List Char) :
    cutFirst? separator (front ++ separator :: back) = some (front, back) := by
  induction front with
  | nil => rw [List.nil_append, cutFirst?, if_pos rfl]
  | cons character rest inductionHypothesis =>
      have other := List.ne_of_not_mem_cons free
      rw [List.cons_append, cutFirst?, if_neg (Ne.symm other),
        inductionHypothesis (List.not_mem_of_not_mem_cons free), Option.map_some]

theorem cutFirst?_of_not_mem (free : separator ∉ text) : cutFirst? separator text = none := by
  induction text with
  | nil => rfl
  | cons character rest inductionHypothesis =>
      have other := List.ne_of_not_mem_cons free
      rw [cutFirst?, if_neg (Ne.symm other),
        inductionHypothesis (List.not_mem_of_not_mem_cons free), Option.map_none]

theorem not_mem_of_cutFirst? {front back : List Char}
    (found : cutFirst? separator text = some (front, back)) : separator ∉ front := by
  induction text generalizing front with
  | nil => cases found
  | cons character rest inductionHypothesis =>
      rw [cutFirst?] at found
      split at found
      next =>
        cases found
        exact List.not_mem_nil
      next other =>
        obtain ⟨⟨first, last⟩, cut, same⟩ := Option.map_eq_some_iff.mp found
        cases same
        exact List.not_mem_cons_of_ne_of_not_mem (Ne.symm other) (inductionHypothesis cut)

theorem cutLast?_append {back : List Char} (free : separator ∉ back) (front : List Char) :
    cutLast? separator (front ++ separator :: back) = some (front, back) := by
  have reversed : (front ++ separator :: back).reverse =
      back.reverse ++ separator :: front.reverse := by
    simp
  rw [cutLast?, reversed, cutFirst?_append (by simpa using free), Option.map_some,
    List.reverse_reverse, List.reverse_reverse]

theorem eq_of_cutLast? {front back : List Char}
    (found : cutLast? separator text = some (front, back)) :
    text = front ++ separator :: back := by
  obtain ⟨⟨last, first⟩, cut, same⟩ := Option.map_eq_some_iff.mp found
  cases same
  rw [← List.reverse_reverse text, eq_of_cutFirst? cut, List.reverse_append, List.reverse_cons,
    List.append_assoc, List.singleton_append]

/-! ### Texts in the parts -/

theorem prefix_append_separator_iff (free : separator ∉ pattern) (front back : List Char) :
    pattern <+: front ++ separator :: back ↔ pattern <+: front := by
  induction front generalizing pattern with
  | nil =>
      cases pattern with
      | nil => simp
      | cons character rest =>
          have other := List.ne_of_not_mem_cons free
          simp [Ne.symm other]
  | cons first others inductionHypothesis =>
      cases pattern with
      | nil => simp
      | cons character rest =>
          rw [List.cons_append, List.cons_prefix_cons, List.cons_prefix_cons,
            inductionHypothesis (List.not_mem_of_not_mem_cons free)]

/-- A text without the separator stands on one side of it. -/
theorem infix_append_separator_iff (free : separator ∉ pattern) (front back : List Char) :
    pattern <:+: front ++ separator :: back ↔ pattern <:+: front ∨ pattern <:+: back := by
  induction front with
  | nil =>
      have first := prefix_append_separator_iff free [] back
      rw [List.nil_append] at first
      rw [List.nil_append, List.infix_cons_iff, first, List.prefix_nil, List.infix_nil]
  | cons character rest inductionHypothesis =>
      have first := prefix_append_separator_iff free (character :: rest) back
      rw [List.cons_append] at first
      rw [List.cons_append, List.infix_cons_iff, first, inductionHypothesis,
        List.infix_cons_iff, or_assoc]

/-- A text without the separator stands in one of the parts. -/
theorem infix_iff_exists_split (free : separator ∉ pattern) (text : List Char) :
    pattern <:+: text ↔ ∃ part ∈ split separator text, pattern <:+: part := by
  have joined {parts : List (List Char)} (filled : parts ≠ []) :
      pattern <:+: join [separator] parts ↔ ∃ part ∈ parts, pattern <:+: part := by
    induction parts with
    | nil => exact absurd rfl filled
    | cons part rest inductionHypothesis =>
        cases rest with
        | nil => simp [join]
        | cons second others =>
            rw [join, List.append_assoc, List.singleton_append,
              infix_append_separator_iff free, inductionHypothesis (List.cons_ne_nil _ _)]
            · simp only [List.mem_cons, exists_eq_or_imp]
            · exact List.cons_ne_nil _ _
  have parts := joined (split_ne_nil separator text)
  rwa [join_split] at parts

end SplitDns.Text
