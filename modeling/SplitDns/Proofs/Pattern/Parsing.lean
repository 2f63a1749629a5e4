import Mathlib.Data.List.Basic
import Mathlib.Data.List.Induction
import SplitDns.Pattern.File
import SplitDns.Proofs.Text.Lines
import SplitDns.Proofs.Text.LowerCase
import SplitDns.Proofs.Text.Trimming

/-!
# The patterns of edited files

A pattern that was accepted is read back from a line of its own. So a file to which it is appended
holds it behind all others, and a file from which it is removed holds all others in their order,
however the lines were ended and however the pattern was written.
-/

namespace SplitDns.Pattern

open SplitDns.Text

variable {text line pattern other : List Char}

/-! ### Patterns on lines -/

/-- A pattern in the form in which it is read back from a file. -/
structure Proper (pattern : List Char) : Prop where
  filled : pattern ≠ []
  noComment : pattern.head? ≠ some '#'
  noBlank : ∀ character ∈ pattern, isBlank character = false
  lower : lowerCase pattern = pattern

theorem proper_of_normalize {given accepted : String} (normal : normalize given = .ok accepted) :
    Proper accepted.toList := by
  unfold normalize at normal
  simp only at normal
  split at normal
  · cases normal
  next filled =>
    split at normal
    · cases normal
    next noComment =>
      split at normal
      · cases normal
      next noBlank =>
        cases normal
        rw [String.toList_ofList]
        refine ⟨by simpa using filled, noComment, ?_, lowerCase_lowerCase _⟩
        simpa using noBlank

theorem Proper.canonical (proper : Proper pattern) : canonical pattern = pattern := by
  have solid : Solid pattern := proper.noBlank
  rw [Pattern.canonical, solid.trim_eq, proper.lower]

theorem Proper.normalize_eq {accepted : String} (proper : Proper accepted.toList) :
    normalize accepted = .ok accepted := by
  have noBlank : accepted.toList.any isBlank = false := by
    simpa using proper.noBlank
  simp only [normalize, proper.canonical, List.isEmpty_iff, if_neg proper.filled,
    if_neg proper.noComment, noBlank, Bool.false_eq_true, if_false, String.ofList_toList]

theorem Proper.noFeed (proper : Proper pattern) : '\n' ∉ pattern := by
  intro found
  have visible := proper.noBlank '\n' found
  revert visible
  decide

/-- A line holds a pattern if it equals it apart from blank ends and letter case. -/
theorem Proper.ofLine?_eq_some_iff (proper : Proper pattern) :
    ofLine? line = some pattern ↔ Pattern.canonical line = pattern := by
  unfold ofLine? Pattern.canonical
  split
  next empty =>
    rw [empty]
    exact ⟨nofun, fun equal => absurd equal.symm proper.filled⟩
  next rest comment =>
    rw [comment]
    refine ⟨nofun, fun equal => absurd ?_ proper.noComment⟩
    rw [← equal]
    exact head?_lowerCase_numberSign rest
  next => exact Option.some_inj

theorem ofLine?_dropReturn (line : List Char) : ofLine? (dropReturn line) = ofLine? line := by
  rw [ofLine?, ofLine?, trim_dropReturn]

/-- One of the lines holds the pattern. -/
def Holds (all : List (List Char)) (pattern : List Char) : Prop :=
  ∃ line ∈ all, ofLine? line = some pattern

/-- Without the lines that equal a pattern, all other patterns are left. -/
theorem Proper.filterMap_filter (proper : Proper pattern) (all : List (List Char)) :
    (all.filter fun line => Pattern.canonical line ≠ pattern).filterMap ofLine? =
      (all.filterMap ofLine?).filter (· ≠ pattern) := by
  rw [List.filterMap_filter, List.filter_filterMap]
  refine List.filterMap_congr fun line _ => ?_
  by_cases equal : Pattern.canonical line = pattern
  · rw [proper.ofLine?_eq_some_iff.mpr equal]
    simp [equal, Option.filter]
  · have other := mt proper.ofLine?_eq_some_iff.mp equal
    cases held : ofLine? line with
    | none => simp
    | some found =>
        rw [held, Option.some_inj] at other
        simp [equal, other, Option.filter]

theorem filterMap_map_dropReturn (all : List (List Char)) :
    (all.map dropReturn).filterMap ofLine? = all.filterMap ofLine? := by
  rw [List.filterMap_map]
  exact List.filterMap_congr fun line _ => ofLine?_dropReturn line

/-! ### The first of equal patterns -/

theorem mem_ite_concat {kept : List (List Char)} {item other : List Char} :
    other ∈ (if item ∈ kept then kept else kept ++ [item]) ↔ other ∈ kept ∨ other = item := by
  split
  next known =>
    refine ⟨.inl, ?_⟩
    rintro (found | rfl)
    · exact found
    · exact known
  next => rw [List.mem_append, List.mem_singleton]

theorem distinct_concat (items : List (List Char)) (item : List Char) :
    distinct (items ++ [item]) =
      if item ∈ distinct items then distinct items else distinct items ++ [item] := by
  simp only [← List.contains_iff_mem]
  rw [distinct, List.foldl_append]
  rfl

theorem mem_distinct {items : List (List Char)} {item : List Char} :
    item ∈ distinct items ↔ item ∈ items := by
  induction items using List.reverseRecOn with
  | nil => rfl
  | append_singleton items last inductionHypothesis =>
      rw [distinct_concat, mem_ite_concat, inductionHypothesis, List.mem_append,
        List.mem_singleton]

theorem distinct_filter (test : List Char → Bool) (items : List (List Char)) :
    distinct (items.filter test) = (distinct items).filter test := by
  induction items using List.reverseRecOn with
  | nil => rfl
  | append_singleton items item inductionHypothesis =>
      rw [List.filter_append, distinct_concat]
      cases passes : test item with
      | true =>
          -- an item that passes is known among those that pass if it is known at all
          have kept : item ∈ (distinct items).filter test ↔ item ∈ distinct items := by
            simp [passes]
          rw [List.filter_cons_of_pos passes, List.filter_nil, distinct_concat,
            inductionHypothesis]
          simp only [kept]
          split
          · rfl
          · rw [List.filter_append, List.filter_cons_of_pos passes, List.filter_nil]
      | false =>
          rw [List.filter_cons_of_neg (by simp [passes]), List.filter_nil, List.append_nil,
            inductionHypothesis]
          split
          · rfl
          · simp [passes]

/-! ### Patterns of a text -/

theorem mem_parseChars : pattern ∈ parseChars text ↔ Holds (lines text) pattern := by
  rw [parseChars, mem_distinct, List.mem_filterMap, Holds]

theorem ne_nil_of_mem_parseChars (found : pattern ∈ parseChars text) : pattern ≠ [] := by
  obtain ⟨line, _, held⟩ := mem_parseChars.mp found
  unfold ofLine? at held
  split at held
  · cases held
  · cases held
  next filled _ =>
    cases held
    exact mt lowerCase_eq_nil_iff.mp filled

theorem parseChars_flatMap {all : List (List Char)} (noFeed : ∀ line ∈ all, '\n' ∉ line) :
    parseChars (all.flatMap (· ++ ['\n'])) = distinct (all.filterMap ofLine?) := by
  rw [parseChars, lines_flatMap noFeed, filterMap_map_dropReturn]

/-- A line that is its own pattern is a file with this pattern. -/
theorem parseChars_of_ofLine? (noFeed : '\n' ∉ pattern) (held : ofLine? pattern = some pattern) :
    parseChars pattern = [pattern] := by
  have filled : pattern ≠ [] := by
    rintro rfl
    cases held
  rw [parseChars, lines_of_not_mem noFeed filled, List.filterMap_cons, held]
  rfl

theorem Proper.ofLine?_eq (proper : Proper pattern) : ofLine? pattern = some pattern :=
  proper.ofLine?_eq_some_iff.mpr proper.canonical

/-! ### Edits -/

theorem appended?_eq_none_iff : appended? text pattern = none ↔ pattern ∈ parseChars text := by
  simp [appended?]

theorem isPrefix_of_appended? {edited : List Char}
    (appended : appended? text pattern = some edited) : text <+: edited := by
  unfold appended? at appended
  split at appended
  · cases appended
  · cases appended
    simp only [List.append_assoc]
    split
    · exact List.prefix_append text _
    · rw [List.append_assoc]
      exact List.prefix_append text _

/-- A pattern that is appended gets a line of its own behind those of the text. -/
theorem exists_of_appended? {edited : List Char} (appended : appended? text pattern = some edited) :
    ∃ all : List (List Char), (∀ line ∈ all, '\n' ∉ line) ∧
      edited = (all ++ [pattern]).flatMap (· ++ ['\n']) ∧
      parseChars text = distinct (all.filterMap ofLine?) := by
  obtain ⟨complete, line, rfl, noFeed, noFeedLast⟩ := exists_lines text
  have ended := eq_nil_iff_of_lines complete noFeedLast
  unfold appended? at appended
  simp only [Bool.or_eq_true, List.isEmpty_iff, decide_eq_true_eq, ← ended] at appended
  split at appended
  · cases appended
  · cases appended
    by_cases empty : line = []
    · subst empty
      refine ⟨complete, noFeed, by simp, ?_⟩
      rw [List.append_nil]
      exact parseChars_flatMap noFeed
    · refine ⟨complete ++ [line], ?_, by simp [empty], ?_⟩
      · simpa [or_imp, forall_and] using ⟨noFeed, noFeedLast⟩
      · rw [parseChars, lines_flatMap_append noFeed, lines_of_not_mem noFeedLast empty,
          List.filterMap_append, filterMap_map_dropReturn, ← List.filterMap_append]

/-- A pattern that is appended comes behind all others, unless it is there. -/
theorem parseChars_appended (proper : Proper pattern) (text : List Char) :
    parseChars ((appended? text pattern).getD text) =
      if pattern ∈ parseChars text then parseChars text else parseChars text ++ [pattern] := by
  cases appended : appended? text pattern with
  | none => rw [Option.getD_none, if_pos (appended?_eq_none_iff.mp appended)]
  | some edited =>
      have new : pattern ∉ parseChars text := by
        rw [← appended?_eq_none_iff, appended]
        simp
      obtain ⟨all, noFeed, rfl, parsed⟩ := exists_of_appended? appended
      have noFeeds : ∀ line ∈ all ++ [pattern], '\n' ∉ line := by
        simpa [or_imp, forall_and] using ⟨noFeed, proper.noFeed⟩
      rw [Option.getD_some, if_neg new, parseChars_flatMap noFeeds, List.filterMap_append,
        List.filterMap_cons, proper.ofLine?_eq, List.filterMap_nil, distinct_concat, ← parsed,
        if_neg new]

theorem mem_parseChars_appended (proper : Proper pattern) (text : List Char) :
    other ∈ parseChars ((appended? text pattern).getD text) ↔
      other ∈ parseChars text ∨ other = pattern := by
  rw [parseChars_appended proper, mem_ite_concat]

/-- All lines are kept if and only if none of them holds the pattern. -/
theorem Proper.filter_eq_self_iff (proper : Proper pattern) (text : List Char) :
    (lines text).filter (fun line => Pattern.canonical line ≠ pattern) = lines text ↔
      pattern ∉ parseChars text := by
  rw [List.filter_eq_self, mem_parseChars]
  simp only [decide_eq_true_eq, Holds, proper.ofLine?_eq_some_iff, not_exists, not_and, Ne]

theorem removed?_eq_none_iff (proper : Proper pattern) :
    removed? text pattern = none ↔ pattern ∉ parseChars text := by
  rw [removed?, ← proper.filter_eq_self_iff]
  simp only [ite_eq_left_iff, reduceCtorEq, imp_false, Decidable.not_not,
    List.length_filter_eq_length_iff, List.filter_eq_self]

/-- What is left are the lines that do not hold the pattern. -/
theorem lines_of_removed? {edited : List Char} (removed : removed? text pattern = some edited) :
    lines edited =
      ((lines text).filter fun line => Pattern.canonical line ≠ pattern).map dropReturn := by
  unfold removed? at removed
  simp only at removed
  split at removed
  · cases removed
  · cases removed
    exact lines_flatMap fun line found => not_mem_of_mem_lines (List.mem_filter.mp found).1

/-- A pattern that is removed leaves all others. -/
theorem parseChars_removed (proper : Proper pattern) (text : List Char) :
    parseChars ((removed? text pattern).getD text) = (parseChars text).filter (· ≠ pattern) := by
  have kept : (parseChars text).filter (· ≠ pattern) = distinct
      (((lines text).filter fun line => Pattern.canonical line ≠ pattern).filterMap ofLine?) := by
    rw [proper.filterMap_filter, distinct_filter]
    rfl
  cases removed : removed? text pattern with
  | none =>
      have absent := (removed?_eq_none_iff proper).mp removed
      rw [kept, (proper.filter_eq_self_iff text).mpr absent]
      rfl
  | some edited =>
      rw [kept, Option.getD_some, parseChars, lines_of_removed? removed, filterMap_map_dropReturn]

theorem mem_parseChars_removed (proper : Proper pattern) (text : List Char) :
    other ∈ parseChars ((removed? text pattern).getD text) ↔
      other ∈ parseChars text ∧ other ≠ pattern := by
  rw [parseChars_removed proper, List.mem_filter, decide_eq_true_eq]

theorem mem_parse {text wanted : String} :
    wanted ∈ parse text ↔ wanted.toList ∈ parseChars text.toList := by
  rw [parse, List.mem_map]
  constructor
  · rintro ⟨chars, found, rfl⟩
    rwa [String.toList_ofList]
  · intro found
    exact ⟨wanted.toList, found, String.ofList_toList⟩

end SplitDns.Pattern
