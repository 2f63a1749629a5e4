import SplitDns.AddressMap.Snapshot
import SplitDns.Proofs.Json.Quoting

/-!
# Snapshots are read back

A printed list is read back if each of its items is, whatever follows the item. Both levels of a
snapshot are such lists, so `ofJson?_toJson` holds for every snapshot.
-/

namespace SplitDns

open SplitDns.Json
open SplitDns.Text

namespace Snapshot

section Items

variable {Item : Type} {item : List Char → Option (Item × List Char)} {print : Item → List Char}
  {opening closing : Char} {values : List Item}

/-- A line end and the blanks of a level. -/
def margin (depth : Nat) : List Char :=
  '\n' :: List.replicate (2 * depth) ' '

theorem skipSpace_margin (depth : Nat) (rest : List Char) :
    skipSpace (margin depth ++ rest) = skipSpace rest := by
  apply skipSpace_append
  intro character inMargin
  rcases List.mem_cons.mp inMargin with rfl | blank
  · rfl
  · rw [(List.mem_replicate.mp blank).2]
    rfl

/-- Items in lines of their own with commas between them. -/
def lines (depth : Nat) (items : List (List Char)) : List Char :=
  join [','] (items.map (margin depth ++ ·))

theorem lines_singleton (depth : Nat) (item : List Char) :
    lines depth [item] = margin depth ++ item := rfl

theorem lines_cons_cons (depth : Nat) (first second : List Char) (others : List (List Char)) :
    lines depth (first :: second :: others) =
      margin depth ++ (first ++ ',' :: lines depth (second :: others)) := by
  rw [lines, List.map_cons, List.map_cons, join, ← List.map_cons, ← lines, List.append_assoc,
    List.append_assoc, List.singleton_append]
  simp

theorem block_nil (opening closing : Char) (indent : Nat) :
    block opening closing indent [] = [opening, closing] := rfl

theorem block_of_ne_nil (indent : Nat) {items : List (List Char)} (filled : items ≠ []) :
    block opening closing indent items =
      opening :: (lines (indent + 1) items ++ (margin indent ++ [closing])) := by
  have notEmpty : items.isEmpty = false := List.isEmpty_eq_false_iff.mpr filled
  rw [block, notEmpty, if_neg Bool.false_ne_true, List.append_assoc, List.append_assoc]
  rfl

theorem exists_block_eq_cons (opening closing : Char) (indent : Nat) (items : List (List Char)) :
    ∃ tail, block opening closing indent items = opening :: tail := by
  by_cases empty : items = []
  · exact ⟨_, by rw [empty, block_nil]⟩
  · exact ⟨_, block_of_ne_nil indent empty⟩

/-- The item is read back, whatever follows it, and stands out from the layout. -/
structure Reads (item : List Char → Option (Item × List Char)) (print : Item → List Char)
    (closing : Char) (value : Item) : Prop where
  back : ∀ rest, item (print value ++ rest) = some (value, rest)
  begins : ∃ first others, print value = first :: others ∧ isSolid first = true ∧ first ≠ closing

theorem Reads.skipSpace {value : Item} (reads : Reads item print closing value) (depth : Nat)
    (rest : List Char) :
    skipSpace (margin depth ++ (print value ++ rest)) = print value ++ rest := by
  obtain ⟨first, others, equal, solid, _⟩ := reads.begins
  rw [skipSpace_margin, equal, List.cons_append, skipSpace_cons solid]

/-- What follows a list of lines is left. -/
theorem items?_lines (solid : isSolid closing = true) (noComma : closing ≠ ',')
    (reads : ∀ value ∈ values, Reads item print closing value) (filled : values ≠ [])
    (inner outer : Nat) (rest : List Char) :
    items? item closing
      (lines inner (values.map print) ++ (margin outer ++ closing :: rest)) =
        some (values, rest) := by
  induction values with
  | nil => exact absurd rfl filled
  | cons value others inductionHypothesis =>
      have here := reads value List.mem_cons_self
      unfold items?
      cases others with
      | nil =>
          rw [List.map_cons, List.map_nil, lines_singleton, List.append_assoc, here.skipSpace,
            here.back]
          simp only [skipSpace_margin, skipSpace_cons solid, ↓reduceIte]
      | cons second more =>
          have later := inductionHypothesis
            (fun other inOthers => reads other (List.mem_cons_of_mem _ inOthers)) (by simp)
          have comma : isSolid ',' = true := rfl
          rw [List.map_cons] at later
          rw [List.map_cons, List.map_cons, lines_cons_cons, List.append_assoc, List.append_assoc,
            here.skipSpace, here.back]
          simp only [List.cons_append, skipSpace_cons comma, if_neg (Ne.symm noComma)]
          rw [if_pos ⟨trivial, by simp; omega⟩, later, Option.map_some]

theorem exists_skipSpace_lines (reads : ∀ value ∈ values, Reads item print closing value)
    (filled : values ≠ []) (depth : Nat) (rest : List Char) :
    ∃ first tail, skipSpace (lines depth (values.map print) ++ rest) = first :: tail ∧
      first ≠ closing := by
  obtain ⟨value, others, rfl⟩ := List.exists_cons_of_ne_nil filled
  have here := reads value List.mem_cons_self
  obtain ⟨first, after, equal, _, different⟩ := here.begins
  refine ⟨first, ?_⟩
  cases others with
  | nil =>
      rw [List.map_cons, List.map_nil, lines_singleton, List.append_assoc, here.skipSpace, equal]
      exact ⟨_, rfl, different⟩
  | cons second more =>
      rw [List.map_cons, List.map_cons, lines_cons_cons, List.append_assoc, List.append_assoc,
        here.skipSpace, equal]
      exact ⟨_, rfl, different⟩

/-- A printed list is read back, whatever follows it. -/
theorem list?_block (solid : isSolid closing = true) (noComma : closing ≠ ',')
    (reads : ∀ value ∈ values, Reads item print closing value) (indent : Nat)
    (rest : List Char) :
    list? item opening closing (block opening closing indent (values.map print) ++ rest) =
      some (values, rest) := by
  by_cases empty : values = []
  · subst empty
    rw [List.map_nil, block_nil, List.cons_append, List.singleton_append, list?, if_pos rfl,
      skipSpace_cons solid]
    simp
  · have filled : values.map print ≠ [] := by simpa using empty
    obtain ⟨first, tail, begins, different⟩ := exists_skipSpace_lines reads empty (indent + 1)
      (margin indent ++ closing :: rest)
    rw [block_of_ne_nil indent filled, List.cons_append, List.append_assoc, List.append_assoc,
      List.singleton_append, list?, if_pos rfl, begins]
    simp only [if_neg different]
    exact items?_lines solid noComma reads empty (indent + 1) indent rest

end Items

/-! ### Members -/

theorem reads_quote {closing : Char} (different : '"' ≠ closing) (text : String) :
    Reads unquote? quote closing text :=
  ⟨unquote?_quote text, '"', _, rfl, rfl, different⟩

theorem member?_memberText (pair : String × List String) (rest : List Char) :
    member? (memberText pair ++ rest) = some (pair, rest) := by
  have colon : isSolid ':' = true := rfl
  have blank : skipSpace (' ' :: (block '[' ']' 1 (pair.2.map quote) ++ rest)) =
      block '[' ']' 1 (pair.2.map quote) ++ rest := by
    obtain ⟨tail, begins⟩ := exists_block_eq_cons '[' ']' 1 (pair.2.map quote)
    have soft : ∀ other ∈ [' '], isSolid other = false := by
      intro other inBlank
      rw [List.mem_singleton.mp inBlank]
      rfl
    rw [← List.singleton_append, skipSpace_append soft, begins, List.cons_append,
      skipSpace_cons rfl]
  have addresses : list? unquote? '[' ']' (block '[' ']' 1 (pair.2.map quote) ++ rest) =
      some (pair.2, rest) :=
    list?_block rfl (by decide) (fun text _ => reads_quote (by decide) text) 1 rest
  rw [memberText, List.append_assoc, member?]
  simp only [unquote?_quote, bind, Option.bind_some, List.append_assoc, List.cons_append,
    List.nil_append, skipSpace_cons colon, blank, addresses, pure]

theorem reads_memberText (pair : String × List String) : Reads member? memberText '}' pair :=
  ⟨member?_memberText pair, '"', _, rfl, rfl, by decide⟩

/-- The text of a snapshot is read back as the snapshot. -/
theorem ofJson?_toJson (snapshot : Snapshot) : ofJson? snapshot.toJson = some snapshot := by
  have members : list? member? '{' '}'
      (block '{' '}' 0 (snapshot.pairs.map memberText) ++ []) = some (snapshot.pairs, []) :=
    list?_block rfl (by decide) (fun pair _ => reads_memberText pair) 0 []
  obtain ⟨tail, begins⟩ := exists_block_eq_cons '{' '}' 0 (snapshot.pairs.map memberText)
  rw [List.append_nil] at members
  rw [ofJson?, toJson, String.toList_ofList, begins, skipSpace_cons rfl, ← begins, members]
  have blank : (skipSpace []).isEmpty = true := rfl
  simp only [bind, Option.bind_some, blank, if_true, SortedMap.ofList_pairs, pure]

end Snapshot

end SplitDns
