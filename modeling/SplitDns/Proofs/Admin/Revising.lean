import SplitDns.Proofs.Admin.Editing

/-!
# Changing one pattern file

A pattern file is changed by lines and read by patterns. `edits_commute_with_parse` says that both
see the same lines in every text: a pattern that is taken out or put in changes the patterns of the
file in just this way, taking out what was put in gives the old patterns back, and the same change
again changes nothing.
-/

namespace SplitDns.Admin

open SplitDns.Text

variable {files next : Files.Store} {path text given pattern : String}
variable {edit : List Char → Option (List Char)}

/-! ### Texts -/

/-- The text after has lost a pattern, with the lines that are this pattern in some spelling. -/
structure Shortens (pattern text after : String) : Prop where
  parse_eq : Pattern.parse after = (Pattern.parse text).filter (· ≠ pattern)
  lines_eq : (lines after.toList).map withoutReturns =
    ((lines text.toList).filter fun line => lowerCase (trim line) ≠ pattern.toList).map
      withoutReturns

/-- The text after has a pattern behind all others, unless it was there before. -/
structure Extends (pattern text after : String) : Prop where
  parse_eq : Pattern.parse after =
    if pattern ∈ Pattern.parse text then Pattern.parse text else Pattern.parse text ++ [pattern]
  isPrefix : text.toList <+: after.toList

theorem parse_of_proper (proper : Pattern.Proper pattern.toList) :
    Pattern.parse pattern = [pattern] := by
  rw [Pattern.parse, Pattern.parseChars_of_ofLine? proper.noFeed proper.ofLine?_eq]
  simp

theorem shortens_removed (proper : Pattern.Proper pattern.toList) (text : String) :
    Shortens pattern text
      (String.ofList ((Pattern.removed? text.toList pattern.toList).getD text.toList)) := by
  constructor
  case parse_eq =>
    have same : (fun wanted : String => decide (wanted ≠ pattern)) ∘ String.ofList =
        fun chars => decide (chars ≠ pattern.toList) := by
      funext chars
      simp only [Function.comp_apply, ne_eq, ← String.toList_inj, String.toList_ofList]
    rw [Pattern.parse, Pattern.parse, String.toList_ofList, Pattern.parseChars_removed proper,
      List.filter_map, same]
  case lines_eq =>
    rw [String.toList_ofList]
    cases removed : Pattern.removed? text.toList pattern.toList with
    | none =>
        have absent := (Pattern.removed?_eq_none_iff proper).mp removed
        have all := (proper.filter_eq_self_iff text.toList).mpr absent
        rw [Option.getD_none]
        exact congrArg (List.map withoutReturns) all.symm
    | some edited =>
        rw [Option.getD_some, Pattern.lines_of_removed? removed, List.map_map]
        exact List.map_congr_left fun line _ => withoutReturns_dropReturn line

theorem extends_appended (proper : Pattern.Proper pattern.toList) (text : String) :
    Extends pattern text
      (String.ofList ((Pattern.appended? text.toList pattern.toList).getD text.toList)) := by
  constructor
  case parse_eq =>
    rw [Pattern.parse, String.toList_ofList, Pattern.parseChars_appended proper]
    simp only [← Pattern.mem_parse]
    split
    · rfl
    · rw [List.map_append, List.map_singleton, String.ofList_toList]
      rfl
  case isPrefix =>
    rw [String.toList_ofList]
    cases appended : Pattern.appended? text.toList pattern.toList with
    | none => exact List.prefix_rfl
    | some edited => exact Pattern.isPrefix_of_appended? appended

/-! ### Files -/

/-- What is reported of an attempt to write the changed text. -/
def reported : Except IoError Unit × Files.Store → Except Error Bool × Files.Store
  | (.ok (), files) => (.ok true, files)
  | (.error cause, files) => (.error (.io cause), files)

section Edits

variable [Files.Caller]

/--
A change of a file that is made if it is due: it reports whether it is, and leaves everything as it
is otherwise. It can only fail where the changed text cannot be written.
-/
structure Revises (path : String) (files : Files.Store)
    (change : Files.Store → Except Error Bool × Files.Store) (Due : Prop)
    (After : String → Prop) : Prop where
  kept : ¬ Due → change files = (.ok false, files)
  wrote : Due → ∃ after, After after ∧ change files = reported (files.replaceText path after)
  leaves : ∀ changed next, change files = (.ok changed, next) →
    (changed = true ↔ Due) ∧ ∃ after, patternText next path = .ok after ∧ After after
  again : ∀ changed next, change files = (.ok changed, next) → change next = (.ok false, next)

theorem Revises.imp {change : Files.Store → Except Error Bool × Files.Store} {Due Other : Prop}
    {After Also : String → Prop} (revises : Revises path files change Due After)
    (same : Due ↔ Other) (weaker : ∀ after, After after → Also after) :
    Revises path files change Other Also := by
  constructor
  case kept => exact fun notDue => revises.kept (mt same.mp notDue)
  case wrote =>
    intro due
    obtain ⟨after, fits, written⟩ := revises.wrote (same.mpr due)
    exact ⟨after, weaker after fits, written⟩
  case leaves =>
    intro changed next done
    obtain ⟨report, after, read, fits⟩ := revises.leaves changed next done
    exact ⟨report.trans same, after, read, weaker after fits⟩
  case again => exact revises.again

theorem editFile_of_patternText (read : patternText files path = .ok text) :
    editFile edit path files =
      match edit text.toList with
      | none => (.ok false, files)
      | some edited => reported (files.replaceText path (String.ofList edited)) := by
  rw [editFile, read]
  dsimp only
  cases edit text.toList with
  | none => rfl
  | some edited =>
      dsimp only
      obtain ⟨outcome, next⟩ := files.replaceText path (String.ofList edited)
      cases outcome <;> rfl

theorem revises_editFile {Due : Prop} {After : String → Prop}
    (edit : List Char → Option (List Char)) (read : patternText files path = .ok text)
    (due : edit text.toList = none ↔ ¬ Due)
    (fits : After (String.ofList ((edit text.toList).getD text.toList)))
    (settled : edit ((edit text.toList).getD text.toList) = none) :
    Revises path files (editFile edit path) Due After := by
  have leaves {changed : Bool} {next : Files.Store}
      (done : editFile edit path files = (.ok changed, next)) :
      changed = (edit text.toList).isSome ∧
        patternText next path = .ok (String.ofList ((edit text.toList).getD text.toList)) := by
    obtain ⟨same, sameRead, report, readNext⟩ := patternText_editFile done
    rw [read] at sameRead
    cases sameRead
    exact ⟨report, readNext⟩
  constructor
  case kept =>
    intro notDue
    rw [editFile_of_patternText read, due.mpr notDue]
  case wrote =>
    intro isDue
    cases changed : edit text.toList with
    | none => exact absurd isDue (due.mp changed)
    | some edited =>
        rw [changed] at fits
        refine ⟨String.ofList edited, fits, ?_⟩
        rw [editFile_of_patternText read, changed]
  case leaves =>
    intro changed next done
    obtain ⟨report, readNext⟩ := leaves done
    refine ⟨?_, _, readNext, fits⟩
    rw [report, Option.isSome_iff_ne_none, Ne, due, Classical.not_not]
  case again =>
    intro changed next done
    rw [editFile_of_patternText (leaves done).2, String.toList_ofList, settled]

theorem revises_removeFrom (proper : Pattern.Proper pattern.toList)
    (read : patternText files path = .ok text) :
    Revises path files (removeFrom path pattern) (pattern ∈ Pattern.parse text)
      (Shortens pattern text) := by
  refine revises_editFile (Pattern.removed? · pattern.toList) read ?due ?fits ?settled
  case due => rw [Pattern.removed?_eq_none_iff proper, Pattern.mem_parse]
  case fits => exact shortens_removed proper text
  case settled =>
    rw [Pattern.removed?_eq_none_iff proper, Pattern.mem_parseChars_removed proper]
    exact fun both => both.2 rfl

theorem revises_appendTo (proper : Pattern.Proper pattern.toList)
    (read : patternText files path = .ok text) :
    Revises path files (appendTo path pattern) (pattern ∉ Pattern.parse text)
      (Extends pattern text) := by
  refine revises_editFile (Pattern.appended? · pattern.toList) read ?due ?fits ?settled
  case due => rw [Pattern.appended?_eq_none_iff, Pattern.mem_parse, Classical.not_not]
  case fits => exact extends_appended proper text
  case settled =>
    rw [Pattern.appended?_eq_none_iff, Pattern.mem_parseChars_appended proper]
    exact .inr rfl

/-- A pattern that was just put in is taken out with nothing else. -/
theorem revises_removeFrom_appendTo (proper : Pattern.Proper pattern.toList)
    (read : patternText files path = .ok text)
    (appended : appendTo path pattern files = (.ok true, next)) :
    Revises path next (removeFrom path pattern) True fun after =>
      Pattern.parse after = Pattern.parse text := by
  obtain ⟨report, longer, readNext, extended⟩ :=
    (revises_appendTo proper read).leaves true next appended
  have new : pattern ∉ Pattern.parse text := report.mp rfl
  have parsed : Pattern.parse longer = Pattern.parse text ++ [pattern] := by
    rw [extended.parse_eq, if_neg new]
  -- the pattern stands once, behind the others, so that these are what is left
  apply (revises_removeFrom proper readNext).imp
  · rw [parsed]
    simp
  · intro after shortened
    have others : (Pattern.parse text).filter (· ≠ pattern) = Pattern.parse text := by
      refine List.filter_eq_self.mpr fun other found => decide_eq_true ?_
      rintro rfl
      exact new found
    rw [shortened.parse_eq, parsed, List.filter_append, others]
    simp

/--
An accepted pattern is a file with this one pattern, and accepted as it is. Whatever text a pattern
file holds: taking the pattern out is due if it is one of the patterns, and leaves the others in
their order, and all lines but those that are the pattern in some spelling, which no blank line and
no comment is. Putting it in is due if it is not one of them, and leaves it behind the others, and
the whole text before it. Neither is due twice, and taking out right after putting in gives the old
patterns.
-/
theorem edits_commute_with_parse (accepted : Pattern.normalize given = .ok pattern) :
    Pattern.parse pattern = [pattern] ∧ Pattern.normalize pattern = .ok pattern ∧
    (∀ line, trim line = [] ∨ (trim line).head? = some '#' →
      lowerCase (trim line) ≠ pattern.toList) ∧
    ∀ (files : Files.Store) (path text : String), patternText files path = .ok text →
      Revises path files (removeFrom path pattern) (pattern ∈ Pattern.parse text)
        (Shortens pattern text) ∧
      Revises path files (appendTo path pattern) (pattern ∉ Pattern.parse text)
        (Extends pattern text) ∧
      ∀ next, appendTo path pattern files = (.ok true, next) →
        Revises path next (removeFrom path pattern) True fun after =>
          Pattern.parse after = Pattern.parse text := by
  have proper := Pattern.proper_of_normalize accepted
  refine ⟨parse_of_proper proper, proper.normalize_eq, ?_, fun files path text read =>
    ⟨revises_removeFrom proper read, revises_appendTo proper read,
      fun next appended => revises_removeFrom_appendTo proper read appended⟩⟩
  rintro line (blank | comment) equal
  · rw [blank] at equal
    exact proper.filled equal.symm
  · obtain ⟨rest, begun⟩ := List.head?_eq_some_iff.mp comment
    apply proper.noComment
    rw [← equal, begun]
    exact head?_lowerCase_numberSign rest

end Edits

/-- Greek capitals with all kinds of line ends; the last has another small form where it stands. -/
def streetsText : String :=
  "# ΟΔΟΣ\r\n Οδος \r\r\n\r\nhulu\r\nΟΔΟΣ"

def streets : Files.Store :=
  .ofList [("streets.txt", .file (utf8 streetsText))]

section Streets

attribute [local instance] Files.Caller.first

theorem edits_commute_with_parse_streets :
    Pattern.normalize " ΟΔΟΣ\t" = .ok "οδος" ∧
      patternText streets "streets.txt" = .ok streetsText ∧
      (∃ next after, removeFrom "streets.txt" "οδος" streets = (.ok true, next) ∧
        patternText next "streets.txt" = .ok after ∧ Pattern.parse after = ["hulu"] ∧
        removeFrom "streets.txt" "οδος" next = (.ok false, next)) ∧
      patternText streets "new.txt" = .ok "" ∧
      ∃ next, appendTo "new.txt" "οδος" streets = (.ok true, next) ∧
        Revises "new.txt" next (removeFrom "new.txt" "οδος") True fun after =>
          Pattern.parse after = Pattern.parse "" := by
  have accepted : Pattern.normalize " ΟΔΟΣ\t" = .ok "οδος" := by decide +kernel
  have read : patternText streets "streets.txt" = .ok streetsText := by decide +kernel
  have none : patternText streets "new.txt" = .ok "" := by decide +kernel
  obtain ⟨shorter, removed⟩ : ∃ next, removeFrom "streets.txt" "οδος" streets = (.ok true, next) :=
    ⟨_, Prod.ext (by decide +kernel) rfl⟩
  obtain ⟨longer, appended⟩ : ∃ next, appendTo "new.txt" "οδος" streets = (.ok true, next) :=
    ⟨_, Prod.ext (by decide +kernel) rfl⟩
  obtain ⟨_, _, _, revised⟩ := edits_commute_with_parse accepted
  obtain ⟨removal, _⟩ := revised streets "streets.txt" streetsText read
  obtain ⟨_, after, readShorter, shortened⟩ := removal.leaves true shorter removed
  have left : (Pattern.parse streetsText).filter (· ≠ "οδος") = ["hulu"] := by decide +kernel
  exact ⟨accepted, read,
    ⟨shorter, after, removed, readShorter, shortened.parse_eq.trans left,
      removal.again true shorter removed⟩,
    none, longer, appended, (revised streets "new.txt" "" none).2.2 longer appended⟩

end Streets

end SplitDns.Admin
