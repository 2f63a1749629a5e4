import SplitDns.Admin.Edit
import SplitDns.Admin.Report
import SplitDns.Proofs.Pattern.Parsing
import SplitDns.Proofs.Pattern.Routing
import SplitDns.Proofs.Persist.Snapshots

/-!
# What an edit does to the pattern files

An edit adds its pattern to one file or takes it out of some, and leaves all other patterns in all
files. This holds as long as no file of a class lies where another file of an edit is written: where
another class, the dump of the address sets, or the new contents of one of them lie.
-/

namespace SplitDns.Admin

open SplitDns.AddressSet
open SplitDns.Files
open SplitDns.Files.Store (Rewritten SameDirectories SameFile Spared)

variable {Sets : Type} {files next : Files.Store} {path pattern other : String} {changed : Bool}

/-! ### One file -/

/-- The patterns that a file holds; one that cannot be read holds none. -/
def loaded (files : Files.Store) (path : String) : List String :=
  match files.readText path with
  | .ok text => Pattern.parse text
  | .error _ => []

theorem ne_empty_of_mem_loaded (found : pattern ∈ loaded files path) : pattern ≠ "" := by
  unfold loaded at found
  split at found
  · intro empty
    subst empty
    exact Pattern.ne_nil_of_mem_parseChars (Pattern.mem_parse.mp found) rfl
  · cases found

theorem loaded_of_sameFile (same : SameFile path files next) :
    loaded next path = loaded files path := by
  unfold loaded
  cases read : files.readText path with
  | ok text => rw [same.readText_eq_ok.mp read]
  | error cause =>
      cases readNext : next.readText path with
      | ok text =>
          rw [same.readText_eq_ok.mpr readNext] at read
          cases read
      | error cause => rfl

theorem loaded_of_patternText {text : String} (read : patternText files path = .ok text) :
    loaded files path = Pattern.parse text := by
  unfold patternText at read
  unfold loaded
  split at read
  next found =>
    cases read
    rw [found]
  next missing =>
    cases read
    rw [missing]
    rfl
  next => cases read

variable [Caller]

section EditFile

variable {edit : List Char → Option (List Char)}

theorem editFile_eq_kept (done : editFile edit path files = (.ok false, next)) :
    next = files ∧ ∃ text, patternText files path = .ok text ∧ edit text.toList = none := by
  unfold editFile at done
  split at done
  · cases done
  next text read =>
    split at done
    next unchanged =>
      cases done
      exact ⟨rfl, text, read, unchanged⟩
    · split at done
      · cases done
      · cases done

theorem editFile_eq_wrote (done : editFile edit path files = (.ok true, next)) :
    ∃ text edited, patternText files path = .ok text ∧ edit text.toList = some edited ∧
      files.replaceText path (String.ofList edited) = (.ok (), next) := by
  unfold editFile at done
  split at done
  · cases done
  next text read =>
    split at done
    · cases done
    next edited changed =>
      split at done
      next final replaced =>
        cases done
        exact ⟨text, edited, read, changed, replaced⟩
      · cases done

theorem editFile_eq_error {error : Error}
    (failed : editFile edit path files = (.error error, next)) :
    patternText files path = .error error ∧ next = files ∨
      ∃ text edited cause, patternText files path = .ok text ∧ edit text.toList = some edited ∧
        files.replaceText path (String.ofList edited) = (.error cause, next) ∧
        error = .io cause := by
  unfold editFile at failed
  split at failed
  next cause unread =>
    cases failed
    exact .inl ⟨unread, rfl⟩
  next text read =>
    split at failed
    · cases failed
    next edited changed =>
      split at failed
      · cases failed
      next cause final replaced =>
        cases failed
        exact .inr ⟨text, edited, cause, read, changed, replaced, rfl⟩

theorem rewritten_editFile (done : editFile edit path files = (.ok changed, next)) :
    Rewritten [path] files next := by
  cases changed with
  | false =>
      obtain ⟨rfl, _⟩ := editFile_eq_kept done
      exact Store.rewritten_refl _ next
  | true =>
      obtain ⟨text, edited, _, _, replaced⟩ := editFile_eq_wrote done
      have rewritten := Store.rewritten_replace files path (Text.utf8 (String.ofList edited))
      rw [Store.replaceText] at replaced
      rwa [replaced] at rewritten

/-- The file is read with the edited text, and the report says whether there is one. -/
theorem patternText_editFile (done : editFile edit path files = (.ok changed, next)) :
    ∃ text, patternText files path = .ok text ∧ changed = (edit text.toList).isSome ∧
      patternText next path = .ok (String.ofList ((edit text.toList).getD text.toList)) := by
  cases changed with
  | false =>
      obtain ⟨rfl, text, read, unchanged⟩ := editFile_eq_kept done
      refine ⟨text, read, ?_, ?_⟩
      · rw [unchanged]
        rfl
      · rw [unchanged, Option.getD_none, String.ofList_toList]
        exact read
  | true =>
      obtain ⟨text, edited, read, changed, replaced⟩ := editFile_eq_wrote done
      refine ⟨text, read, ?_, ?_⟩
      · rw [changed]
        rfl
      · rw [changed, patternText, Store.readText_replaceText replaced]
        rfl

/-- The file holds the patterns of the edited text. -/
theorem loaded_editFile (done : editFile edit path files = (.ok changed, next)) :
    ∃ text : String, loaded files path = Pattern.parse text ∧
      loaded next path = Pattern.parse (String.ofList ((edit text.toList).getD text.toList)) := by
  obtain ⟨text, read, _, after⟩ := patternText_editFile done
  exact ⟨text, loaded_of_patternText read, loaded_of_patternText after⟩

end EditFile

theorem mem_loaded_appendTo (proper : Pattern.Proper pattern.toList)
    (done : appendTo path pattern files = (.ok changed, next)) :
    other ∈ loaded next path ↔ other ∈ loaded files path ∨ other = pattern := by
  obtain ⟨text, before, after⟩ := loaded_editFile done
  rw [before, after, Pattern.mem_parse, Pattern.mem_parse, String.toList_ofList,
    Pattern.mem_parseChars_appended proper, String.toList_inj]

theorem mem_loaded_removeFrom (proper : Pattern.Proper pattern.toList)
    (done : removeFrom path pattern files = (.ok changed, next)) :
    other ∈ loaded next path ↔ other ∈ loaded files path ∧ other ≠ pattern := by
  obtain ⟨text, before, after⟩ := loaded_editFile done
  rw [before, after, Pattern.mem_parse, Pattern.mem_parse, String.toList_ofList,
    Pattern.mem_parseChars_removed proper, Ne, String.toList_inj]

/-! ### All files -/

/-- The files of two classes do not touch each other. -/
def Separated (files : Files.Store) (first second : ClassSettings) : Prop :=
  files.Spared first.patterns second.patterns ∧ files.Spared second.patterns first.patterns

theorem removeFromAll_cons_eq_ok {settings : ClassSettings} {rest : List ClassSettings}
    {names : List String}
    (done : removeFromAll pattern (settings :: rest) files = (.ok names, next)) :
    ∃ removed middle others, removeFrom settings.patterns pattern files = (.ok removed, middle) ∧
      removeFromAll pattern rest middle = (.ok others, next) := by
  unfold removeFromAll at done
  split at done
  · cases done
  next removed middle first =>
    split at done
    · cases done
    next others final later =>
      cases done
      exact ⟨removed, middle, others, first, later⟩

theorem rewritten_removeFromAll {classes : List ClassSettings} {names : List String}
    (done : removeFromAll pattern classes files = (.ok names, next)) :
    Rewritten (classes.map ClassSettings.patterns) files next := by
  induction classes generalizing files names with
  | nil =>
      cases done
      exact Store.rewritten_refl _ _
  | cons settings rest inductionHypothesis =>
      obtain ⟨removed, middle, others, first, later⟩ := removeFromAll_cons_eq_ok done
      exact (rewritten_editFile first).trans (inductionHypothesis later)

theorem mem_loaded_removeFromAll (proper : Pattern.Proper pattern.toList)
    {classes : List ClassSettings} {names : List String}
    (separated : classes.Pairwise (Separated files))
    (done : removeFromAll pattern classes files = (.ok names, next)) :
    ∀ settings ∈ classes, other ∈ loaded next settings.patterns ↔
      other ∈ loaded files settings.patterns ∧ other ≠ pattern := by
  induction classes generalizing files names with
  | nil => exact fun _ impossible => nomatch impossible
  | cons first rest inductionHypothesis =>
      obtain ⟨fromRest, restSeparated⟩ := List.pairwise_cons.mp separated
      obtain ⟨removed, middle, others, begun, later⟩ := removeFromAll_cons_eq_ok done
      have rewritten := rewritten_editFile begun
      intro settings found
      rcases List.mem_cons.mp found with rfl | inRest
      · have kept : SameFile settings.patterns middle next := by
          apply (rewritten_removeFromAll later).sameFile
          intro written inWritten
          obtain ⟨second, inRest, rfl⟩ := List.mem_map.mp inWritten
          exact rewritten.directories.spared (fromRest second inRest).1
        rw [loaded_of_sameFile kept]
        exact mem_loaded_removeFrom proper begun
      · have kept := rewritten.sameFile_of_spared (fromRest settings inRest).2
        rw [← loaded_of_sameFile kept]
        apply inductionHypothesis _ later settings inRest
        exact restSeparated.imp fun both =>
          ⟨rewritten.directories.spared both.1, rewritten.directories.spared both.2⟩

/-! ### Edits of a domain -/

/-- No class has its pattern file where an edit writes another file. -/
structure Domain.Separate (domain : Domain) (files : Files.Store) : Prop where
  classes : domain.classes.Pairwise fun first second => files.Differ first.patterns second.patterns
  dump : ∀ settings ∈ domain.classes, files.Differ settings.patterns domain.files.sets
  temporary : ∀ settings ∈ domain.classes,
    ∀ path ∈ domain.files.sets :: domain.classes.map ClassSettings.patterns,
      files.Differ settings.patterns (temporaryName path)

namespace Domain

variable {domain : Domain} {backend : Backend Sets} {className given : String} {order : Order}
  {change : Change} {sets final : Sets} {settings : ClassSettings} {index : Nat}

theorem Separate.pairwise (separate : domain.Separate files) :
    domain.classes.Pairwise (Separated files) := by
  apply separate.classes.imp_of_mem
  intro first second firstFound secondFound differ
  have firstWritten := List.mem_map_of_mem (f := ClassSettings.patterns) firstFound
  have secondWritten := List.mem_map_of_mem (f := ClassSettings.patterns) secondFound
  constructor
  · exact ⟨differ, separate.temporary first firstFound _ (List.mem_cons_of_mem _ secondWritten)⟩
  · exact ⟨differ.symm,
      separate.temporary second secondFound _ (List.mem_cons_of_mem _ firstWritten)⟩

theorem Separate.spared_of_ne (separate : domain.Separate files) {other : ClassSettings}
    {otherIndex : Nat} (found : domain.classes[index]? = some settings)
    (otherFound : domain.classes[otherIndex]? = some other) (different : index ≠ otherIndex) :
    files.Spared settings.patterns other.patterns := by
  obtain ⟨inside, rfl⟩ := List.getElem?_eq_some_iff.mp found
  obtain ⟨otherInside, rfl⟩ := List.getElem?_eq_some_iff.mp otherFound
  have ordered := List.pairwise_iff_getElem.mp separate.pairwise
  by_cases before : index < otherIndex
  · exact (ordered index otherIndex inside otherInside before).1
  · exact (ordered otherIndex index otherInside inside (by omega)).2

theorem Separate.spared_dump (separate : domain.Separate files)
    (found : settings ∈ domain.classes) : files.Spared settings.patterns domain.files.sets :=
  ⟨separate.dump settings found, separate.temporary settings found _ List.mem_cons_self⟩

omit [Caller] in
theorem order_eq_ok (ordered : domain.order className given = .ok order) :
    domain.classes.findIdx? (·.name == className) = some order.place ∧
      domain.classes[order.place]? = some order.settings ∧
      Pattern.normalize given = .ok order.pattern := by
  unfold Domain.order at ordered
  split at ordered
  · cases ordered
  next place placed =>
    split at ordered
    · cases ordered
    next settings found =>
      cases normal : Pattern.normalize given with
      | error cause =>
          rw [normal] at ordered
          cases ordered
      | ok accepted =>
          rw [normal] at ordered
          cases ordered
          exact ⟨placed, found, rfl⟩

theorem rewritten_saveChanged (backend : Backend Sets) (path : String) (tally : Tally)
    (sets : Sets) (files : Files.Store) :
    Rewritten [path] files (saveChanged backend path tally sets files).2 := by
  unfold saveChanged
  split
  · exact Store.rewritten_refl _ files
  · exact Persist.rewritten_saveSets backend path sets files

/-- After the pattern files, an edit reads the snapshot, treats the addresses and saves the sets. -/
theorem reconcile_eq_ok {treat : Address.Ip → Tally → Sets → Tally × Sets} {moved : List String}
    (done : domain.reconcile backend order treat changed moved sets files =
      (.ok change, final, next)) :
    ∃ snapshot, domain.snapshot files = .ok snapshot ∧
      change.tally =
        (forAddresses treat (snapshot.addressesMatching order.pattern) sets).1 ∧
      saveChanged backend domain.files.sets change.tally
        (forAddresses treat (snapshot.addressesMatching order.pattern) sets).2 files =
          (final, next) := by
  unfold reconcile at done
  split at done
  · cases done
  next snapshot read =>
    cases done
    exact ⟨snapshot, read, rfl, rfl⟩

theorem rewritten_reconcile {treat : Address.Ip → Tally → Sets → Tally × Sets}
    {moved : List String}
    (done : domain.reconcile backend order treat changed moved sets files =
      (.ok change, final, next)) : Rewritten [domain.files.sets] files next := by
  obtain ⟨snapshot, _, _, saved⟩ := reconcile_eq_ok done
  have rewritten := rewritten_saveChanged backend domain.files.sets change.tally
    (forAddresses treat (snapshot.addressesMatching order.pattern) sets).2 files
  rwa [saved] at rewritten

theorem addPattern_eq_ok
    (done : domain.addPattern backend className given sets files = (.ok change, final, next)) :
    ∃ order names emptied changed edited, domain.order className given = .ok order ∧
      removeFromAll order.pattern (domain.others order) files = (.ok names, emptied) ∧
      appendTo order.settings.patterns order.pattern emptied = (.ok changed, edited) ∧
      domain.reconcile backend order
        (moveMember backend order.settings.set ((domain.others order).map ClassSettings.set))
        changed names sets edited = (.ok change, final, next) := by
  unfold addPattern at done
  split at done
  · cases done
  next order ordered =>
    simp only at done
    split at done
    · cases done
    next names emptied removed =>
      split at done
      · cases done
      next changed edited appended =>
        exact ⟨order, names, emptied, changed, edited, ordered, removed, appended, done⟩

theorem removePattern_eq_ok
    (done : domain.removePattern backend className given sets files = (.ok change, final, next)) :
    ∃ order changed edited, domain.order className given = .ok order ∧
      removeFrom order.settings.patterns order.pattern files = (.ok changed, edited) ∧
      domain.reconcile backend order (removeMember backend order.settings.set) changed [] sets
        edited = (.ok change, final, next) := by
  unfold removePattern at done
  split at done
  · cases done
  next order ordered =>
    split at done
    · cases done
    next changed edited removed =>
      exact ⟨order, changed, edited, ordered, removed, done⟩

/-! ### The patterns after an edit -/

omit [Caller] in
theorem mem_others (found : domain.classes[index]? = some settings) (other : index ≠ order.place) :
    settings ∈ domain.others order :=
  List.mem_eraseIdx_iff_getElem?.mpr ⟨index, other, found⟩

theorem Separate.spared_others (separate : domain.Separate files)
    (found : domain.classes[order.place]? = some settings) :
    ∀ written ∈ (domain.others order).map ClassSettings.patterns,
      files.Spared settings.patterns written := by
  intro written inWritten
  obtain ⟨second, inOthers, rfl⟩ := List.mem_map.mp inWritten
  obtain ⟨otherIndex, different, otherFound⟩ := List.mem_eraseIdx_iff_getElem?.mp inOthers
  exact separate.spared_of_ne found otherFound (Ne.symm different)

theorem Separate.loaded_reconcile (separate : domain.Separate files) {edited : Files.Store}
    (directories : SameDirectories files edited) (inClasses : settings ∈ domain.classes)
    {treat : Address.Ip → Tally → Sets → Tally × Sets} {moved : List String}
    (done : domain.reconcile backend order treat changed moved sets edited =
      (.ok change, final, next)) :
    loaded next settings.patterns = loaded edited settings.patterns := by
  apply loaded_of_sameFile
  apply (rewritten_reconcile done).sameFile_of_spared
  exact directories.spared (separate.spared_dump inClasses)

/-- The class of the edit gains the pattern, the others lose it. -/
theorem mem_loaded_addPattern (separate : domain.Separate files)
    (ordered : domain.order className given = .ok order)
    (done : domain.addPattern backend className given sets files = (.ok change, final, next))
    (found : domain.classes[index]? = some settings) :
    other ∈ loaded next settings.patterns ↔
      other ∈ loaded files settings.patterns ∧ other ≠ order.pattern ∨
        index = order.place ∧ other = order.pattern := by
  obtain ⟨same, names, emptied, changed, edited, sameOrdered, removed, appended, reconciled⟩ :=
    addPattern_eq_ok done
  rw [ordered] at sameOrdered
  cases sameOrdered
  obtain ⟨_, placed, normal⟩ := order_eq_ok ordered
  have proper := Pattern.proper_of_normalize normal
  have emptiedFrom := rewritten_removeFromAll removed
  have editedFrom := rewritten_editFile appended
  have directories := emptiedFrom.directories.trans editedFrom.directories
  rw [separate.loaded_reconcile directories (List.mem_of_getElem? found) reconciled]
  by_cases here : index = order.place
  · subst here
    rw [placed, Option.some_inj] at found
    subst found
    have kept : loaded emptied order.settings.patterns = loaded files order.settings.patterns := by
      apply loaded_of_sameFile
      exact emptiedFrom.sameFile _ (separate.spared_others placed)
    rw [mem_loaded_appendTo proper appended, kept]
    grind
  · have kept : loaded edited settings.patterns = loaded emptied settings.patterns := by
      apply loaded_of_sameFile
      apply editedFrom.sameFile_of_spared
      exact emptiedFrom.directories.spared (separate.spared_of_ne found placed here)
    have separated := separate.pairwise.sublist (List.eraseIdx_sublist _ order.place)
    rw [kept, mem_loaded_removeFromAll proper separated removed settings (mem_others found here)]
    simp [here]

/-- The class of the edit loses the pattern. -/
theorem mem_loaded_removePattern (separate : domain.Separate files)
    (ordered : domain.order className given = .ok order)
    (done : domain.removePattern backend className given sets files = (.ok change, final, next))
    (found : domain.classes[index]? = some settings) :
    other ∈ loaded next settings.patterns ↔
      other ∈ loaded files settings.patterns ∧ ¬ (index = order.place ∧ other = order.pattern) := by
  obtain ⟨same, changed, edited, sameOrdered, removed, reconciled⟩ := removePattern_eq_ok done
  rw [ordered] at sameOrdered
  cases sameOrdered
  obtain ⟨_, placed, normal⟩ := order_eq_ok ordered
  have proper := Pattern.proper_of_normalize normal
  have editedFrom := rewritten_editFile removed
  rw [separate.loaded_reconcile editedFrom.directories (List.mem_of_getElem? found) reconciled]
  by_cases here : index = order.place
  · subst here
    rw [placed, Option.some_inj] at found
    subst found
    rw [mem_loaded_removeFrom proper removed]
    simp
  · have kept : loaded edited settings.patterns = loaded files settings.patterns := by
      apply loaded_of_sameFile
      exact editedFrom.sameFile_of_spared (separate.spared_of_ne found placed here)
    rw [kept]
    simp [here]

end Domain

end SplitDns.Admin
