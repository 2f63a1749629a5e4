import SplitDns.Files.Replace
import SplitDns.Proofs.Outcome

/-!
# What a replacement leaves

Paths lead the same way in stores with the same directories, and a replacement makes and removes
files only. So a file that was replaced is read with its new contents, and a file that lies at
neither of the two places of a replacement is read as before.
-/

namespace SplitDns.Files.Store

variable {store other next left right : Store} {path text : String} {target : Target}
  {content : ByteArray}

/-! ### Where paths lead -/

/-- The stores have the same directories. -/
def SameDirectories (left right : Store) : Prop :=
  ∀ key, left.find? key = some .directory ↔ right.find? key = some .directory

theorem SameDirectories.symm (same : SameDirectories left right) : SameDirectories right left :=
  fun key => (same key).symm

theorem SameDirectories.trans (first : SameDirectories left store)
    (second : SameDirectories store right) : SameDirectories left right :=
  fun key => (first key).trans (second key)

theorem SameDirectories.entry? (same : SameDirectories left right) {parts : List String}
    (found : left.entry? parts = some .directory) : right.entry? parts = some .directory := by
  unfold Store.entry? at found ⊢
  split at found
  next outermost => rw [if_pos outermost]
  next inner =>
    rw [if_neg inner]
    exact (same _).mp found

theorem enter_eq_ok {directory result : List String} {step : String}
    (entered : store.enter directory step = .ok result) :
    step = "." ∨ step = ".." ∨
      step.utf8ByteSize ≤ nameLimit ∧ store.entry? (directory ++ [step]) = some .directory := by
  unfold enter lookup at entered
  by_cases here : step = "."
  · exact .inl here
  · by_cases above : step = ".."
    · exact .inr (.inl above)
    · rw [if_neg here, if_neg above] at entered
      by_cases short : step.utf8ByteSize ≤ nameLimit
      · rw [if_pos short] at entered
        refine .inr (.inr ⟨short, ?_⟩)
        cases found : store.entry? (directory ++ [step]) with
        | none =>
            rw [found] at entered
            cases entered
        | some entry =>
            rw [found] at entered
            cases entry with
            | directory => rfl
            | file content => cases entered
      · rw [if_neg short] at entered
        cases entered

theorem SameDirectories.enter (same : SameDirectories left right) {directory result : List String}
    {step : String} (entered : left.enter directory step = .ok result) :
    right.enter directory step = .ok result := by
  have reason := enter_eq_ok entered
  unfold Store.enter at entered ⊢
  by_cases here : step = "."
  · rw [if_pos here] at entered ⊢
    exact entered
  · by_cases above : step = ".."
    · rw [if_neg here, if_pos above] at entered ⊢
      exact entered
    · rcases reason with impossible | impossible | ⟨short, found⟩
      · exact absurd impossible here
      · exact absurd impossible above
      · rw [if_neg here, if_neg above, lookup, if_pos short, found] at entered
        rw [if_neg here, if_neg above, lookup, if_pos short, same.entry? found]
        exact entered

theorem SameDirectories.foldlM_enter (same : SameDirectories left right) {steps : List String}
    {directory result : List String} (entered : steps.foldlM left.enter directory = .ok result) :
    steps.foldlM right.enter directory = .ok result := by
  induction steps generalizing directory with
  | nil => exact entered
  | cons step rest inductionHypothesis =>
      rw [List.foldlM_cons] at entered ⊢
      cases first : left.enter directory step with
      | error cause =>
          rw [first] at entered
          cases entered
      | ok middle =>
          rw [first] at entered
          rw [same.enter first]
          exact inductionHypothesis entered

/-- Paths lead the same way in stores with the same directories. -/
theorem SameDirectories.locate (same : SameDirectories left right)
    (located : left.locate path = .ok target) : right.locate path = .ok target := by
  unfold Store.locate at located ⊢
  split at located
  · cases located
  next noZero =>
    split at located
    · cases located
    next filled =>
      split at located
      · cases located
      next short =>
        rw [if_neg noZero, if_neg filled, if_neg short]
        simp only [bind, Except.bind] at located ⊢
        cases walked : (stepsOf path).dropLast.foldlM left.enter (startOf path) with
        | error cause =>
            rw [walked] at located
            cases located
        | ok directory =>
            rw [walked] at located
            rw [same.foldlM_enter walked]
            simp only at located ⊢
            split at located
            · exact located
            next last _ =>
              split at located
              next dots =>
                rw [if_pos dots]
                cases entered : left.enter directory last with
                | error cause =>
                    rw [entered] at located
                    cases located
                | ok final =>
                    rw [entered] at located
                    rw [same.enter entered]
                    exact located
              next name =>
                rw [if_neg name]
                exact located

/-! ### Files come and go -/

/-- The target is a place where a file may lie. -/
def Free (store : Store) (target : Target) : Prop :=
  ∃ found, store.at? target = .ok found ∧ found ≠ some .directory

theorem Free.exists_name (free : store.Free target) :
    ∃ name, target.name = some name ∧ name.utf8ByteSize ≤ nameLimit ∧
      isOutermost target.parts = false := by
  obtain ⟨found, here, noDirectory⟩ := free
  unfold at? at here
  cases named : target.name with
  | none =>
      rw [named] at here
      cases here
      exact absurd rfl noDirectory
  | some name =>
      rw [named] at here
      simp only [lookup] at here
      by_cases short : name.utf8ByteSize ≤ nameLimit
      · refine ⟨name, rfl, short, ?_⟩
        rw [if_pos short] at here
        cases here
        refine Bool.eq_false_iff.mpr fun outermost => noDirectory ?_
        rw [Target.parts, named] at outermost
        exact if_pos outermost
      · rw [if_neg short] at here
        cases here

/-- What lies at such a place stands under its key. -/
theorem Free.at?_eq (free : store.Free target) (other : Store) :
    other.at? target = .ok (other.find? target.key) := by
  obtain ⟨name, named, short, inner⟩ := free.exists_name
  have parts : target.parts = target.directory ++ [name] := by
    rw [Target.parts, named]
    rfl
  rw [parts] at inner
  rw [at?, named]
  simp only [lookup]
  rw [if_pos short, Store.entry?, if_neg (by simp [inner]), Target.key, parts]

theorem Free.find? (free : store.Free target) : store.find? target.key ≠ some .directory := by
  have here := free.at?_eq store
  obtain ⟨found, equal, noDirectory⟩ := free
  rw [here] at equal
  cases equal
  exact noDirectory

theorem SameDirectories.free (same : SameDirectories left right) (free : left.Free target) :
    right.Free target :=
  ⟨_, free.at?_eq right, mt (same _).mpr free.find?⟩

theorem read_of_free (located : store.locate path = .ok target) (free : store.Free target)
    (noSlash : target.slash = false) (found : store.find? target.key = some (.file content)) :
    store.read path = .ok content := by
  rw [read, located]
  simp only [bind, Except.bind, free.at?_eq store, found, noSlash]
  rfl

theorem sameDirectories_put {key : String} (noDirectory : store.find? key ≠ some .directory)
    (content : ByteArray) : SameDirectories store (store.put key (.file content)) := by
  intro wanted
  rw [SortedMap.find?_put]
  by_cases same : wanted = key
  · rw [if_pos same, same]
    simp [noDirectory]
  · rw [if_neg same]

theorem sameDirectories_erase {key : String} (noDirectory : store.find? key ≠ some .directory) :
    SameDirectories store (store.erase key) := by
  intro wanted
  rw [SortedMap.find?_erase]
  by_cases same : wanted = key
  · rw [if_pos same, same]
    simp [noDirectory]
  · rw [if_neg same]

theorem write_eq_ok (written : store.write path content = .ok next) :
    ∃ target, store.locate path = .ok target ∧ store.Free target ∧ target.slash = false ∧
      next = store.put target.key (.file content) := by
  unfold write at written
  obtain ⟨target, located, written⟩ := exists_of_bind_eq_ok written
  refine ⟨target, located, ?_⟩
  cases slash : target.slash with
  | true =>
      rw [slash, if_pos rfl] at written
      cases written
  | false =>
      rw [slash, if_neg Bool.false_ne_true] at written
      obtain ⟨found, here, written⟩ := exists_of_bind_eq_ok written
      split at written
      · cases written
      next noDirectory =>
        cases written
        exact ⟨⟨found, here, noDirectory⟩, rfl, rfl⟩

theorem rename_eq_ok {source : String} (renamed : store.rename source path = .ok next) :
    ∃ origin target entry, store.locate source = .ok origin ∧ store.locate path = .ok target ∧
      store.at? origin = .ok (some entry) ∧ store.Free target ∧ target.slash = false ∧
      next = (store.erase origin.key).put target.key entry := by
  unfold rename at renamed
  obtain ⟨origin, fromSource, renamed⟩ := exists_of_bind_eq_ok renamed
  obtain ⟨target, located, renamed⟩ := exists_of_bind_eq_ok renamed
  simp only at renamed
  split at renamed
  · cases renamed
  · obtain ⟨moved, there, renamed⟩ := exists_of_bind_eq_ok renamed
    split at renamed
    · cases renamed
    next entry =>
      obtain ⟨found, here, renamed⟩ := exists_of_bind_eq_ok renamed
      split at renamed
      · cases renamed
      next noSlash =>
        split at renamed
        · cases renamed
        next noDirectory =>
          cases renamed
          exact ⟨origin, target, entry, fromSource, located, there,
            ⟨found, here, noDirectory⟩, by simpa using noSlash, rfl⟩

/-! ### Changes at some paths -/

/-- The key is that of no entry that the path leads to. -/
def Apart (store : Store) (key path : String) : Prop :=
  ∀ target, store.locate path = .ok target → key ≠ target.key

/-- A change that makes and removes files at some paths only. -/
structure Confined (paths : List String) (left right : Store) : Prop where
  directories : SameDirectories left right
  others : ∀ key, (∀ path ∈ paths, left.Apart key path) → right.find? key = left.find? key

variable {paths : List String}

theorem confined_refl (paths : List String) (store : Store) : Confined paths store store :=
  ⟨fun _ => Iff.rfl, fun _ _ => rfl⟩

theorem Confined.trans (first : Confined paths left store) (second : Confined paths store right) :
    Confined paths left right := by
  refine ⟨first.directories.trans second.directories, ?_⟩
  intro key apart
  rw [second.others key, first.others key apart]
  intro path inPaths target located
  exact apart path inPaths target (first.directories.symm.locate located)

theorem Confined.mono {others : List String} (confined : Confined paths left right)
    (subset : ∀ path ∈ paths, path ∈ others) : Confined others left right :=
  ⟨confined.directories, fun key apart =>
    confined.others key fun path inPaths => apart path (subset path inPaths)⟩

theorem Free.confined_put (free : store.Free target) (located : store.locate path = .ok target)
    (inPaths : path ∈ paths) (content : ByteArray) :
    Confined paths store (store.put target.key (.file content)) := by
  refine ⟨sameDirectories_put free.find? content, ?_⟩
  intro key apart
  rw [SortedMap.find?_put, if_neg (apart path inPaths target located)]

theorem Free.confined_erase (free : store.Free target) (located : store.locate path = .ok target)
    (inPaths : path ∈ paths) : Confined paths store (store.erase target.key) := by
  refine ⟨sameDirectories_erase free.find?, ?_⟩
  intro key apart
  rw [SortedMap.find?_erase, if_neg (apart path inPaths target located)]

theorem remove_eq_ok (removed : store.remove path = .ok next) :
    ∃ target, store.locate path = .ok target ∧ store.Free target ∧
      next = store.erase target.key := by
  unfold remove at removed
  obtain ⟨target, located, removed⟩ := exists_of_bind_eq_ok removed
  obtain ⟨found, here, removed⟩ := exists_of_bind_eq_ok removed
  refine ⟨target, located, ?_⟩
  split at removed
  · cases removed
    exact ⟨⟨_, here, by simp⟩, rfl⟩
  · cases removed
  · cases removed

theorem confined_remove (store : Store) (inPaths : path ∈ paths) :
    Confined paths store ((store.remove path).toOption.getD store) := by
  cases removed : store.remove path with
  | error cause => exact confined_refl paths store
  | ok next =>
      obtain ⟨target, located, free, rfl⟩ := remove_eq_ok removed
      exact free.confined_erase located inPaths

/-! ### Replacements -/

section Replace

variable [Caller] {middle : Store} {cause : IoError}

theorem replace_of_write_error (written : store.write (temporaryName path) content = .error cause) :
    store.replace path content =
      (.error cause, (store.remove (temporaryName path)).toOption.getD store) := by
  simp [replace, Replacement.start, Replacement.step, Replacement.proceed, Replacement.result,
    written]

theorem replace_of_rename_error
    (written : store.write (temporaryName path) content = .ok middle)
    (renamed : middle.rename (temporaryName path) path = .error cause) :
    store.replace path content =
      (.error cause, (middle.remove (temporaryName path)).toOption.getD middle) := by
  simp [replace, Replacement.start, Replacement.step, Replacement.proceed, Replacement.result,
    written, renamed]

theorem replace_of_renamed (written : store.write (temporaryName path) content = .ok middle)
    (renamed : middle.rename (temporaryName path) path = .ok next) :
    store.replace path content = (.ok (), next) := by
  simp [replace, Replacement.start, Replacement.step, Replacement.proceed, Replacement.result,
    written, renamed]

/-- The contents are written beside the path and moved over it. -/
theorem replace_eq_ok (replaced : store.replace path content = (.ok (), next)) :
    ∃ beside target, store.locate (temporaryName path) = .ok beside ∧
      store.locate path = .ok target ∧ store.Free beside ∧ store.Free target ∧
      target.slash = false ∧
      next = ((store.put beside.key (.file content)).erase beside.key).put target.key
        (.file content) := by
  cases written : store.write (temporaryName path) content with
  | error cause =>
      rw [replace_of_write_error written] at replaced
      cases replaced
  | ok middle =>
      cases renamed : middle.rename (temporaryName path) path with
      | error cause =>
          rw [replace_of_rename_error written renamed] at replaced
          cases replaced
      | ok final =>
          rw [replace_of_renamed written renamed] at replaced
          cases replaced
          obtain ⟨beside, besideLocated, besideFree, _, rfl⟩ := write_eq_ok written
          obtain ⟨origin, target, entry, originLocated, located, there, free, noSlash, rfl⟩ :=
            rename_eq_ok renamed
          have same := sameDirectories_put besideFree.find? content
          have origins := same.locate besideLocated
          rw [originLocated] at origins
          cases origins
          rw [besideFree.at?_eq, SortedMap.find?_put, if_pos rfl] at there
          cases there
          exact ⟨beside, target, besideLocated, same.symm.locate located, besideFree,
            same.symm.free free, noSlash, rfl⟩

/-- A replacement that fails leaves nothing but the temporary file behind, if that. -/
theorem confined_replace_of_error
    (failed : (store.replace path content).1 = .error cause) :
    Confined [temporaryName path] store (store.replace path content).2 := by
  have inPaths : temporaryName path ∈ [temporaryName path] := List.mem_singleton_self _
  cases written : store.write (temporaryName path) content with
  | error cause =>
      rw [replace_of_write_error written]
      exact confined_remove store inPaths
  | ok middle =>
      obtain ⟨beside, located, free, _, rfl⟩ := write_eq_ok written
      have put := free.confined_put located inPaths content
      cases renamed : rename (store.put beside.key (.file content)) (temporaryName path) path with
      | error cause =>
          rw [replace_of_rename_error written renamed]
          exact put.trans (confined_remove _ inPaths)
      | ok final =>
          rw [replace_of_renamed written renamed] at failed
          cases failed

/-- A replacement keeps what lies elsewhere, however it ends. -/
theorem confined_replace (store : Store) (path : String) (content : ByteArray) :
    Confined [path, temporaryName path] store (store.replace path content).2 := by
  have inPaths : temporaryName path ∈ [path, temporaryName path] := by simp
  cases replaced : store.replace path content with
  | mk result next =>
      cases result with
      | error cause =>
          have failed := confined_replace_of_error (congrArg Prod.fst replaced)
          rw [replaced] at failed
          exact failed.mono fun other found => List.mem_cons_of_mem _ found
      | ok done =>
          obtain ⟨beside, target, besideLocated, targetLocated, besideFree, targetFree, _, rfl⟩ :=
            replace_eq_ok replaced
          have put := besideFree.confined_put besideLocated inPaths content
          have erased := put.trans ((put.directories.free besideFree).confined_erase
            (put.directories.locate besideLocated) inPaths)
          exact erased.trans ((erased.directories.free targetFree).confined_put
            (erased.directories.locate targetLocated) List.mem_cons_self content)

/-- A file that was replaced is read with its new contents. -/
theorem read_replace (replaced : store.replace path content = (.ok (), next)) :
    next.read path = .ok content := by
  have same := (confined_replace store path content).directories
  rw [replaced] at same
  obtain ⟨beside, target, _, located, _, free, noSlash, rfl⟩ := replace_eq_ok replaced
  apply read_of_free (same.locate located) (same.free free) noSlash
  rw [SortedMap.find?_put, if_pos rfl]

theorem readText_replaceText (replaced : store.replaceText path text = (.ok (), next)) :
    next.readText path = .ok text := by
  rw [replaceText] at replaced
  rw [readText, read_replace replaced]
  simp only [bind, Except.bind, Text.ofUtf8?_utf8]

end Replace

/-! ### Files that lie elsewhere -/

theorem read_eq_ok (read : store.read path = .ok content) :
    ∃ target, store.locate path = .ok target ∧ store.Free target ∧ target.slash = false ∧
      store.find? target.key = some (.file content) := by
  unfold Store.read at read
  obtain ⟨target, located, read⟩ := exists_of_bind_eq_ok read
  obtain ⟨found, here, read⟩ := exists_of_bind_eq_ok read
  refine ⟨target, located, ?_⟩
  split at read
  next other =>
    have free : store.Free target := ⟨_, here, by simp⟩
    split at read
    · cases read
    next noSlash =>
      cases read
      rw [free.at?_eq store] at here
      exact ⟨free, by simpa using noSlash, Except.ok.inj here⟩
  · cases read
  · cases read

/-- The path reads the same in both stores, as far as it can be read. -/
def SameFile (path : String) (left right : Store) : Prop :=
  ∀ content, left.read path = .ok content ↔ right.read path = .ok content

theorem Confined.sameFile_of_free {elsewhere : String} (confined : Confined paths left right)
    (apart : ∀ target, left.locate elsewhere = .ok target → left.Free target →
      target.slash = false → ∀ path ∈ paths, left.Apart target.key path) :
    SameFile elsewhere left right := by
  have same := confined.directories
  intro content
  constructor
  · intro read
    obtain ⟨target, located, free, noSlash, found⟩ := read_eq_ok read
    apply read_of_free (same.locate located) (same.free free) noSlash
    rw [confined.others target.key (apart target located free noSlash), found]
  · intro read
    obtain ⟨target, located, free, noSlash, found⟩ := read_eq_ok read
    have locatedLeft := same.symm.locate located
    have freeLeft := same.symm.free free
    apply read_of_free locatedLeft freeLeft noSlash
    rw [← confined.others target.key (apart target locatedLeft freeLeft noSlash), found]

theorem Confined.sameFile {elsewhere : String} (confined : Confined paths left right)
    (apart : ∀ target, left.locate elsewhere = .ok target →
      ∀ path ∈ paths, left.Apart target.key path) : SameFile elsewhere left right :=
  confined.sameFile_of_free fun target located _ _ => apart target located

theorem SameFile.readText_eq_ok (same : SameFile path left right) :
    left.readText path = .ok text ↔ right.readText path = .ok text := by
  have onlyIf {first second : Store} (same : SameFile path first second)
      (found : first.readText path = .ok text) : second.readText path = .ok text := by
    unfold readText at found ⊢
    obtain ⟨content, read, decoded⟩ := exists_of_bind_eq_ok found
    rw [(same content).mp read]
    exact decoded
  exact ⟨onlyIf same, onlyIf fun content => (same content).symm⟩

/-- The two paths lead to no common entry. -/
def Differ (store : Store) (path other : String) : Prop :=
  ∀ target, store.locate path = .ok target → store.Apart target.key other

instance (store : Store) (key path : String) : Decidable (store.Apart key path) :=
  match located : store.locate path with
  | .ok target => decidable_of_iff (key ≠ target.key) (by simp [Apart, located])
  | .error _ => .isTrue (by simp [Apart, located])

instance (store : Store) (path other : String) : Decidable (store.Differ path other) :=
  match located : store.locate path with
  | .ok target => decidable_of_iff (store.Apart target.key other) (by simp [Differ, located])
  | .error _ => .isTrue (by simp [Differ, located])

theorem Differ.symm {other : String} (differ : store.Differ path other) :
    store.Differ other path :=
  fun target located next nextLocated => (differ next nextLocated target located).symm

theorem SameDirectories.differ (same : SameDirectories left right) {other : String}
    (differ : left.Differ path other) : right.Differ path other :=
  fun target located next nextLocated =>
    differ target (same.symm.locate located) next (same.symm.locate nextLocated)

theorem Confined.sameFile_of_differ (confined : Confined paths left right)
    (differ : ∀ other ∈ paths, left.Differ path other) : SameFile path left right :=
  confined.sameFile fun target located other inPaths => differ other inPaths target located

theorem SameFile.trans (first : SameFile path left store) (second : SameFile path store right) :
    SameFile path left right :=
  fun content => (first content).trans (second content)

variable [Caller]

/-- Replacing the file at the second path leaves the file at the first one alone. -/
structure Spared (store : Store) (path other : String) : Prop where
  differ : store.Differ path other
  temporary : store.Differ path (temporaryName other)

theorem SameDirectories.spared (same : SameDirectories left right) {other : String}
    (spared : left.Spared path other) : right.Spared path other :=
  ⟨same.differ spared.differ, same.differ spared.temporary⟩

/-- Only files at some paths were replaced: the others are the same. -/
structure Rewritten (paths : List String) (left right : Store) : Prop where
  directories : SameDirectories left right
  sameFile : ∀ path, (∀ written ∈ paths, left.Spared path written) → SameFile path left right

theorem rewritten_refl (paths : List String) (store : Store) : Rewritten paths store store :=
  ⟨fun _ => Iff.rfl, fun _ _ _ => Iff.rfl⟩

theorem Rewritten.trans {others : List String} (first : Rewritten paths left store)
    (second : Rewritten others store right) : Rewritten (paths ++ others) left right := by
  refine ⟨first.directories.trans second.directories, ?_⟩
  intro path spared
  apply (first.sameFile path ?_).trans (second.sameFile path ?_)
  · intro written found
    exact spared written (List.mem_append_left _ found)
  · intro written found
    exact first.directories.spared (spared written (List.mem_append_right _ found))

theorem Rewritten.sameFile_of_spared {written : String} (rewritten : Rewritten [written] left right)
    (spared : left.Spared path written) : SameFile path left right := by
  apply rewritten.sameFile
  intro other found
  rwa [List.mem_singleton.mp found]

/-- A replacement rewrites one file, however it ends. -/
theorem rewritten_replace (store : Store) (path : String) (content : ByteArray) :
    Rewritten [path] store (store.replace path content).2 := by
  have confined := confined_replace store path content
  refine ⟨confined.directories, ?_⟩
  intro elsewhere spared
  have here := spared path List.mem_cons_self
  apply confined.sameFile_of_differ
  intro written inPaths
  rcases List.mem_cons.mp inPaths with rfl | beside
  · exact here.differ
  · rw [List.mem_singleton.mp beside]
    exact here.temporary

end SplitDns.Files.Store
