import SplitDns.AddressSet.Memory
import SplitDns.Proofs.Admin.Editing

/-!
# What a failed edit leaves

An edit changes one pattern file after another and reads the snapshot last; nothing takes a change
back when something fails later. So a failed edit leaves the changes up to the failure. The sets
are touched only when nothing can fail any more.
-/

namespace SplitDns.Admin

open SplitDns.AddressSet
open SplitDns.Files
open SplitDns.Files.Store (Confined SameFile)

variable {Sets : Type}

/-! ### Changes of files in a row -/

structure FileEdit where
  path : String
  edit : List Char → Option (List Char)

namespace FileEdit

def appending (pattern path : String) : FileEdit :=
  ⟨path, (Pattern.appended? · pattern.toList)⟩

def removing (pattern path : String) : FileEdit :=
  ⟨path, (Pattern.removed? · pattern.toList)⟩

variable [Caller]

def run (fileEdit : FileEdit) (files : Files.Store) : Except Error Bool × Files.Store :=
  editFile fileEdit.edit fileEdit.path files

/-- Edits that succeed one after another, with the files that they write. -/
inductive Made : List FileEdit → List String → Files.Store → Files.Store → Prop where
  | nil {files : Files.Store} : Made [] [] files files
  | kept {fileEdit : FileEdit} {later : List FileEdit} {written : List String}
      {files middle next : Files.Store} (done : fileEdit.run files = (.ok false, middle))
      (rest : Made later written middle next) : Made (fileEdit :: later) written files next
  | wrote {fileEdit : FileEdit} {later : List FileEdit} {written : List String}
      {files middle next : Files.Store} (done : fileEdit.run files = (.ok true, middle))
      (rest : Made later written middle next) :
      Made (fileEdit :: later) (fileEdit.path :: written) files next

variable {fileEdit : FileEdit} {earlier later : List FileEdit} {written others : List String}
variable {files middle next : Files.Store} {changed : Bool} {error : Error}

theorem Made.cons (rest : Made later written middle next)
    (done : fileEdit.run files = (.ok changed, middle)) :
    Made (fileEdit :: later) (if changed then fileEdit.path :: written else written) files
      next := by
  cases changed with
  | false => exact .kept done rest
  | true => exact .wrote done rest

theorem Made.append (first : Made earlier written files middle)
    (second : Made later others middle next) :
    Made (earlier ++ later) (written ++ others) files next := by
  induction first with
  | nil => exact second
  | kept done _ inductionHypothesis => exact .kept done (inductionHypothesis second)
  | wrote done _ inductionHypothesis => exact .wrote done (inductionHypothesis second)

/-- What was written is a file of one of the edits. -/
theorem Made.exists_of_mem {path : String} (made : Made earlier written files next)
    (wrote : path ∈ written) : ∃ fileEdit ∈ earlier, fileEdit.path = path := by
  induction made with
  | nil => cases wrote
  | kept done _ inductionHypothesis =>
      obtain ⟨fileEdit, later, same⟩ := inductionHypothesis wrote
      exact ⟨fileEdit, List.mem_cons_of_mem _ later, same⟩
  | @wrote first _ _ _ _ _ done _ inductionHypothesis =>
      rcases List.mem_cons.mp wrote with same | inRest
      · exact ⟨first, List.mem_cons_self, same.symm⟩
      · obtain ⟨fileEdit, later, same⟩ := inductionHypothesis inRest
        exact ⟨fileEdit, List.mem_cons_of_mem _ later, same⟩

/-! ### What is confined -/

theorem confined_run_wrote (done : fileEdit.run files = (.ok true, next)) :
    Confined [fileEdit.path, temporaryName fileEdit.path] files next := by
  obtain ⟨text, edited, _, _, replaced⟩ := editFile_eq_wrote done
  have confined := Store.confined_replace files fileEdit.path (Text.utf8 (String.ofList edited))
  rw [Store.replaceText] at replaced
  rwa [replaced] at confined

/-- An edit that fails leaves its own file as it is, too. -/
theorem confined_run_error (failed : fileEdit.run files = (.error error, next)) :
    Confined [temporaryName fileEdit.path] files next := by
  rcases editFile_eq_error failed with ⟨_, rfl⟩ | ⟨text, edited, cause, _, _, replaced, _⟩
  · exact Store.confined_refl _ next
  · rw [Store.replaceText] at replaced
    have confined := Store.confined_replace_of_error (congrArg Prod.fst replaced)
    rwa [replaced] at confined

/-- Where edits leave files behind: at what they write, and beside what they may write. -/
theorem Made.confined (made : Made earlier written files next) :
    Confined (written ++ earlier.map fun fileEdit => temporaryName fileEdit.path) files next := by
  induction made with
  | nil => exact Store.confined_refl _ _
  | kept done _ inductionHypothesis =>
      rw [(editFile_eq_kept done).1] at inductionHypothesis
      exact inductionHypothesis.mono (by grind)
  | wrote done _ inductionHypothesis =>
      exact ((confined_run_wrote done).mono (by grind)).trans
        (inductionHypothesis.mono (by grind))

end FileEdit

/-! ### Edits that stop -/

inductive Action where
  | add
  | remove

namespace Domain

open FileEdit (Made)

variable {domain : Domain} {backend : Backend Sets} {action : Action} {className given : String}
variable {pattern : String} {order : Order} {sets final : Sets} {files next : Files.Store}
variable {planned : List FileEdit} {written : List String} {error : Error}

/-- The changes of files that an edit consists of, in their order. -/
def fileEdits (domain : Domain) (order : Order) : Action → List FileEdit
  | .add =>
      (domain.others order).map (fun other => .removing order.pattern other.patterns) ++
        [.appending order.pattern order.settings.patterns]
  | .remove => [.removing order.pattern order.settings.patterns]

section Errors

variable [Caller]

def perform (domain : Domain) (backend : Backend Sets) (action : Action)
    (className pattern : String) (sets : Sets) (files : Files.Store) :
    Except Error Change × Sets × Files.Store :=
  match action with
  | .add => domain.addPattern backend className pattern sets files
  | .remove => domain.removePattern backend className pattern sets files

/-- The next change of a file fails, or there is none left and the snapshot cannot be read. -/
inductive Stops (domain : Domain) (error : Error) :
    List FileEdit → Files.Store → Files.Store → Prop where
  | edit {failing : FileEdit} {later : List FileEdit} {files next : Files.Store}
      (failed : failing.run files = (.error error, next)) :
      Stops domain error (failing :: later) files next
  | snapshot {files : Files.Store} (unread : domain.snapshot files = .error error) :
      Stops domain error [] files files

/-- The first changes were made, and wrote these files; the next one or the snapshot failed. -/
def Interrupted (domain : Domain) (error : Error) (planned : List FileEdit)
    (written : List String) (files next : Files.Store) : Prop :=
  ∃ made left middle, planned = made ++ left ∧ Made made written files middle ∧
    domain.Stops error left middle next

theorem made_of_removeFromAll {classes : List ClassSettings} {names : List String}
    (done : removeFromAll pattern classes files = (.ok names, next)) :
    ∃ written, Made (classes.map fun other => .removing pattern other.patterns) written files
      next := by
  induction classes generalizing files names with
  | nil =>
      cases done
      exact ⟨[], .nil⟩
  | cons settings rest inductionHypothesis =>
      obtain ⟨removed, middle, others, first, later⟩ := removeFromAll_cons_eq_ok done
      obtain ⟨written, made⟩ := inductionHypothesis later
      have begun : (FileEdit.removing pattern settings.patterns).run files =
          (.ok removed, middle) := first
      exact ⟨_, made.cons begun⟩

theorem removeFromAll_eq_error {classes : List ClassSettings}
    (failed : removeFromAll pattern classes files = (.error error, next)) :
    ∃ made failing later written middle,
      classes.map (fun other => FileEdit.removing pattern other.patterns) =
        made ++ failing :: later ∧
      Made made written files middle ∧ failing.run middle = (.error error, next) := by
  induction classes generalizing files with
  | nil => cases failed
  | cons settings rest inductionHypothesis =>
      unfold removeFromAll at failed
      split at failed
      next first =>
        cases failed
        exact ⟨[], .removing pattern settings.patterns, _, [], files, rfl, .nil, first⟩
      next removed between first =>
        have begun : (FileEdit.removing pattern settings.patterns).run files =
            (.ok removed, between) := first
        split at failed
        next later =>
          cases failed
          obtain ⟨made, failing, unmade, written, middle, cut, earlier, stopped⟩ :=
            inductionHypothesis later
          refine ⟨.removing pattern settings.patterns :: made, failing, unmade, _, middle, ?_,
            earlier.cons begun, stopped⟩
          rw [List.map_cons, cut, List.cons_append]
        · cases failed

theorem reconcile_eq_error {treat : Address.Ip → Tally → Sets → Tally × Sets} {changed : Bool}
    {moved : List String}
    (failed : domain.reconcile backend order treat changed moved sets files =
      (.error error, final, next)) :
    domain.snapshot files = .error error ∧ final = sets ∧ next = files := by
  unfold reconcile at failed
  split at failed
  next cause unread =>
    cases failed
    exact ⟨unread, rfl, rfl⟩
  · cases failed

/-- An addition is stopped by its order, by a file of another class, by the file of its class, or
by the snapshot. -/
theorem addPattern_eq_error
    (failed : domain.addPattern backend className given sets files = (.error error, final, next)) :
    final = sets ∧
      (domain.order className given = .error error ∧ next = files ∨
        ∃ order written, domain.order className given = .ok order ∧
          domain.Interrupted error (domain.fileEdits order .add) written files next) := by
  unfold addPattern at failed
  split at failed
  next refused =>
    cases failed
    exact ⟨rfl, .inl ⟨refused, rfl⟩⟩
  next order ordered =>
    simp only at failed
    split at failed
    next removed =>
      cases failed
      obtain ⟨made, failing, later, written, middle, cut, earlier, stopped⟩ :=
        removeFromAll_eq_error removed
      have plan : domain.fileEdits order .add = made ++ failing ::
          (later ++ [.appending order.pattern order.settings.patterns]) := by
        rw [fileEdits, cut, List.append_assoc, List.cons_append]
      exact ⟨rfl, .inr ⟨order, written, ordered, made, _, middle, plan, earlier, .edit stopped⟩⟩
    next names emptied removed =>
      obtain ⟨written, made⟩ := made_of_removeFromAll removed
      let last := FileEdit.appending order.pattern order.settings.patterns
      split at failed
      next appended =>
        cases failed
        have stopped : last.run emptied = (.error error, next) := appended
        exact ⟨rfl, .inr ⟨order, written, ordered, _, [last], emptied, rfl, made, .edit stopped⟩⟩
      next changed edited appended =>
        obtain ⟨unread, rfl, rfl⟩ := reconcile_eq_error failed
        have added : last.run emptied = (.ok changed, next) := appended
        have all := made.append (FileEdit.Made.nil.cons added)
        exact ⟨rfl, .inr ⟨order, _, ordered, _, [], next, (List.append_nil _).symm, all,
          .snapshot unread⟩⟩

theorem removePattern_eq_error
    (failed : domain.removePattern backend className given sets files =
      (.error error, final, next)) :
    final = sets ∧
      (domain.order className given = .error error ∧ next = files ∨
        ∃ order written, domain.order className given = .ok order ∧
          domain.Interrupted error (domain.fileEdits order .remove) written files next) := by
  unfold removePattern at failed
  split at failed
  next refused =>
    cases failed
    exact ⟨rfl, .inl ⟨refused, rfl⟩⟩
  next order ordered =>
    let only := FileEdit.removing order.pattern order.settings.patterns
    split at failed
    next removed =>
      cases failed
      have stopped : only.run files = (.error error, next) := removed
      exact ⟨rfl, .inr ⟨order, [], ordered, [], [only], files, rfl, .nil, .edit stopped⟩⟩
    next changed edited removed =>
      obtain ⟨unread, rfl, rfl⟩ := reconcile_eq_error failed
      have begun : only.run files = (.ok changed, next) := removed
      exact ⟨rfl, .inr ⟨order, _, ordered, [only], [], next, (List.append_nil _).symm,
        FileEdit.Made.nil.cons begun, .snapshot unread⟩⟩

theorem perform_eq_error
    (failed : domain.perform backend action className given sets files =
      (.error error, final, next)) :
    final = sets ∧
      (domain.order className given = .error error ∧ next = files ∨
        ∃ order written, domain.order className given = .ok order ∧
          domain.Interrupted error (domain.fileEdits order action) written files next) := by
  cases action with
  | add => exact addPattern_eq_error failed
  | remove => exact removePattern_eq_error failed

/-- What an interrupted edit leaves lies where it wrote, or beside what it was to write. -/
theorem Interrupted.confined
    (interrupted : domain.Interrupted error planned written files next) :
    Confined (written ++ planned.map fun fileEdit => temporaryName fileEdit.path) files next := by
  obtain ⟨made, left, middle, rfl, edits, stops⟩ := interrupted
  have before : Confined (written ++ (made ++ left).map fun fileEdit =>
      temporaryName fileEdit.path) files middle := edits.confined.mono (by grind)
  cases stops with
  | edit failed =>
      exact before.trans ((FileEdit.confined_run_error failed).mono (by grind))
  | snapshot unread => exact before

/--
An edit that ends with an error has touched no set and written no dump. It may have changed pattern
files: those of the changes that come before what failed. Every other file is as it was, unless it
lies where the new contents of a pattern file are written.
-/
theorem kept_of_failed
    (failed : domain.perform backend action className given sets files =
      (.error error, final, next)) :
    final = sets ∧
      (domain.order className given = .error error ∧ next = files ∨
        ∃ order written, domain.order className given = .ok order ∧
          domain.Interrupted error (domain.fileEdits order action) written files next ∧
          ∀ path,
            (∀ fileEdit ∈ domain.fileEdits order action,
              files.Differ path (temporaryName fileEdit.path)) →
            (∀ other ∈ written, files.Differ path other) → SameFile path files next) := by
  obtain ⟨same, refused | ⟨order, written, ordered, interrupted⟩⟩ := perform_eq_error failed
  · exact ⟨same, .inl refused⟩
  · refine ⟨same, .inr ⟨order, written, ordered, interrupted, ?_⟩⟩
    intro path beside elsewhere
    apply interrupted.confined.sameFile_of_differ
    intro other touched
    rcases List.mem_append.mp touched with wrote | between
    · exact elsewhere other wrote
    · obtain ⟨fileEdit, inPlan, rfl⟩ := List.mem_map.mp between
      exact beside fileEdit inPlan

end Errors

/-- The class that a pattern is to move to has a directory for its pattern file. -/
def torn : Domain :=
  ⟨[⟨"first", "first.txt", "192.0.2.53", "one"⟩, ⟨"second", "second.txt", "192.0.2.54", "two"⟩],
    ⟨"map.json", "sets.conf"⟩⟩

def tornFiles : Files.Store :=
  .ofList [("first.txt", .file (Text.utf8 "video\nnews\n")), ("second.txt", .directory)]

section Torn

attribute [local instance] Caller.first

theorem kept_of_failed_torn :
    ∃ final next,
      torn.perform Memory.backend .add "second" "video" (.new false) tornFiles =
          (.error (.io .isADirectory), final, next) ∧
        final = .new false ∧
        ∃ order written,
          torn.Interrupted (.io .isADirectory) (torn.fileEdits order .add) written tornFiles next ∧
            ((∀ other ∈ written, tornFiles.Differ "sets.conf" other) →
              SameFile "sets.conf" tornFiles next) := by
  obtain ⟨final, next, failed⟩ : ∃ final next,
      torn.perform Memory.backend .add "second" "video" (.new false) tornFiles =
        (.error (.io .isADirectory), final, next) :=
    ⟨_, _, Prod.ext (by decide +kernel) rfl⟩
  obtain ⟨same, ⟨refused, _⟩ | ⟨order, written, ordered, interrupted, kept⟩⟩ :=
    kept_of_failed failed
  · have accepted : (torn.order "second" "video").toOption.isSome = true := by decide +kernel
    rw [refused] at accepted
    cases accepted
  · refine ⟨final, next, failed, same, order, written, interrupted, kept "sets.conf" ?_⟩
    obtain ⟨placed, found, _⟩ := order_eq_ok ordered
    have place : 1 = order.place := Option.some.inj placed
    rw [← place] at found
    have plan : (torn.fileEdits order .add).map FileEdit.path = ["first.txt", "second.txt"] := by
      rw [fileEdits, others, ← place, ← Option.some.inj found]
      rfl
    intro fileEdit inPlan
    have inPaths := List.mem_map_of_mem (f := FileEdit.path) inPlan
    rw [plan] at inPaths
    have apart : ∀ path ∈ ["first.txt", "second.txt"],
        tornFiles.Differ "sets.conf" (temporaryName path) := by decide +kernel
    exact apart _ inPaths

/-- The pattern is taken from its class before the other one turns out to have no file. -/
theorem failed_edit_loses_pattern :
    (torn.perform Memory.backend .add "second" "video" (.new false) tornFiles).1 =
        .error (.io .isADirectory) ∧
      tornFiles.readText "first.txt" = .ok "video\nnews\n" ∧
      (torn.perform Memory.backend .add "second" "video" (.new false) tornFiles).2.2.readText
        "first.txt" = .ok "news\n" := by
  refine ⟨?_, ?_, ?_⟩ <;> decide +kernel

end Torn

end Domain

end SplitDns.Admin
