import SplitDns.AddressSet.Memory
import SplitDns.Proofs.Admin.Editing
import SplitDns.Proofs.Outcome

/-!
# Routes after an edit

An edit changes the routes of names that contain its pattern and of no others. What happens to these
follows from the edit alone: they go to the first class that covers them once the pattern belongs to
the class of the edit only, or to the class of the edit no longer.
-/

namespace SplitDns.Admin.Domain

open SplitDns.AddressSet
open SplitDns.Pattern

variable {Sets : Type} {domain : Domain} {backend : Backend Sets} {files next : Files.Store}
  {className given name pattern : String} {order : Order} {change : Change} {sets final : Sets}
  {index : Nat}

theorem mem_patterns : pattern ∈ (domain.patternStore files).patterns index ↔
    ∃ settings, domain.classes[index]? = some settings ∧
      pattern ∈ loaded files settings.patterns := by
  simp only [patternStore, Store.reload, Store.new, Store.patterns, List.getElem?_map]
  cases found : domain.classes[index]? with
  | none => simp
  | some settings =>
      have same : (Store.reloadClass files ⟨settings.name, settings.patterns, []⟩).patterns =
          loaded files settings.patterns := by
        unfold Store.reloadClass loaded
        cases files.readText settings.patterns <;> rfl
      simp [same]

theorem filled_patternStore (domain : Domain) (files : Files.Store) :
    ∀ index, ∀ pattern ∈ (domain.patternStore files).patterns index, pattern ≠ "" := by
  intro index pattern found
  obtain ⟨settings, _, held⟩ := mem_patterns.mp found
  exact ne_empty_of_mem_loaded held

theorem exists_order {place : Nat}
    (placed : domain.classes.findIdx? (·.name == className) = some place)
    (normal : normalize given = .ok pattern) :
    ∃ settings, domain.order className given = .ok ⟨place, settings, pattern⟩ := by
  obtain ⟨inside, _⟩ := List.findIdx?_eq_some_iff_getElem.mp placed
  refine ⟨domain.classes[place], ?_⟩
  unfold Domain.order
  rw [placed]
  simp only [List.getElem?_eq_getElem inside, normal]
  rfl

section Edits

variable [Files.Caller]

theorem mem_patterns_addPattern (separate : domain.Separate files)
    (ordered : domain.order className given = .ok order)
    (done : domain.addPattern backend className given sets files = (.ok change, final, next)) :
    pattern ∈ (domain.patternStore next).patterns index ↔
      pattern ∈ (domain.patternStore files).patterns index ∧ pattern ≠ order.pattern ∨
        index = order.place ∧ pattern = order.pattern := by
  obtain ⟨_, placed, _⟩ := order_eq_ok ordered
  rw [mem_patterns, mem_patterns]
  constructor
  · rintro ⟨settings, found, held⟩
    rcases (mem_loaded_addPattern separate ordered done found).mp held with ⟨old, other⟩ | here
    · exact .inl ⟨⟨settings, found, old⟩, other⟩
    · exact .inr here
  · rintro (⟨⟨settings, found, old⟩, other⟩ | ⟨rfl, same⟩)
    · exact ⟨settings, found, (mem_loaded_addPattern separate ordered done found).mpr
        (.inl ⟨old, other⟩)⟩
    · exact ⟨order.settings, placed, (mem_loaded_addPattern separate ordered done placed).mpr
        (.inr ⟨rfl, same⟩)⟩

theorem mem_patterns_removePattern (separate : domain.Separate files)
    (ordered : domain.order className given = .ok order)
    (done : domain.removePattern backend className given sets files = (.ok change, final, next)) :
    pattern ∈ (domain.patternStore next).patterns index ↔
      pattern ∈ (domain.patternStore files).patterns index ∧
        ¬ (index = order.place ∧ pattern = order.pattern) := by
  rw [mem_patterns, mem_patterns]
  constructor
  · rintro ⟨settings, found, held⟩
    obtain ⟨old, other⟩ := (mem_loaded_removePattern separate ordered done found).mp held
    exact ⟨⟨settings, found, old⟩, other⟩
  · rintro ⟨⟨settings, found, old⟩, other⟩
    exact ⟨settings, found, (mem_loaded_removePattern separate ordered done found).mpr
      ⟨old, other⟩⟩

/-! ### Routes -/

theorem matches_addPattern (separate : domain.Separate files)
    (ordered : domain.order className given = .ok order)
    (done : domain.addPattern backend className given sets files = (.ok change, final, next)) :
    (domain.patternStore next).Matches name index ↔
      index = order.place ∧ Covers order.pattern name ∨
        ∃ pattern ∈ (domain.patternStore files).patterns index,
          pattern ≠ order.pattern ∧ Covers pattern name := by
  simp only [Store.Matches, mem_patterns_addPattern separate ordered done]
  constructor
  · rintro ⟨pattern, ⟨old, other⟩ | ⟨here, rfl⟩, covers⟩
    · exact .inr ⟨pattern, old, other, covers⟩
    · exact .inl ⟨here, covers⟩
  · rintro (⟨here, covers⟩ | ⟨pattern, old, other, covers⟩)
    · exact ⟨order.pattern, .inr ⟨here, rfl⟩, covers⟩
    · exact ⟨pattern, .inl ⟨old, other⟩, covers⟩

theorem matches_removePattern (separate : domain.Separate files)
    (ordered : domain.order className given = .ok order)
    (done : domain.removePattern backend className given sets files = (.ok change, final, next)) :
    (domain.patternStore next).Matches name index ↔
      ∃ pattern ∈ (domain.patternStore files).patterns index,
        ¬ (index = order.place ∧ pattern = order.pattern) ∧ Covers pattern name := by
  simp only [Store.Matches, mem_patterns_removePattern separate ordered done, and_assoc]

theorem classify_addPattern_of_not_covers (separate : domain.Separate files)
    (ordered : domain.order className given = .ok order)
    (done : domain.addPattern backend className given sets files = (.ok change, final, next))
    (uncovered : ¬ Covers order.pattern name) :
    (domain.patternStore next).classify name = (domain.patternStore files).classify name := by
  apply Store.classify_congr (filled_patternStore domain next) (filled_patternStore domain files)
  intro place
  rw [matches_addPattern separate ordered done]
  constructor
  · rintro (⟨_, covers⟩ | ⟨pattern, old, _, covers⟩)
    · exact absurd covers uncovered
    · exact ⟨pattern, old, covers⟩
  · rintro ⟨pattern, old, covers⟩
    refine .inr ⟨pattern, old, ?_, covers⟩
    rintro rfl
    exact uncovered covers

theorem classify_removePattern_of_not_covers (separate : domain.Separate files)
    (ordered : domain.order className given = .ok order)
    (done : domain.removePattern backend className given sets files = (.ok change, final, next))
    (uncovered : ¬ Covers order.pattern name) :
    (domain.patternStore next).classify name = (domain.patternStore files).classify name := by
  apply Store.classify_congr (filled_patternStore domain next) (filled_patternStore domain files)
  intro place
  rw [matches_removePattern separate ordered done]
  constructor
  · rintro ⟨pattern, old, _, covers⟩
    exact ⟨pattern, old, covers⟩
  · rintro ⟨pattern, old, covers⟩
    refine ⟨pattern, old, ?_, covers⟩
    rintro ⟨_, rfl⟩
    exact uncovered covers

/--
The routing effect of an edit is the edit. A name without the pattern is routed as before. A name
with it goes, after the pattern was added to a class, to the first class that is that class or has
another pattern for the name; and after it was removed, to the first class that has a pattern for
the name other than the removed one, or nowhere if there is none.
-/
theorem edit_reroutes (domain : Domain) (backend : Backend Sets) (className given pattern : String)
    (place : Nat) (sets : Sets) (files : Files.Store) (name : String)
    (separate : domain.Separate files)
    (placed : domain.classes.findIdx? (·.name == className) = some place)
    (normal : normalize given = .ok pattern) :
    (∀ change final next,
      domain.addPattern backend className given sets files = (.ok change, final, next) →
      (¬ Covers pattern name →
        (domain.patternStore next).classify name = (domain.patternStore files).classify name) ∧
      (Covers pattern name → ((domain.patternStore next).classify name).IsFirst fun index =>
        index = place ∨ ∃ other ∈ (domain.patternStore files).patterns index,
          other ≠ pattern ∧ Covers other name)) ∧
    (∀ change final next,
      domain.removePattern backend className given sets files = (.ok change, final, next) →
      (¬ Covers pattern name →
        (domain.patternStore next).classify name = (domain.patternStore files).classify name) ∧
      (Covers pattern name → ((domain.patternStore next).classify name).IsFirst fun index =>
        ∃ other ∈ (domain.patternStore files).patterns index,
          ¬ (index = place ∧ other = pattern) ∧ Covers other name)) := by
  obtain ⟨settings, ordered⟩ := exists_order placed normal
  refine ⟨?_, ?_⟩
  · intro change final next done
    constructor
    · intro uncovered
      exact classify_addPattern_of_not_covers separate ordered done uncovered
    · intro covers
      apply (Store.isFirst_classify (filled_patternStore domain next) name).congr
      intro index
      rw [matches_addPattern separate ordered done, and_iff_left covers]
  · intro change final next done
    constructor
    · intro uncovered
      exact classify_removePattern_of_not_covers separate ordered done uncovered
    · intro _
      apply (Store.isFirst_classify (filled_patternStore domain next) name).congr
      intro index
      rw [matches_removePattern separate ordered done]

end Edits

theorem exists_eq_of_isOk {result : Except Error Change × Sets × Files.Store}
    (ok : result.1.isOk = true) : ∃ change final next, result = (.ok change, final, next) := by
  obtain ⟨_ | change, final, next⟩ := result
  · cases ok
  · exact ⟨change, final, next, rfl⟩

/-- Two classes with pattern files of their own. -/
def crossing : Domain :=
  ⟨[⟨"first", "first.txt", "192.0.2.53", "one"⟩, ⟨"second", "lists/second", "192.0.2.54", "two"⟩],
    ⟨"map.json", "sets.conf"⟩⟩

/-- The first class has a pattern twice, and no line feed at the end; the other file is missing. -/
def crossingFiles : Files.Store :=
  .ofList [("first.txt", .file (Text.utf8 "# seen\r\nVideo\r\nexample\r\n\tVIDEO")),
    ("lists", .directory)]

section Crossing

attribute [local instance] Files.Caller.first

theorem edit_reroutes_crossing :
    (∃ change final next,
      crossing.addPattern Memory.backend "second" " VIDEO" (.new false) crossingFiles =
        (.ok change, final, next) ∧ change.fileChanged = true ∧ change.movedFrom = ["first"] ∧
      (crossing.patternStore next).classify "news.test" =
        (crossing.patternStore crossingFiles).classify "news.test" ∧
      ((crossing.patternStore next).classify "video.test").IsFirst fun index =>
        index = 1 ∨ ∃ other ∈ (crossing.patternStore crossingFiles).patterns index,
          other ≠ "video" ∧ Covers other "video.test") ∧
    ∃ change final next,
      crossing.removePattern Memory.backend "first" "video" (.new false) crossingFiles =
        (.ok change, final, next) ∧ change.fileChanged = true ∧
      ((crossing.patternStore next).classify "video.example").IsFirst fun index =>
        ∃ other ∈ (crossing.patternStore crossingFiles).patterns index,
          ¬ (index = 0 ∧ other = "video") ∧ Covers other "video.example" := by
  have separate : crossing.Separate crossingFiles :=
    ⟨by decide +kernel, by decide +kernel, by decide +kernel⟩
  have capitals : normalize " VIDEO" = .ok "video" := by decide +kernel
  have plain : normalize "video" = .ok "video" := by decide +kernel
  refine ⟨?_, ?_⟩
  · obtain ⟨change, final, next, done⟩ : ∃ change final next,
        crossing.addPattern Memory.backend "second" " VIDEO" (.new false) crossingFiles =
          (.ok change, final, next) := exists_eq_of_isOk (by decide +kernel)
    have told : (crossing.addPattern Memory.backend "second" " VIDEO" (.new false)
        crossingFiles).1.toOption.map (fun change => (change.fileChanged, change.movedFrom)) =
          some (true, ["first"]) := by
      decide +kernel
    rw [done, Except.toOption, Option.map_some, Option.some_inj, Prod.mk.injEq] at told
    have routes (name : String) :=
      (edit_reroutes crossing Memory.backend "second" " VIDEO" "video" 1 (.new false)
        crossingFiles name separate (by decide) capitals).1 change final next done
    exact ⟨change, final, next, done, told.1, told.2, (routes "news.test").1 (by decide +kernel),
      (routes "video.test").2 (by decide +kernel)⟩
  · obtain ⟨change, final, next, done⟩ : ∃ change final next,
        crossing.removePattern Memory.backend "first" "video" (.new false) crossingFiles =
          (.ok change, final, next) := exists_eq_of_isOk (by decide +kernel)
    have told : (crossing.removePattern Memory.backend "first" "video" (.new false)
        crossingFiles).1.toOption.map Change.fileChanged = some true := by
      decide +kernel
    rw [done, Except.toOption, Option.map_some, Option.some_inj] at told
    have routes := (edit_reroutes crossing Memory.backend "first" "video" "video" 0 (.new false)
      crossingFiles "video.example" separate (by decide) plain).2 change final next done
    exact ⟨change, final, next, done, told, routes.2 (by decide +kernel)⟩

end Crossing

/-! ### Pattern files that are written twice -/

/-- The dump of the address sets goes to the pattern file of the only class. -/
def overlaid : Domain :=
  ⟨[⟨"proxied", "patterns", "192.0.2.53", "firewall"⟩], ⟨"map.json", "patterns"⟩⟩

/-- A name was seen with one address. -/
def seenFiles : Files.Store :=
  .ofList [("map.json", .file (Text.utf8 "\x7b\"video.example\": [\"192.0.2.1\"]\x7d"))]

/-- The pattern file of a class has the name under which the other file is written. -/
def borrowed : Domain :=
  ⟨[⟨"first", "list", "192.0.2.53", "one"⟩, ⟨"second", "list.1.0.tmp", "192.0.2.54", "two"⟩],
    ⟨"map.json", "sets.conf"⟩⟩

def borrowedFiles : Files.Store :=
  .ofList [("list.1.0.tmp", .file (Text.utf8 "example\n"))]

section Overlaps

attribute [local instance] Files.Caller.first

/--
Where pattern files are not kept apart, an edit has other effects: the dump takes the place of the
pattern that was added, and a file moves over another one with the patterns of its class.
-/
theorem overlaps_reroute :
    ((overlaid.addPattern Memory.backend "proxied" "video" (.new false) seenFiles).1.isOk = true ∧
      Covers "video" "video.example" ∧
      ¬ ((overlaid.patternStore (overlaid.addPattern Memory.backend "proxied" "video" (.new false)
        seenFiles).2.2).classify "video.example").IsFirst fun index =>
          index = 0 ∨ ∃ other ∈ (overlaid.patternStore seenFiles).patterns index,
            other ≠ "video" ∧ Covers other "video.example") ∧
    (borrowed.addPattern Memory.backend "first" "video" (.new false) borrowedFiles).1.isOk = true ∧
      ¬ Covers "video" "www.example" ∧
      (borrowed.patternStore (borrowed.addPattern Memory.backend "first" "video" (.new false)
        borrowedFiles).2.2).classify "www.example" ≠
          (borrowed.patternStore borrowedFiles).classify "www.example" := by
  refine ⟨⟨by decide +kernel, by decide +kernel, ?_⟩, by decide +kernel, by decide +kernel,
    by decide +kernel⟩
  have direct : (overlaid.patternStore (overlaid.addPattern Memory.backend "proxied" "video"
      (.new false) seenFiles).2.2).classify "video.example" = .direct := by
    decide +kernel
  rw [direct]
  exact fun none => none 0 (.inl rfl)

end Overlaps

end SplitDns.Admin.Domain
