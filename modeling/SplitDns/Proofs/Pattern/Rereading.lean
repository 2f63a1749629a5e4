import SplitDns.Proofs.Pattern.Parsing
import SplitDns.Proofs.Pattern.Routing

/-!
# Routes while files are read again

Files are read one after another, and every reading may find another text or none. At any time the
patterns of a class are those of the last text that was read for it: so a name is routed by the
lines of the last good texts, whatever the store held in between.
-/

namespace SplitDns.Pattern

open SplitDns.Dns
open SplitDns.Text

/-! ### Lines that decide -/

/-- The line, without blank ends and in lower case, is a pattern that stands in the text. -/
def Fits (text line : List Char) : Prop :=
  trim line ≠ [] ∧ (trim line).head? ≠ some '#' ∧
    containsText text (lowerCase (trim line)) = true

variable {text line : List Char}

theorem ofLine?_of_fits (fits : Fits text line) : ofLine? line = some (canonical line) := by
  obtain ⟨filled, noComment, _⟩ := fits
  unfold ofLine? canonical
  split
  next empty => exact absurd empty filled
  next rest comment =>
    rw [comment] at noComment
    exact absurd rfl noComment
  next => rfl

theorem fits_iff : (ofLine? line).any (containsText text) = true ↔ Fits text line := by
  constructor
  · intro holds
    unfold ofLine? at holds
    split at holds
    · cases holds
    · cases holds
    next filled noComment =>
      refine ⟨filled, ?_, holds⟩
      intro first
      obtain ⟨rest, comment⟩ := List.head?_eq_some_iff.mp first
      exact noComment rest comment
  · intro fits
    rw [ofLine?_of_fits fits]
    exact fits.2.2

/-- Among the first of equal items stands the first item that passes a test. -/
theorem find?_distinct (test : List Char → Bool) (items : List (List Char)) :
    (distinct items).find? test = items.find? test := by
  induction items using List.reverseRecOn with
  | nil => rfl
  | append_singleton items item inductionHypothesis =>
      rw [distinct_concat, List.find?_append]
      split
      next known =>
        rw [inductionHypothesis]
        cases tested : test item with
        | false => simp [tested]
        | true =>
            have passed : (items.find? test).isSome = true :=
              List.find?_isSome.mpr ⟨item, mem_distinct.mp known, tested⟩
            rw [Option.or_of_isSome passed]
      next => rw [List.find?_append, inductionHypothesis]

namespace Store

/-- The first pattern of a file that a text contains is that of the first line that fits. -/
theorem firstMatch?_parse_eq_some_iff {file pattern : String} :
    firstMatch? text (parse file) = some pattern ↔
      ∃ before line after, lines file.toList = before ++ line :: after ∧ Fits text line ∧
        (∀ other ∈ before, ¬ Fits text other) ∧ pattern = String.ofList (canonical line) := by
  have searched : firstMatch? text (parse file) =
      (((lines file.toList).find? fun line => (ofLine? line).any (containsText text)).bind
        ofLine?).map String.ofList := by
    have test : (fun pattern : String => containsText text pattern.toList) ∘ String.ofList =
        containsText text := by
      funext chars
      rw [Function.comp_apply, String.toList_ofList]
    rw [firstMatch?, parse, parseChars, List.find?_map, test, find?_distinct, List.find?_filterMap]
  rw [searched, Option.map_eq_some_iff]
  constructor
  · rintro ⟨chars, bound, rfl⟩
    obtain ⟨line, found, held⟩ := Option.bind_eq_some_iff.mp bound
    obtain ⟨fits, before, after, parts, others⟩ := List.find?_eq_some_iff_append.mp found
    have fits := fits_iff.mp fits
    rw [ofLine?_of_fits fits, Option.some_inj] at held
    refine ⟨before, line, after, parts, fits, ?_, by rw [held]⟩
    intro other inBefore otherFits
    have failed := others other inBefore
    rw [fits_iff.mpr otherFits] at failed
    cases failed
  · rintro ⟨before, line, after, parts, fits, others, rfl⟩
    refine ⟨canonical line, Option.bind_eq_some_iff.mpr ⟨line, ?_, ofLine?_of_fits fits⟩, rfl⟩
    refine List.find?_eq_some_iff_append.mpr ⟨fits_iff.mpr fits, before, after, parts, ?_⟩
    intro other inBefore
    rw [Bool.not_eq_true', Bool.eq_false_iff, Ne, fits_iff]
    exact others other inBefore

end Store

/-! ### Readings -/

/-- What came of reading the file of a class. -/
structure Reading where
  place : Nat
  outcome : Except IoError String

/-- The text that was read for a class last, however often reading failed afterwards. -/
def lastText? (readings : List Reading) (place : Nat) : Option String :=
  readings.reverse.findSome? fun reading =>
    if reading.place = place then reading.outcome.toOption else none

theorem lastText?_cons (reading : Reading) (readings : List Reading) (place : Nat) :
    lastText? (reading :: readings) place =
      (lastText? readings place).or
        (if reading.place = place then reading.outcome.toOption else none) := by
  rw [lastText?, List.reverse_cons, List.findSome?_append, List.findSome?_singleton]
  rfl

namespace Store

variable {store : Store} {index place : Nat} {patterns : List String}

/-- Takes over what was read for one class. -/
def reread (store : Store) (reading : Reading) : Store :=
  match reading.outcome with
  | .ok text => (store.replace reading.place (parse text)).2
  | .error _ => store

def rereadAll (store : Store) (readings : List Reading) : Store :=
  readings.foldl reread store

/-- The readings that a reload makes of files. -/
def readings (store : Store) (files : Files.Store) : List Reading :=
  store.classes.mapIdx fun place found => ⟨place, files.readText found.path⟩

theorem names_replace (store : Store) (place : Nat) (patterns : List String) :
    (store.replace place patterns).2.classes.map Class.name = store.classes.map Class.name := by
  unfold replace
  split
  · rfl
  next settings found =>
    split
    · rfl
    · obtain ⟨inside, here⟩ := List.getElem?_eq_some_iff.mp found
      have inNames : place < (store.classes.map Class.name).length := by simpa using inside
      have named : settings.name = (store.classes.map Class.name)[place] := by
        rw [List.getElem_map, here]
      dsimp only
      rw [List.map_set, named]
      exact List.set_getElem_self inNames

theorem patterns_replace (store : Store) (place : Nat) (patterns : List String) (index : Nat) :
    (store.replace place patterns).2.patterns index =
      if place = index ∧ place < store.classes.length then patterns
      else store.patterns index := by
  unfold replace
  cases found : store.classes[place]? with
  | none =>
      rw [if_neg]
      rintro ⟨_, inside⟩
      exact absurd inside (Nat.not_lt.mpr (List.getElem?_eq_none_iff.mp found))
  | some settings =>
      obtain ⟨inside, _⟩ := List.getElem?_eq_some_iff.mp found
      by_cases here : place = index
      · subst here
        have current : store.patterns place = settings.patterns := by
          rw [Store.patterns, found]
          rfl
        rw [if_pos ⟨rfl, inside⟩]
        dsimp only
        split
        next same => rw [current, same]
        next => rw [Store.patterns, List.getElem?_set_self inside]
                rfl
      · rw [if_neg fun both => here both.1]
        dsimp only
        split
        · rfl
        · rw [Store.patterns, List.getElem?_set_ne here]
          rfl

theorem reread_class (files : Files.Store) (before after : List Class) (found : Class) :
    reread ⟨before ++ found :: after⟩ ⟨before.length, files.readText found.path⟩ =
      ⟨before ++ reloadClass files found :: after⟩ := by
  have here : (before ++ found :: after)[before.length]? = some found := by simp
  cases read : files.readText found.path with
  | error cause => rw [reread, reloadClass, read]
  | ok text =>
      rw [reread, reloadClass, read]
      simp only [replace, here]
      split
      next same => rw [← same]
      next => simp

/-- A reload takes over one reading for each class, in their order. -/
theorem reload_eq_rereadAll (store : Store) (files : Files.Store) :
    store.reload files = store.rereadAll (store.readings files) := by
  have shifted (before after : List Class) :
      rereadAll ⟨before ++ after⟩
        (after.mapIdx fun place found => ⟨before.length + place, files.readText found.path⟩) =
        ⟨before ++ after.map (reloadClass files)⟩ := by
    induction after generalizing before with
    | nil => rfl
    | cons found rest inductionHypothesis =>
        rw [List.mapIdx_cons, rereadAll, List.foldl_cons, Nat.add_zero, reread_class]
        have later := inductionHypothesis (before ++ [reloadClass files found])
        simp only [List.append_assoc, List.singleton_append, List.length_append,
          List.length_singleton, Nat.add_assoc, Nat.add_comm 1] at later
        exact later
  have whole := shifted [] store.classes
  simp only [List.nil_append, List.length_nil, Nat.zero_add] at whole
  exact whole.symm

theorem names_reread (store : Store) (reading : Reading) :
    (store.reread reading).classes.map Class.name = store.classes.map Class.name := by
  unfold reread
  split
  · exact names_replace store _ _
  · rfl

/-- No reading changes the classes themselves. -/
theorem names_rereadAll (store : Store) (readings : List Reading) :
    (store.rereadAll readings).classes.map Class.name = store.classes.map Class.name := by
  induction readings generalizing store with
  | nil => rfl
  | cons reading rest inductionHypothesis =>
      exact (inductionHypothesis (store.reread reading)).trans (names_reread store reading)

theorem length_eq_of_names {other : Store}
    (same : other.classes.map Class.name = store.classes.map Class.name) :
    other.classes.length = store.classes.length := by
  simpa using congrArg List.length same

theorem patterns_reread (store : Store) (reading : Reading) (index : Nat) :
    (store.reread reading).patterns index =
      if reading.place = index ∧ index < store.classes.length then
        (reading.outcome.toOption.elim (store.patterns index) parse)
      else store.patterns index := by
  unfold reread
  cases reading.outcome with
  | error cause => exact (ite_self _).symm
  | ok text =>
      rw [patterns_replace]
      by_cases here : reading.place = index
      · subst here
        rfl
      · simp only [here, false_and, if_false]

/-- At any time a class has the patterns of the last text that was read for it. -/
theorem patterns_rereadAll (store : Store) (readings : List Reading)
    (inside : index < store.classes.length) :
    (store.rereadAll readings).patterns index =
      (lastText? readings index).elim (store.patterns index) parse := by
  induction readings generalizing store with
  | nil => rfl
  | cons reading rest inductionHypothesis =>
      have insideNext : index < (store.reread reading).classes.length := by
        rwa [length_eq_of_names (names_reread store reading)]
      have later := inductionHypothesis (store.reread reading) insideNext
      rw [rereadAll, List.foldl_cons, ← rereadAll, later, lastText?_cons, patterns_reread]
      cases lastText? rest index with
      | some text => rfl
      | none =>
          by_cases here : reading.place = index
          · rw [if_pos ⟨here, inside⟩, if_pos here]
            rfl
          · rw [if_neg fun both => here both.1, if_neg here]
            rfl

/-! ### Routes -/

/--
The class speaks for a name that is not empty: the last text that was read for it has a line that
fits the name.
-/
def SpeaksFor (count : Nat) (readings : List Reading) (name : String) (index : Nat) : Prop :=
  normalizeName name ≠ "" ∧ index < count ∧ ∃ text, lastText? readings index = some text ∧
    ∃ line ∈ lines text.toList, Fits (normalizeChars name.toList) line

variable {sources : List (String × String)} {readings : List Reading} {name pattern : String}

theorem patterns_new_rereadAll (sources : List (String × String)) (readings : List Reading)
    (index : Nat) :
    ((new sources).rereadAll readings).patterns index =
      if index < sources.length then (lastText? readings index).elim [] parse else [] := by
  have sameLength : (new sources).classes.length = sources.length := List.length_map _
  have unloaded : (new sources).patterns index = [] := by
    simp only [new, Store.patterns, List.getElem?_map]
    cases sources[index]? <;> rfl
  split
  next inside => rw [patterns_rereadAll _ readings (sameLength.symm ▸ inside), unloaded]
  next outside =>
    have none : ((new sources).rereadAll readings).classes[index]? = none := by
      rw [List.getElem?_eq_none_iff, length_eq_of_names (names_rereadAll _ readings), sameLength]
      exact Nat.le_of_not_lt outside
    rw [Store.patterns, none]
    rfl

theorem exists_parse_of_mem_patterns
    (found : pattern ∈ ((new sources).rereadAll readings).patterns index) :
    ∃ text, pattern ∈ parse text := by
  rw [patterns_new_rereadAll] at found
  split at found
  · cases read : lastText? readings index with
    | none =>
        rw [read] at found
        cases found
    | some text =>
        rw [read] at found
        exact ⟨text, found⟩
  · cases found

theorem filled_rereadAll (sources : List (String × String)) (readings : List Reading) :
    ∀ index, ∀ pattern ∈ ((new sources).rereadAll readings).patterns index, pattern ≠ "" := by
  rintro index pattern found rfl
  obtain ⟨text, inText⟩ := exists_parse_of_mem_patterns found
  exact ne_nil_of_mem_parseChars (mem_parse.mp inText) rfl

theorem ne_empty_of_fits (fits : Fits (normalizeChars name.toList) line) :
    normalizeName name ≠ "" := by
  intro empty
  have none : normalizeChars name.toList = [] := String.ofList_eq_empty_iff.mp empty
  obtain ⟨filled, _, stands⟩ := fits
  rw [none, containsText_iff, List.infix_nil, lowerCase_eq_nil_iff] at stands
  exact filled stands

theorem matches_rereadAll :
    ((new sources).rereadAll readings).Matches name index ↔
      SpeaksFor sources.length readings name index := by
  simp only [matches_iff, ← containsText_iff, patterns_new_rereadAll]
  constructor
  · rintro ⟨pattern, found, covers⟩
    split at found
    next inside =>
      cases read : lastText? readings index with
      | none =>
          rw [read] at found
          cases found
      | some text =>
          rw [read] at found
          obtain ⟨line, inLines, held⟩ := mem_parseChars.mp (mem_parse.mp found)
          have fits : Fits (normalizeChars name.toList) line := by
            rw [← fits_iff, held]
            exact covers
          exact ⟨ne_empty_of_fits fits, inside, text, read, line, inLines, fits⟩
    next => cases found
  · rintro ⟨_, inside, text, read, line, inLines, fits⟩
    refine ⟨String.ofList (canonical line), ?_, ?_⟩
    · rw [if_pos inside, read]
      refine mem_parse.mpr (mem_parseChars.mpr ⟨line, inLines, ?_⟩)
      rw [String.toList_ofList]
      exact ofLine?_of_fits fits
    · rw [String.toList_ofList]
      exact fits.2.2

theorem firstMatch?_of_firstClass? {start : Nat} {classes : List Class}
    (found : firstClass? text start classes = some (index, pattern)) :
    start ≤ index ∧
      firstMatch? text ((⟨classes⟩ : Store).patterns (index - start)) = some pattern := by
  induction classes generalizing start with
  | nil => cases found
  | cons candidate rest inductionHypothesis =>
      unfold firstClass? at found
      split at found
      next searched =>
        cases found
        rw [Nat.sub_self]
        exact ⟨Nat.le_refl _, searched⟩
      next =>
        obtain ⟨later, searched⟩ := inductionHypothesis found
        have place : index - start = index - (start + 1) + 1 := by omega
        refine ⟨by omega, ?_⟩
        rw [place]
        exact searched

/-- The pattern that decides is the first one of the class that the name contains. -/
theorem match?_eq_some_iff : store.match? name = some (index, pattern) ↔
    store.classify name = .proxied index ∧
      firstMatch? (normalizeChars name.toList) (store.patterns index) = some pattern := by
  have searched {index : Nat} {pattern : String}
      (found : store.match? name = some (index, pattern)) :
      firstMatch? (normalizeChars name.toList) (store.patterns index) = some pattern := by
    unfold match? at found
    dsimp only at found
    split at found
    · cases found
    · exact (firstMatch?_of_firstClass? found).2
  constructor
  · intro found
    refine ⟨?_, searched found⟩
    rw [classify, found]
  · rintro ⟨routed, first⟩
    unfold classify at routed
    split at routed
    next place decisive found =>
      cases routed
      rw [searched found] at first
      cases first
      exact found
    next => cases routed

theorem lt_length_of_classify (routed : store.classify name = .proxied index) :
    index < store.classes.length := by
  unfold classify at routed
  split at routed
  next place pattern found =>
    cases routed
    have searched := (match?_eq_some_iff.mp found).2
    refine Nat.lt_of_not_le fun outside => ?_
    rw [Store.patterns, List.getElem?_eq_none_iff.mpr outside] at searched
    cases searched
  next => cases routed

/-- The first pattern of a class that speaks for a name is that of the first line that fits. -/
theorem firstMatch?_rereadAll (speaks : SpeaksFor sources.length readings name index) :
    firstMatch? (normalizeChars name.toList)
        (((new sources).rereadAll readings).patterns index) = some pattern ↔
      ∃ text before line after,
        lastText? readings index = some text ∧ lines text.toList = before ++ line :: after ∧
        Fits (normalizeChars name.toList) line ∧
        (∀ other ∈ before, ¬ Fits (normalizeChars name.toList) other) ∧
        pattern = String.ofList (lowerCase (trim line)) := by
  obtain ⟨_, inside, text, read, _⟩ := speaks
  have patterns : ((new sources).rereadAll readings).patterns index = parse text := by
    rw [patterns_new_rereadAll, if_pos inside, read]
    rfl
  rw [patterns, firstMatch?_parse_eq_some_iff]
  constructor
  · rintro ⟨before, line, after, rest⟩
    exact ⟨text, before, line, after, read, rest⟩
  · rintro ⟨other, before, line, after, readOther, rest⟩
    rw [read, Option.some_inj] at readOther
    subst readOther
    exact ⟨before, line, after, rest⟩

theorem match?_eq_none_iff : store.match? name = none ↔ store.classify name = .direct := by
  unfold classify
  cases store.match? name with
  | none => simp
  | some found => simp

/--
While files are read again, at any time and in any order, a name is routed to the first class that
speaks for it, or directly if there is none. The pattern that decides is that of the first line of
the class that fits. Reading a file that has no text changes nothing, and a reload is one reading
for each class.
-/
theorem classify_follows_readings (sources : List (String × String)) (readings : List Reading)
    (name : String) :
    let store := (new sources).rereadAll readings
    let Speaks := SpeaksFor sources.length readings name
    (∀ index, store.classify name = .proxied index ↔
      Speaks index ∧ ∀ earlier < index, ¬ Speaks earlier) ∧
    (store.classify name = .direct ↔ ∀ index, ¬ Speaks index) ∧
    (∀ index pattern, store.match? name = some (index, pattern) ↔
      store.classify name = .proxied index ∧ ∃ text before line after,
        lastText? readings index = some text ∧ lines text.toList = before ++ line :: after ∧
        Fits (normalizeChars name.toList) line ∧
        (∀ other ∈ before, ¬ Fits (normalizeChars name.toList) other) ∧
        pattern = String.ofList (lowerCase (trim line))) ∧
    (store.match? name = none ↔ store.classify name = .direct) ∧
    (∀ place cause, store.reread ⟨place, .error cause⟩ = store) ∧
    ∀ files, store.reload files = store.rereadAll (store.readings files) := by
  intro store Speaks
  have first : Route.IsFirst Speaks (store.classify name) :=
    (isFirst_classify (filled_rereadAll sources readings) name).congr fun _ => matches_rereadAll
  refine ⟨fun _ => first.eq_proxied_iff, first.eq_direct_iff, ?_, match?_eq_none_iff,
    fun _ _ => rfl, reload_eq_rereadAll store⟩
  intro index pattern
  rw [match?_eq_some_iff]
  refine and_congr_right fun routed => ?_
  exact firstMatch?_rereadAll (first.eq_proxied_iff.mp routed).1

/-- The file of the second class was lost after it was read, the first one was read last. -/
example : ((new [("first", "a"), ("second", "b")]).rereadAll
    [⟨1, .ok "# seen\nVideo\r\nexample"⟩, ⟨1, .error .notFound⟩, ⟨0, .ok " \n"⟩]).match?
      "WWW.Video.Example." = some (1, "video") := by
  decide +kernel

end Store

end SplitDns.Pattern
