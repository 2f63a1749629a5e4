import SplitDns.Proofs.Address.Written
import SplitDns.Proofs.Files.Replacing

/-!
# Paths with something behind them

Behind a path that names a file, a text without a slash makes the path of another file in the same
directory. `differ_of_endings`: two such texts make two files, whatever the directories are.
-/

namespace SplitDns.Text

/-- Text without the separator behind another one is part of the last part. -/
theorem exists_split_append (separator : Char) (text : List Char) :
    ∃ front piece, (∀ suffix, separator ∉ suffix →
      split separator (text ++ suffix) = front ++ [piece ++ suffix]) ∧
      (piece = [] → text = [] ∨ [separator] <:+ text) := by
  induction text with
  | nil =>
      refine ⟨[], [], fun suffix free => ?_, fun _ => .inl rfl⟩
      exact split_of_not_mem free
  | cons character rest inductionHypothesis =>
      obtain ⟨front, piece, cut, ending⟩ := inductionHypothesis
      by_cases same : character = separator
      · refine ⟨[] :: front, piece, fun suffix free => ?_, fun empty => .inr ?_⟩
        · rw [List.cons_append, split, if_pos same, cut suffix free]
          rfl
        · rw [same]
          rcases ending empty with rfl | behind
          · exact List.suffix_rfl
          · exact behind.trans (List.suffix_cons _ _)
      · cases front with
        | nil =>
            refine ⟨[], character :: piece, fun suffix free => ?_, fun empty => ?_⟩
            · rw [List.cons_append, split, if_neg same, cut suffix free]
              rfl
            · cases empty
        | cons first others =>
            refine ⟨(character :: first) :: others, piece, fun suffix free => ?_, fun empty => ?_⟩
            · rw [List.cons_append, split, if_neg same, cut suffix free]
              rfl
            · rcases ending empty with rfl | behind
              · -- An empty text has one part only.
                have parts := cut [] (List.not_mem_nil)
                simp [split] at parts
              · exact .inr (behind.trans (List.suffix_cons _ _))

end SplitDns.Text

namespace SplitDns.Files

open SplitDns.Text

theorem startOf_append (path : String) {suffix : String} (free : '/' ∉ suffix.toList) :
    startOf (path ++ suffix) = startOf path := by
  have same : (path ++ suffix).startsWith "/" = path.startsWith "/" := by
    apply Bool.eq_iff_iff.mpr
    rw [String.startsWith_string_iff, String.startsWith_string_iff, String.toList_append]
    have slash : "/".toList = ['/'] := rfl
    rw [slash]
    cases path.toList with
    | nil =>
        constructor
        · intro first
          exact absurd (first.subset List.mem_cons_self) free
        · exact fun first => absurd first.length_le (by decide)
    | cons character rest =>
        rw [List.cons_append, List.singleton_prefix_cons_iff, List.singleton_prefix_cons_iff]
  rw [startOf, startOf, same]

theorem pathKey_append_inj {directory : List String} {left right : String}
    (same : pathKey (directory ++ [left]) = pathKey (directory ++ [right])) : left = right := by
  by_cases outermost : directory = []
  · subst outermost
    simpa [pathKey] using same
  · rw [pathKey, pathKey, String.intercalate_append_of_ne_nil outermost (by simp),
      String.intercalate_append_of_ne_nil outermost (by simp), String.intercalate_singleton,
      String.intercalate_singleton] at same
    exact (String.append_right_inj _).mp same

namespace Store

variable {store : Store} {path name : String} {target : Target}

/-- The name of an entry is the last step of a path to it, unless that step is made of points. -/
theorem locate_cases (located : store.locate path = .ok target) :
    path ≠ "" ∧
      (target.name = none ∧
        (∀ last, (stepsOf path).getLast? = some last → last = "." ∨ last = "..") ∨
      ∃ name, target.name = some name ∧ (stepsOf path).getLast? = some name ∧
        (stepsOf path).dropLast.foldlM store.enter (startOf path) = .ok target.directory ∧
        target.slash = path.endsWith "/") := by
  unfold locate at located
  split at located
  · cases located
  · split at located
    · cases located
    next filled =>
      refine ⟨by simpa using filled, ?_⟩
      split at located
      · cases located
      · obtain ⟨directory, walked, located⟩ := exists_of_bind_eq_ok located
        split at located
        next none =>
          cases located
          exact .inl ⟨rfl, fun last found => by rw [none] at found; cases found⟩
        next last found =>
          split at located
          next points =>
            obtain ⟨final, _, located⟩ := exists_of_bind_eq_ok located
            cases located
            refine .inl ⟨rfl, fun other same => ?_⟩
            rw [found] at same
            cases same
            simpa using points
          next =>
            cases located
            exact .inr ⟨last, rfl, found, walked, rfl⟩

/-- Behind every path the text makes a name, neither none nor one or two points. -/
structure Ending (suffix : String) : Prop where
  noSlash : '/' ∉ suffix.toList
  last : ∃ character, suffix.toList.getLast? = some character ∧ character ≠ '.'

theorem Ending.filled {suffix : String} (ending : Ending suffix) : suffix ≠ "" := by
  rintro rfl
  obtain ⟨_, last, _⟩ := ending.last
  cases last

theorem Ending.append_ne_points {suffix : String} (ending : Ending suffix) (base : String) :
    base ++ suffix ≠ "." ∧ base ++ suffix ≠ ".." := by
  obtain ⟨character, last, other⟩ := ending.last
  have whole : (base ++ suffix).toList.getLast? = some character := by
    rw [String.toList_append, List.getLast?_append, last, Option.some_or]
  constructor
  all_goals
    intro points
    rw [points] at whole
    exact other (Option.some.inj whole).symm

theorem Ending.append {base suffix : String} (noSlash : '/' ∉ base.toList)
    (ending : Ending suffix) : Ending (base ++ suffix) where
  noSlash := by
    rw [String.toList_append, List.mem_append, not_or]
    exact ⟨noSlash, ending.noSlash⟩
  last := by
    obtain ⟨character, last, other⟩ := ending.last
    refine ⟨character, ?_, other⟩
    rw [String.toList_append, List.getLast?_append, last, Option.some_or]

theorem getLast?_temporarySuffix (process sequence : Nat) :
    (temporarySuffix process sequence).toList.getLast? = some 'p' := by
  rw [temporarySuffix, String.toList_append, List.getLast?_append]
  rfl

theorem ending_temporarySuffix (process sequence : Nat) :
    Ending (temporarySuffix process sequence) where
  noSlash := by
    have noSlash (value : Nat) : '/' ∉ (decimal value).toList := by
      rw [decimal, String.toList_ofList]
      exact not_mem_digitsOf rfl value
    simp only [temporarySuffix, String.toList_append, List.mem_append, not_or]
    exact ⟨⟨⟨⟨by decide, noSlash _⟩, by decide⟩, noSlash _⟩, by decide⟩
  last := ⟨'p', getLast?_temporarySuffix process sequence, by decide⟩

/-- The steps of a path with something behind it are the same up to the last one. -/
theorem exists_stepsOf_append (path : String) :
    ∃ (steps : List String) (base : String),
      (∀ suffix, '/' ∉ suffix.toList → base ++ suffix ≠ "" →
        stepsOf (path ++ suffix) = steps ++ [base ++ suffix]) ∧
      (base = "" → path = "" ∨ path.endsWith "/" = true) := by
  obtain ⟨front, piece, cut, ending⟩ := exists_split_append '/' path.toList
  refine ⟨(front.filter (· ≠ [])).map String.ofList, String.ofList piece, ?_, ?_⟩
  · intro suffix free filled
    have some : piece ++ suffix.toList ≠ [] := by
      intro empty
      apply filled
      apply String.toList_inj.mp
      rw [String.toList_append, String.toList_ofList, empty, String.toList_empty]
    rw [stepsOf, String.toList_append, cut suffix.toList free, List.filter_append, List.map_append]
    simp [some, String.ofList_append]
  · intro empty
    rcases ending (String.ofList_eq_empty_iff.mp empty) with nothing | atEnd
    · exact .inl (String.toList_inj.mp nothing)
    · right
      rw [String.endsWith_eq_endsWith_toSlice, String.Slice.endsWith_string_iff,
        String.copy_toSlice]
      exact atEnd

/-- Such a text becomes part of the name, and the directory stays. -/
theorem exists_locate_append (path : String) :
    ∃ (steps : List String) (base : String),
      (∀ (store : Store) suffix target, Ending suffix →
        store.locate (path ++ suffix) = .ok target →
          steps.foldlM store.enter (startOf path) = .ok target.directory ∧
            target.name = some (base ++ suffix)) ∧
      ∀ (store : Store) target, store.locate path = .ok target → store.Free target →
        target.slash = false →
          steps.foldlM store.enter (startOf path) = .ok target.directory ∧
            target.name = some base := by
  obtain ⟨steps, base, follows, nothing⟩ := exists_stepsOf_append path
  refine ⟨steps, base, ?_, ?_⟩
  · intro store suffix target ending located
    have filled : base ++ suffix ≠ "" := fun empty =>
      ending.filled (String.append_eq_empty_iff.mp empty).2
    have whole := follows suffix ending.noSlash filled
    obtain ⟨_, ⟨_, onlyPoints⟩ | ⟨name, named, last, walked, _⟩⟩ := locate_cases located
    · rw [whole, List.getLast?_concat] at onlyPoints
      obtain ⟨noPoint, noPoints⟩ := ending.append_ne_points base
      exact absurd (onlyPoints _ rfl) (not_or.mpr ⟨noPoint, noPoints⟩)
    · rw [whole, List.getLast?_concat] at last
      rw [whole, List.dropLast_concat, startOf_append path ending.noSlash] at walked
      exact ⟨walked, named.trans last.symm⟩
  · intro store target located free noSlash
    obtain ⟨name, named, _⟩ := free.exists_name
    obtain ⟨filled, ⟨unnamed, _⟩ | ⟨_, same, last, walked, slash⟩⟩ := locate_cases located
    · rw [unnamed] at named
      cases named
    · have someBase : base ≠ "" := by
        intro empty
        rcases nothing empty with noPath | ends
        · exact filled noPath
        · rw [noSlash, ends] at slash
          cases slash
      have whole := follows "" (by simp) (by simpa using someBase)
      rw [String.append_empty, String.append_empty] at whole
      rw [whole, List.dropLast_concat] at walked
      rw [whole, List.getLast?_concat] at last
      exact ⟨walked, same.trans last.symm⟩

/-- Names in one directory are told apart by their keys. -/
theorem key_ne_of_name_ne {left right : Target} {leftName rightName : String}
    (same : left.directory = right.directory) (leftNamed : left.name = some leftName)
    (rightNamed : right.name = some rightName) (differ : leftName ≠ rightName) :
    left.key ≠ right.key := by
  intro equal
  rw [Target.key, Target.key, Target.parts, Target.parts, same, leftNamed, rightNamed] at equal
  exact differ (pathKey_append_inj equal)

/-- Different texts behind a path lead to different files. -/
theorem differ_of_endings {left right : String} (leftEnding : Ending left)
    (rightEnding : Ending right) (differ : left ≠ right) (store : Store) (path : String) :
    store.Differ (path ++ left) (path ++ right) := by
  intro target located other otherLocated
  obtain ⟨steps, base, follows, _⟩ := exists_locate_append path
  obtain ⟨walked, named⟩ := follows store left target leftEnding located
  obtain ⟨otherWalked, otherNamed⟩ := follows store right other rightEnding otherLocated
  rw [walked] at otherWalked
  apply key_ne_of_name_ne (Except.ok.inj otherWalked) named otherNamed
  exact fun same => differ ((String.append_right_inj base).mp same)

/-- A file is not that of the path with a text behind it. -/
theorem apart_append {suffix : String} (ending : Ending suffix)
    (located : store.locate path = .ok target) (free : store.Free target)
    (noSlash : target.slash = false) : store.Apart target.key (path ++ suffix) := by
  intro other otherLocated
  obtain ⟨steps, base, follows, here⟩ := exists_locate_append path
  obtain ⟨walked, named⟩ := here store target located free noSlash
  obtain ⟨otherWalked, otherNamed⟩ := follows store suffix other ending otherLocated
  rw [walked] at otherWalked
  apply key_ne_of_name_ne (Except.ok.inj otherWalked) named otherNamed
  intro same
  exact ending.filled (String.append_eq_left_iff.mp same.symm)

end Store

end SplitDns.Files
