/-!
# Sorted maps

Maps from texts to values as lists of pairs in the order of their keys. `find?_put` says what a
write does to every look-up, and `ext_find?` that look-ups determine a map.
-/

namespace SplitDns

/-- Puts a value under a key into a list of pairs in key order. -/
def putSorted {Value : Type} (key : String) (value : Value) :
    List (String × Value) → List (String × Value)
  | [] => [(key, value)]
  | pair :: rest =>
      if key < pair.1 then (key, value) :: pair :: rest
      else if key = pair.1 then (key, value) :: rest
      else pair :: putSorted key value rest

def Ordered {Value : Type} (pairs : List (String × Value)) : Prop :=
  pairs.Pairwise fun left right => left.1 < right.1

theorem mem_putSorted {Value : Type} {key : String} {value : Value}
    {pairs : List (String × Value)} {pair : String × Value}
    (found : pair ∈ putSorted key value pairs) : pair = (key, value) ∨ pair ∈ pairs := by
  induction pairs with
  | nil => simpa [putSorted] using found
  | cons head rest inductionHypothesis =>
      unfold putSorted at found
      split at found
      · simpa using found
      · split at found
        · rcases List.mem_cons.mp found with equal | later
          · exact .inl equal
          · exact .inr (List.mem_cons_of_mem _ later)
        · rcases List.mem_cons.mp found with rfl | later
          · exact .inr List.mem_cons_self
          · rcases inductionHypothesis later with equal | old
            · exact .inl equal
            · exact .inr (List.mem_cons_of_mem _ old)

theorem ordered_putSorted {Value : Type} {key : String} {value : Value}
    {pairs : List (String × Value)} (ordered : Ordered pairs) :
    Ordered (putSorted key value pairs) := by
  induction pairs with
  | nil => simp [putSorted, Ordered]
  | cons head rest inductionHypothesis =>
      obtain ⟨headBefore, restOrdered⟩ := List.pairwise_cons.mp ordered
      unfold putSorted
      split
      next less =>
        refine List.pairwise_cons.mpr ⟨fun pair found => ?_, ordered⟩
        rcases List.mem_cons.mp found with rfl | later
        · exact less
        · exact String.lt_trans less (headBefore pair later)
      next notLess =>
        split
        next equal =>
          exact List.pairwise_cons.mpr
            ⟨fun pair found => equal ▸ headBefore pair found, restOrdered⟩
        next different =>
          refine List.pairwise_cons.mpr ⟨fun pair found => ?_, inductionHypothesis restOrdered⟩
          rcases mem_putSorted found with rfl | later
          · rcases String.le_total head.1 key with smaller | larger
            · exact Std.lt_of_le_of_ne smaller (Ne.symm different)
            · exact absurd (Std.lt_of_le_of_ne larger different) notLess
          · exact headBefore pair later

structure SortedMap (Value : Type) where
  pairs : List (String × Value)
  ordered : Ordered pairs

namespace SortedMap

variable {Value : Type}

instance [DecidableEq Value] : DecidableEq (SortedMap Value)
  | ⟨left, _⟩, ⟨right, _⟩ => decidable_of_iff (left = right) (by simp)

def empty : SortedMap Value :=
  ⟨[], List.Pairwise.nil⟩

def find? (map : SortedMap Value) (key : String) : Option Value :=
  map.pairs.lookup key

def contains (map : SortedMap Value) (key : String) : Bool :=
  (map.find? key).isSome

def put (map : SortedMap Value) (key : String) (value : Value) : SortedMap Value :=
  ⟨putSorted key value map.pairs, ordered_putSorted map.ordered⟩

def erase (map : SortedMap Value) (key : String) : SortedMap Value :=
  ⟨map.pairs.filter (·.1 != key), map.ordered.filter _⟩

def size (map : SortedMap Value) : Nat :=
  map.pairs.length

/-- The map of a list of pairs, where the last pair of a key counts. -/
def ofList (pairs : List (String × Value)) : SortedMap Value :=
  pairs.foldl (fun map pair => map.put pair.1 pair.2) empty

/-! ### Look-ups -/

@[simp]
theorem find?_empty (key : String) : (empty : SortedMap Value).find? key = none := rfl

theorem lookup_cons (key : String) (head : String × Value) (rest : List (String × Value)) :
    (head :: rest).lookup key = if key = head.1 then some head.2 else rest.lookup key := by
  rw [List.lookup_cons]
  by_cases same : key = head.1
  · rw [if_pos same, same, beq_self_eq_true]
  · rw [if_neg same, beq_false_of_ne same]

theorem lookup_putSorted (key other : String) (value : Value) (pairs : List (String × Value)) :
    (putSorted key value pairs).lookup other =
      if other = key then some value else pairs.lookup other := by
  induction pairs with
  | nil => simp [putSorted, lookup_cons]
  | cons head rest inductionHypothesis =>
      unfold putSorted
      by_cases less : key < head.1
      · rw [if_pos less, lookup_cons]
      · rw [if_neg less]
        by_cases equal : key = head.1
        · rw [if_pos equal, lookup_cons, lookup_cons, equal]
          split <;> rfl
        · rw [if_neg equal, lookup_cons, lookup_cons, inductionHypothesis]
          grind

@[simp]
theorem find?_put (map : SortedMap Value) (key other : String) (value : Value) :
    (map.put key value).find? other = if other = key then some value else map.find? other :=
  lookup_putSorted key other value map.pairs

@[simp]
theorem find?_erase (map : SortedMap Value) (key other : String) :
    (map.erase key).find? other = if other = key then none else map.find? other := by
  obtain ⟨pairs, ordered⟩ := map
  simp only [erase, find?]
  clear ordered
  induction pairs with
  | nil => simp
  | cons head rest inductionHypothesis =>
      rw [List.filter_cons]
      by_cases erased : head.1 = key
      · rw [if_neg (by simp [erased]), inductionHypothesis, lookup_cons, erased]
        split <;> rfl
      · rw [if_pos (by simp [erased]), lookup_cons, inductionHypothesis, lookup_cons]
        grind

/-- A key is found with the value that stands behind it. -/
theorem find?_eq_some_iff {map : SortedMap Value} {key : String} {value : Value} :
    map.find? key = some value ↔ (key, value) ∈ map.pairs := by
  obtain ⟨pairs, ordered⟩ := map
  simp only [find?]
  induction pairs with
  | nil => simp
  | cons head rest inductionHypothesis =>
      obtain ⟨before, restOrdered⟩ := List.pairwise_cons.mp ordered
      obtain ⟨name, found⟩ := head
      rw [lookup_cons]
      by_cases same : key = name
      · subst same
        have fresh : (key, value) ∉ rest := fun later => String.lt_irrefl key (before _ later)
        simp [fresh, eq_comm]
      · simp [same, inductionHypothesis restOrdered]

/-- Look-ups determine a map. -/
theorem ext_find? {left right : SortedMap Value}
    (equal : ∀ key, left.find? key = right.find? key) : left = right := by
  have same (pair : String × Value) : pair ∈ left.pairs ↔ pair ∈ right.pairs := by
    rw [← find?_eq_some_iff, ← find?_eq_some_iff, equal]
  obtain ⟨leftPairs, leftOrdered⟩ := left
  obtain ⟨rightPairs, rightOrdered⟩ := right
  have distinct {pairs : List (String × Value)} (ordered : Ordered pairs) : pairs.Nodup :=
    ordered.imp fun {first second} less => by
      rintro rfl
      exact String.lt_irrefl _ less
  have permuted : leftPairs.Perm rightPairs :=
    (List.perm_ext_iff_of_nodup (distinct leftOrdered) (distinct rightOrdered)).mpr same
  have pairsEqual : leftPairs = rightPairs := by
    apply List.Perm.eq_of_pairwise _ leftOrdered rightOrdered permuted
    intro first second _ _ less greater
    exact absurd greater (String.lt_asymm less)
  simp only [pairsEqual]

/-- Writing a key again forgets what it held. -/
theorem put_put (map : SortedMap Value) (key : String) (first second : Value) :
    (map.put key first).put key second = map.put key second := by
  apply ext_find?
  intro other
  rw [find?_put, find?_put, find?_put]
  split <;> rfl

/-- Putting ordered pairs one by one leaves every other key as it was. -/
theorem find?_foldl_put {pairs : List (String × Value)} (ordered : Ordered pairs)
    (map : SortedMap Value) (key : String) :
    (pairs.foldl (fun map pair => map.put pair.1 pair.2) map).find? key =
      (pairs.lookup key).or (map.find? key) := by
  induction pairs generalizing map with
  | nil => rfl
  | cons head rest inductionHypothesis =>
      obtain ⟨before, restOrdered⟩ := List.pairwise_cons.mp ordered
      rw [List.foldl_cons, inductionHypothesis restOrdered, lookup_cons, find?_put]
      by_cases same : key = head.1
      · have fresh : rest.lookup key = none := by
          rw [List.lookup_eq_none_iff]
          intro pair later
          have less := before pair later
          rw [same, bne_iff_ne]
          rintro equal
          rw [equal] at less
          exact String.lt_irrefl _ less
        rw [if_pos same, if_pos same, fresh, Option.none_or, Option.some_or]
      · rw [if_neg same, if_neg same]

/-- A map is the map of its pairs. -/
@[simp]
theorem ofList_pairs (map : SortedMap Value) : ofList map.pairs = map := by
  apply ext_find?
  intro key
  rw [ofList, find?_foldl_put map.ordered, find?_empty, Option.or_none]
  rfl

end SortedMap

end SplitDns
