import SplitDns.Proofs.AddressMap.Growth

/-!
# Insertions in a row

A map that was built by insertions has a list with distinct addresses for every name in it. More
insertions only add to it: what they add are the pairs they are about, and the number of those that
were new is the number of pairs gained. So the order of the insertions decides nothing but the
places of addresses in their lists.
-/

namespace SplitDns.AddressMap

open SplitDns.Dns

variable {map old next : AddressMap} {name address text : String}
  {calls : List (String × String)}

/-- Inserts pairs one after another, and says of each whether it was new. -/
def insertEach (map : AddressMap) : List (String × String) → List Bool × AddressMap
  | [] => ([], map)
  | call :: rest =>
      let first := map.insert call.1 call.2
      let others := first.2.insertEach rest
      (first.1 :: others.1, others.2)

theorem insertEach_nil (map : AddressMap) : map.insertEach [] = ([], map) := rfl

theorem insertEach_cons (map : AddressMap) (call : String × String)
    (rest : List (String × String)) :
    map.insertEach (call :: rest) =
      ((map.insert call.1 call.2).1 :: ((map.insert call.1 call.2).2.insertEach rest).1,
        ((map.insert call.1 call.2).2.insertEach rest).2) := rfl

theorem insertEach_snd (map : AddressMap) (calls : List (String × String)) :
    (map.insertEach calls).2 = calls.foldl (fun map call => (map.insert call.1 call.2).2) map := by
  induction calls generalizing map with
  | nil => rfl
  | cons call rest inductionHypothesis =>
      rw [insertEach_cons, List.foldl_cons, inductionHypothesis]

/-! ### Lists without repetition -/

theorem Tidy.insertEach (tidy : map.Tidy) (calls : List (String × String)) :
    (map.insertEach calls).2.Tidy := by
  induction calls generalizing map with
  | nil => exact tidy
  | cons call rest inductionHypothesis =>
      rw [insertEach_cons]
      exact inductionHypothesis (tidy.insert call.1 call.2)

/-- The pairs of a snapshot in the order in which a map records them. -/
def pairsOf (saved : Snapshot) : List (String × String) :=
  saved.pairs.flatMap fun entry => entry.2.map fun address => (entry.1, address)

theorem mem_pairsOf {saved : Snapshot} :
    (name, text) ∈ pairsOf saved ↔ ∃ entry ∈ saved.pairs, entry.1 = name ∧ text ∈ entry.2 := by
  simp only [pairsOf, List.mem_flatMap, List.mem_map, Prod.mk.injEq]
  constructor
  · rintro ⟨entry, found, address, inEntry, same, rfl⟩
    exact ⟨entry, found, same, inEntry⟩
  · rintro ⟨entry, found, same, inEntry⟩
    exact ⟨entry, found, text, inEntry, same, rfl⟩

theorem ofSnapshot_eq_insertEach (saved : Snapshot) :
    ofSnapshot saved = (empty.insertEach (pairsOf saved)).2 := by
  rw [insertEach_snd, pairsOf, List.foldl_flatMap]
  simp only [List.foldl_map]
  rfl

theorem tidy_ofSnapshot (saved : Snapshot) : (ofSnapshot saved).Tidy := by
  rw [ofSnapshot_eq_insertEach]
  exact tidy_empty.insertEach _

/-! ### Pairs -/

theorem knows_insertEach :
    (map.insertEach calls).2.knows name text = true ↔
      map.knows name text = true ∨
        ∃ call ∈ calls, isStorable call.1 call.2 = true ∧ name = normalizeName call.1 ∧
          text = trimText call.2 := by
  induction calls generalizing map with
  | nil => simp [insertEach_nil]
  | cons call rest inductionHypothesis =>
      rw [insertEach_cons, inductionHypothesis, knows_insert, or_assoc]
      simp only [List.mem_cons, or_and_right, exists_or, exists_eq_left]

theorem contains_insertEach :
    (map.insertEach calls).2.snapshot.contains name = true ↔
      map.snapshot.contains name = true ∨
        ∃ call ∈ calls, isStorable call.1 call.2 = true ∧ name = normalizeName call.1 := by
  induction calls generalizing map with
  | nil => simp [insertEach_nil]
  | cons call rest inductionHypothesis =>
      rw [insertEach_cons, inductionHypothesis, contains_insert, or_assoc]
      simp only [List.mem_cons, or_and_right, exists_or, exists_eq_left]

/-- The fresh pairs are those that are known only now. -/
theorem GrowsBy.mem_iff {fresh : List (String × String)} (grows : GrowsBy old map fresh) :
    (name, text) ∈ fresh ↔ map.knows name text = true ∧ old.knows name text = false := by
  rw [grows.knows_iff]
  constructor
  · intro found
    exact ⟨.inr found, grows.unknown (name, text) found⟩
  · rintro ⟨known | found, unknown⟩
    · rw [unknown] at known
      cases known
    · exact found

/-- As many insertions find their pair new as there are fresh pairs. -/
theorem GrowsBy.insertEach {fresh : List (String × String)} (grows : GrowsBy old map fresh)
    (calls : List (String × String)) :
    ∃ more, GrowsBy old (map.insertEach calls).2 (fresh ++ more) ∧
      more.length = (map.insertEach calls).1.count true := by
  induction calls generalizing map fresh with
  | nil => exact ⟨[], by rwa [List.append_nil], rfl⟩
  | cons call rest inductionHypothesis =>
      obtain ⟨more, grown, counted⟩ := inductionHypothesis (grows.insert call.1 call.2)
      rw [List.append_assoc] at grown
      rw [insertEach_cons]
      refine ⟨_, grown, ?_⟩
      rw [List.length_append, counted]
      cases (map.insert call.1 call.2).1 with
      | false => simp
      | true => simp [Nat.add_comm]

theorem exists_growsBy_insertEach (map : AddressMap) (calls : List (String × String)) :
    ∃ fresh, GrowsBy map (map.insertEach calls).2 fresh ∧
      fresh.length = (map.insertEach calls).1.count true :=
  (GrowsBy.refl map).insertEach calls

/--
Whatever map was built from a snapshot and earlier insertions, more insertions keep every list in
place and add the pairs they are about, each once. Every insertion that found its pair new has added
one. In another order they find as many new and lead to the same names with the same addresses.
-/
theorem insertEach_accumulates (saved : Snapshot) (earlier calls : List (String × String)) :
    let map := ((ofSnapshot saved).insertEach earlier).2
    let (results, next) := map.insertEach calls
    map.Tidy ∧ next.Tidy ∧
    (∀ name, map.addresses name <+: next.addresses name) ∧
    (∀ name text, next.knows name text = true ↔
      map.knows name text = true ∨
        ∃ call ∈ calls, normalizeName call.1 ≠ "" ∧ trimText call.2 ≠ "" ∧
          name = normalizeName call.1 ∧ text = trimText call.2) ∧
    next.pairCount = map.pairCount + results.count true ∧
    ∀ other, calls.Perm other →
      let (otherResults, otherNext) := map.insertEach other
      (∀ name, otherNext.snapshot.contains name = next.snapshot.contains name) ∧
      (∀ name text, otherNext.knows name text = next.knows name text) ∧
      otherResults.count true = results.count true := by
  intro map
  have tidy : map.Tidy := (tidy_ofSnapshot saved).insertEach earlier
  obtain ⟨fresh, grows, counted⟩ := exists_growsBy_insertEach map calls
  refine ⟨tidy, tidy.insertEach calls, ?_, ?_, ?_, ?_⟩
  · intro name
    rw [grows.addresses]
    exact List.prefix_append _ _
  · intro name text
    rw [knows_insertEach]
    simp [isStorable, and_assoc]
  · rw [grows.pairCount, counted]
  · intro other permuted
    obtain ⟨otherFresh, otherGrows, otherCounted⟩ := exists_growsBy_insertEach map other
    have knows (name text : String) :
        (map.insertEach other).2.knows name text = (map.insertEach calls).2.knows name text := by
      apply Bool.eq_iff_iff.mpr
      simp only [knows_insertEach, permuted.mem_iff]
    refine ⟨?_, knows, ?_⟩
    · intro name
      apply Bool.eq_iff_iff.mpr
      simp only [contains_insertEach, permuted.mem_iff]
    · -- Both orders gain the same pairs, each once.
      have samePairs : otherFresh.Perm fresh := by
        apply (List.perm_ext_iff_of_nodup otherGrows.nodup grows.nodup).mpr
        rintro ⟨name, text⟩
        rw [otherGrows.mem_iff, grows.mem_iff, knows]
      rw [← otherCounted, ← counted]
      exact samePairs.length_eq

/-- A list with a repetition, and an entry without a name. -/
def repetitive : Snapshot :=
  .ofList [("Example.com.", ["192.0.2.1", " 192.0.2.1"]), ("", ["192.0.2.9"])]

/-- Two spellings of one name, a blank address, a known pair, and one pair twice. -/
def mixedCalls : List (String × String) :=
  [("EXAMPLE.com", "192.0.2.3"), ("example.com..", " "), ("b.example.", "192.0.2.2"),
    ("c.example", "192.0.2.4"), ("C.example", "192.0.2.4")]

theorem insertEach_accumulates_mixed :
    let map := ((ofSnapshot repetitive).insertEach [("b.example", "192.0.2.2")]).2
    mixedCalls.Perm mixedCalls.reverse ∧
    (map.insertEach mixedCalls).1 = [true, false, false, true, false] ∧
    (map.insertEach mixedCalls.reverse).1.count true = 2 ∧
    (map.insertEach mixedCalls.reverse).2.addresses "example.com" = ["192.0.2.1", "192.0.2.3"] := by
  intro map
  have permuted : mixedCalls.Perm mixedCalls.reverse := (List.reverse_perm mixedCalls).symm
  have found : (map.insertEach mixedCalls).1 = [true, false, false, true, false] := by
    decide +kernel
  have alike :=
    (insertEach_accumulates repetitive [("b.example", "192.0.2.2")] mixedCalls).2.2.2.2.2
  have counted : (map.insertEach mixedCalls.reverse).1.count true =
      (map.insertEach mixedCalls).1.count true := (alike mixedCalls.reverse permuted).2.2
  refine ⟨permuted, found, ?_, by decide +kernel⟩
  rw [counted, found]
  rfl

end SplitDns.AddressMap
