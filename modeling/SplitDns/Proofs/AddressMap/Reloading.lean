import Mathlib.Data.Finset.Lattice.Fold
import SplitDns.Proofs.AddressMap.Loading
import SplitDns.Proofs.AddressMap.Matching
import SplitDns.Proofs.Dns.Keys

/-!
# Saved and loaded again

Loading brings every name into normal form once more. A name can still change then: blank space
before the points at its end stays when the points are taken off, and is at the end the next time.
`reload_iff`: a map is given back exactly if none of its names ends with blank space.
-/

namespace SplitDns.Dns

open SplitDns.Text

/-! ### Normal forms of normal forms -/

/-- Normalizing takes something away or leaves every character in its place. -/
theorem normalizeChars_eq_asciiLower {text : List Char}
    (kept : text.length ≤ (normalizeChars text).length) :
    trim text = text ∧ normalizeChars text = asciiLower text := by
  have trimmed := trim_eq_of_length_le kept
  refine ⟨trimmed, ?_⟩
  have cut : dropTrailing (· == '.') text <+: text := isPrefixOf_dropTrailing _ _
  rw [normalizeChars, trimmed, asciiLower, List.length_map] at kept
  rw [normalizeChars, trimmed, cut.eq_of_length_le kept]

/-- The end is only blank where something was taken away. -/
theorem isBlank_getLast?_of_length_le {text : List Char} {last : Char}
    (kept : text.length ≤ (normalizeChars text).length)
    (found : (normalizeChars text).getLast? = some last) : isBlank last = false := by
  obtain ⟨trimmed, lowered⟩ := normalizeChars_eq_asciiLower kept
  rw [lowered, asciiLower, List.getLast?_map] at found
  obtain ⟨original, atEnd, rfl⟩ := Option.map_eq_some_iff.mp found
  rw [isBlank_toLower]
  rw [← trimmed] at atEnd
  exact getLast?_dropTrailing atEnd

theorem normalizeChars_eq_self_iff {text : List Char} :
    normalizeChars (normalizeChars text) = normalizeChars text ↔
      ∀ last, (normalizeChars text).getLast? = some last → isBlank last = false := by
  constructor
  · intro same last found
    rw [← same] at found
    exact isBlank_getLast?_of_length_le (congrArg List.length same).ge found
  · intro solid
    exact normalizeChars_of_normal (normal_normalizeChars_iff.mpr solid)

/-- The last character of a name is not blank. -/
def EndsSolid (name : String) : Prop :=
  ∀ last, name.toList.getLast? = some last → isBlank last = false

instance (name : String) : Decidable (EndsSolid name) :=
  decidable_of_iff (name.toList.getLast?.all fun last => !isBlank last)
    (by simp [EndsSolid, Option.all_eq_true])

theorem normalizeName_eq_self_iff {text : String} :
    normalizeName (normalizeName text) = normalizeName text ↔ EndsSolid (normalizeName text) := by
  simp only [normalizeName, EndsSolid, String.toList_ofList, String.ofList_inj]
  exact normalizeChars_eq_self_iff

theorem endsSolid_of_length_le {text : String}
    (kept : text.length ≤ (normalizeName text).length) : EndsSolid (normalizeName text) := by
  intro last found
  rw [normalizeName, String.length_ofList, ← String.length_toList] at kept
  rw [normalizeName, String.toList_ofList] at found
  exact isBlank_getLast?_of_length_le kept found

/--
Where every name is the normal form of one of the names, all of them end solid: the one it comes
from is longer, or nothing was taken away. The induction is on the distance to a greatest length.
-/
theorem endsSolid_of_onto {names : List String}
    (onto : ∀ name ∈ names, ∃ other ∈ names, normalizeName other = name) {name : String}
    (found : name ∈ names) : EndsSolid name := by
  have bounded : ∀ other ∈ names, other.length ≤ names.toFinset.sup String.length := by
    intro other inNames
    exact Finset.le_sup (List.mem_toFinset.mpr inNames)
  induction distance : names.toFinset.sup String.length - name.length
    using Nat.strong_induction_on generalizing name with
  | _ distance inductionHypothesis =>
      obtain ⟨other, inNames, rfl⟩ := onto name found
      by_cases kept : other.length ≤ (normalizeName other).length
      · exact endsSolid_of_length_le kept
      · have solid : EndsSolid other := by
          refine inductionHypothesis _ ?_ inNames rfl
          have := bounded other inNames
          omega
        obtain ⟨third, _, rfl⟩ := onto other inNames
        rw [normalizeName_eq_self_iff.mpr solid]
        exact solid

/-- The key of a name has visible characters only. -/
theorem endsSolid_key (name : Name) : EndsSolid name.key := by
  rw [← normalizeName_key]
  exact normalizeName_eq_self_iff.mp (by rw [normalizeName_key, normalizeName_key])

end SplitDns.Dns

namespace SplitDns.AddressMap

open SplitDns.Dns
open SplitDns.Files

variable {map : AddressMap} {name text : String} {calls : List (String × String)}

/-! ### What a map holds -/

theorem knows_iff_exists_pair :
    map.knows name text = true ↔
      ∃ pair ∈ map.snapshot.pairs, pair.1 = name ∧ text ∈ pair.2 := by
  rw [knows_iff, addresses]
  constructor
  · intro member
    cases found : map.snapshot.find? name with
    | none => simp [found] at member
    | some texts =>
        rw [found, Option.getD_some] at member
        exact ⟨(name, texts), SortedMap.find?_eq_some_iff.mp found, rfl, member⟩
  · rintro ⟨⟨other, texts⟩, recorded, rfl, member⟩
    rw [SortedMap.find?_eq_some_iff.mpr recorded]
    exact member

theorem contains_iff_mem_names :
    map.snapshot.contains name = true ↔ name ∈ map.snapshot.pairs.map Prod.fst := by
  rw [SortedMap.contains, Option.isSome_iff_exists]
  constructor
  · rintro ⟨texts, found⟩
    exact List.mem_map_of_mem (SortedMap.find?_eq_some_iff.mp found)
  · intro inNames
    obtain ⟨pair, recorded, rfl⟩ := List.mem_map.mp inNames
    exact ⟨pair.2, SortedMap.find?_eq_some_iff.mpr recorded⟩

theorem contains_of_knows (known : map.knows name text = true) :
    map.snapshot.contains name = true := by
  obtain ⟨pair, recorded, rfl, _⟩ := knows_iff_exists_pair.mp known
  exact contains_iff_mem_names.mpr (List.mem_map_of_mem recorded)

theorem Tidy.exists_knows (tidy : map.Tidy) (inMap : map.snapshot.contains name = true) :
    ∃ text, map.knows name text = true := by
  obtain ⟨texts, found⟩ := Option.isSome_iff_exists.mp inMap
  obtain ⟨text, member⟩ := List.exists_mem_of_ne_nil texts (tidy name texts found).1
  refine ⟨text, knows_iff.mpr ?_⟩
  rw [addresses, found]
  exact member

/-! ### Maps made by insertions -/

theorem ofSnapshot_insertEach (saved : Snapshot) (calls : List (String × String)) :
    ((ofSnapshot saved).insertEach calls).2 = (empty.insertEach (pairsOf saved ++ calls)).2 := by
  rw [ofSnapshot_eq_insertEach, insertEach_snd, insertEach_snd, insertEach_snd, List.foldl_append]

theorem trimmed_of_knows (known : (empty.insertEach calls).2.knows name text = true) :
    trimText text = text ∧ text ≠ "" := by
  rcases knows_insertEach.mp known with none | ⟨call, _, storable, _, rfl⟩
  · cases none
  · exact ⟨trimText_trimText call.2, (isStorable_iff.mp storable).2⟩

theorem normalized_of_contains (inMap : (empty.insertEach calls).2.snapshot.contains name = true) :
    name ≠ "" ∧ ∃ written, name = normalizeName written := by
  rcases contains_insertEach.mp inMap with none | ⟨call, _, storable, rfl⟩
  · cases none
  · exact ⟨(isStorable_iff.mp storable).1, call.1, rfl⟩

theorem wellFormed_insertEach
    (solid : ∀ name, (empty.insertEach calls).2.snapshot.contains name = true → EndsSolid name) :
    (empty.insertEach calls).2.WellFormed := by
  intro name texts found
  have inMap : (empty.insertEach calls).2.snapshot.contains name = true := by
    rw [SortedMap.contains, found]
    rfl
  obtain ⟨named, written, rfl⟩ := normalized_of_contains inMap
  obtain ⟨some, distinct⟩ := tidy_empty.insertEach calls _ texts found
  refine ⟨normalizeName_eq_self_iff.mpr (solid _ inMap), named, some, distinct, ?_⟩
  intro text member
  have known : (empty.insertEach calls).2.knows (normalizeName written) text = true := by
    rw [knows_iff, addresses, found]
    exact member
  exact trimmed_of_knows known

/-- What was learned under the keys of names comes back. -/
theorem ofSnapshot_snapshot_of_keys
    (keys : ∀ call ∈ calls, ∃ domain : Name, call.1 = domain.key) :
    ofSnapshot (empty.insertEach calls).2.snapshot = (empty.insertEach calls).2 := by
  apply ofSnapshot_snapshot
  apply wellFormed_insertEach
  intro name inMap
  rcases contains_insertEach.mp inMap with none | ⟨call, found, _, rfl⟩
  · cases none
  · obtain ⟨domain, written⟩ := keys call found
    rw [written, normalizeName_key]
    exact endsSolid_key domain

/-- Loading normalizes the names once more; names that become one have their addresses together. -/
theorem knows_ofSnapshot_insertEach :
    (ofSnapshot (empty.insertEach calls).2.snapshot).knows name text = true ↔
      name ≠ "" ∧ ∃ old, (empty.insertEach calls).2.knows old text = true ∧
        normalizeName old = name := by
  rw [knows_ofSnapshot]
  constructor
  · rintro ⟨named, _, pair, recorded, normalized, written, member, rfl⟩
    have known := knows_iff_exists_pair.mpr ⟨pair, recorded, rfl, member⟩
    rw [(trimmed_of_knows known).1]
    exact ⟨named, pair.1, known, normalized⟩
  · rintro ⟨named, old, known, normalized⟩
    obtain ⟨trimmed, filled⟩ := trimmed_of_knows known
    obtain ⟨pair, recorded, rfl, member⟩ := knows_iff_exists_pair.mp known
    exact ⟨named, filled, pair, recorded, normalized, text, member, trimmed⟩

/-- The names of a map that comes back are the normal forms of its names. -/
theorem endsSolid_of_reload
    (same : ofSnapshot (empty.insertEach calls).2.snapshot = (empty.insertEach calls).2)
    (inMap : (empty.insertEach calls).2.snapshot.contains name = true) : EndsSolid name := by
  refine endsSolid_of_onto (fun other inNames => ?_) (contains_iff_mem_names.mp inMap)
  have tidy : (empty.insertEach calls).2.Tidy := tidy_empty.insertEach calls
  obtain ⟨text, known⟩ := tidy.exists_knows (contains_iff_mem_names.mpr inNames)
  rw [← same, knows_ofSnapshot_insertEach] at known
  obtain ⟨_, old, oldKnown, normalized⟩ := known
  exact ⟨old, contains_iff_mem_names.mp (contains_of_knows oldKnown), normalized⟩

/--
Whatever map was built from a snapshot and insertions, the map of its snapshot has the same names
with the same addresses in the same order exactly if none of its names ends with blank space. In any
case it has for every name the addresses of the names that have it for their normal form. A map that
was saved is loaded as the map of its snapshot.
-/
theorem reload_iff [Caller] (saved : Snapshot) (calls : List (String × String)) :
    let map := ((ofSnapshot saved).insertEach calls).2
    let again := ofSnapshot map.snapshot
    (again.snapshot = map.snapshot ↔
      ∀ name, map.snapshot.contains name = true → EndsSolid name) ∧
    (∀ name text, again.knows name text = true ↔
      name ≠ "" ∧ ∃ old, map.knows old text = true ∧ normalizeName old = name) ∧
    ∀ files path next, map.save files path = (.ok (), next) → load next path = again := by
  intro map again
  have made : map = (empty.insertEach (pairsOf saved ++ calls)).2 :=
    ofSnapshot_insertEach saved calls
  refine ⟨⟨?_, ?_⟩, ?_, fun files path next => load_eq_ofSnapshot⟩
  · intro same
    have back : ofSnapshot map.snapshot = map := congrArg AddressMap.mk same
    rw [made] at back ⊢
    exact fun name => endsSolid_of_reload back
  · intro solid
    have wellFormed : map.WellFormed := by
      rw [made] at solid ⊢
      exact wellFormed_insertEach solid
    exact congrArg AddressMap.snapshot (ofSnapshot_snapshot wellFormed)
  · intro name text
    unfold again
    rw [made]
    exact knows_ofSnapshot_insertEach

/-- Two names that are different now and the same in normal form. -/
def blankEnded : List (String × String) :=
  [("a .", "192.0.2.1"), ("A", "192.0.2.2")]

section BlankEnded

attribute [local instance] Caller.first

theorem reload_iff_blankEnded :
    let map := ((ofSnapshot .empty).insertEach blankEnded).2
    (map.save .empty "map.json").1 = .ok () ∧
    (load (map.save .empty "map.json").2 "map.json").snapshot ≠ map.snapshot ∧
    (load (map.save .empty "map.json").2 "map.json").knows "a" "192.0.2.1" = true := by
  intro map
  obtain ⟨comesBack, known, loaded⟩ := reload_iff .empty blankEnded
  have saved : (map.save .empty "map.json").1 = .ok () := by decide +kernel
  rw [loaded .empty "map.json" _ (Prod.ext saved rfl)]
  refine ⟨saved, ?_, ?_⟩
  · intro back
    exact absurd (comesBack.mp back "a " (by decide +kernel)) (by decide +kernel)
  · exact (known "a" "192.0.2.1").mpr ⟨by decide, "a ", by decide +kernel, by decide +kernel⟩

end BlankEnded

/-- What is recorded under one name comes back under another. -/
theorem insert_blankEnded_changes :
    let map := (empty.insert "a ." "192.0.2.1").2
    map.snapshot.pairs = [("a ", ["192.0.2.1"])] ∧
    (ofSnapshot map.snapshot).snapshot.pairs = [("a", ["192.0.2.1"])] ∧
    (ofSnapshot map.snapshot).snapshot ≠ map.snapshot := by
  decide +kernel

end SplitDns.AddressMap
