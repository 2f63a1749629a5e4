import SplitDns.AddressMap.Snapshot
import SplitDns.Proofs.AddressMap.Accumulating
import SplitDns.Proofs.AddressMap.Loading
import SplitDns.Proofs.Outcome
import SplitDns.Proofs.Pattern.Parsing
import SplitDns.Proofs.Pattern.Routing
import SplitDns.Proofs.Text.Searching

/-!
# Addresses under a pattern

There are two ways to the addresses that a snapshot has for the names with a pattern. One looks
through the entries as they are written; the other loads the snapshot into a map, with names in
normal form and trimmed addresses, and looks through that. `agrees_load_iff` says of which
snapshots both give the same addresses.
-/

namespace SplitDns

namespace Pattern

open SplitDns.Dns
open SplitDns.Text

variable {pattern name : String}

/-- The name contains the pattern as both are written. -/
def StandsIn (pattern name : String) : Prop :=
  containsText name.toList pattern.toList = true

instance (pattern name : String) : Decidable (StandsIn pattern name) :=
  inferInstanceAs (Decidable (_ = true))

theorem Proper.asciiLower {text : List Char} (proper : Proper text) : asciiLower text = text := by
  apply asciiLower_eq_self
  intro character found
  have lowered : character ∈ lowerFrom [] text := by
    rw [← lowerCase, proper.lower]
    exact found
  obtain ⟨_, alone⟩ := isLower_of_mem_lowerFrom lowered
  by_cases ascii : character.toNat < 128
  · rw [lowerChar, if_pos ascii] at alone
    exact List.singleton_inj.mp alone
  · apply Char.toNat_inj.mp
    rw [toNat_toLower]
    apply if_neg
    omega

/-- Normalizing a name takes away no part of it but points at its end. -/
theorem covers_of_standsIn (proper : Proper pattern.toList)
    (last : pattern.toList.getLast? ≠ some '.') (stands : StandsIn pattern name) :
    Covers pattern name := by
  have ends : ∀ character, pattern.toList.getLast? = some character →
      isBlank character = false ∧ (character == '.') = false := by
    intro character isLast
    refine ⟨proper.noBlank character (List.mem_of_getLast? isLast), beq_false_of_ne ?_⟩
    rintro rfl
    exact last isLast
  have someFirst := List.head?_eq_some_head proper.filled
  have someLast := List.getLast?_eq_some_getLast proper.filled
  have inTrimmed : pattern.toList <:+: trim name.toList := by
    rw [infix_trim_iff ⟨_, someFirst, proper.noBlank _ (List.mem_of_head? someFirst)⟩
      ⟨_, someLast, (ends _ someLast).1⟩]
    exact containsText_iff.mp stands
  have inCut : pattern.toList <:+: dropTrailing (· == '.') (trim name.toList) := by
    rw [dropTrailing, ← List.reverse_infix, List.reverse_reverse, infix_dropWhile_iff]
    · exact List.reverse_infix.mpr inTrimmed
    · rw [List.head?_reverse]
      exact ⟨_, someLast, (ends _ someLast).2⟩
  have inLower : Text.asciiLower pattern.toList <:+:
      Text.asciiLower (dropTrailing (· == '.') (trim name.toList)) :=
    inCut.map Char.toLower
  rw [proper.asciiLower] at inLower
  rw [Covers, normalizeName, String.toList_ofList, normalizeChars]
  exact containsText_iff.mpr inLower

theorem covers_iff_of_normal (normal : normalizeName name = name) :
    Covers pattern name ↔ StandsIn pattern name := by
  rw [Covers, StandsIn, normal]

end Pattern

namespace Snapshot

open SplitDns.Pattern

variable {saved : Snapshot} {pattern text other : String} {texts : List String}

/-! ### Entries as they are written -/

theorem mem_insertText : other ∈ insertText text texts ↔ other = text ∨ other ∈ texts := by
  induction texts with
  | nil => simp [insertText]
  | cons first rest inductionHypothesis =>
      unfold insertText
      split
      · simp
      · split
        next same => simp [same]
        next =>
          rw [List.mem_cons, inductionHypothesis, List.mem_cons]
          grind

theorem ordered_insertText (ordered : texts.Pairwise (· < ·)) :
    (insertText text texts).Pairwise (· < ·) := by
  induction texts with
  | nil => exact List.pairwise_singleton _ _
  | cons first rest inductionHypothesis =>
      obtain ⟨before, restOrdered⟩ := List.pairwise_cons.mp ordered
      unfold insertText
      split
      next less =>
        refine List.pairwise_cons.mpr ⟨?_, ordered⟩
        intro later found
        rcases List.mem_cons.mp found with rfl | inRest
        · exact less
        · exact String.lt_trans less (before later inRest)
      next notLess =>
        split
        next => exact ordered
        next different =>
          refine List.pairwise_cons.mpr ⟨?_, inductionHypothesis restOrdered⟩
          intro later found
          rcases mem_insertText.mp found with rfl | inRest
          · exact Std.lt_of_le_of_ne (Std.not_lt.mp notLess) (Ne.symm different)
          · exact before later inRest

theorem mem_foldl_insertText {given : List String} :
    other ∈ given.foldl (fun texts text => insertText text texts) texts ↔
      other ∈ given ∨ other ∈ texts := by
  induction given generalizing texts with
  | nil => simp
  | cons first rest inductionHypothesis =>
      rw [List.foldl_cons, inductionHypothesis, mem_insertText, List.mem_cons]
      grind

theorem ordered_foldl_insertText (given : List String) (ordered : texts.Pairwise (· < ·)) :
    (given.foldl (fun texts text => insertText text texts) texts).Pairwise (· < ·) := by
  induction given generalizing texts with
  | nil => exact ordered
  | cons first rest inductionHypothesis =>
      rw [List.foldl_cons]
      exact inductionHypothesis (ordered_insertText ordered)

/-- An accepted pattern is looked for as it is. -/
theorem matching_eq (proper : Proper pattern.toList) (saved : Snapshot) :
    saved.matching pattern = saved.pairs.filter fun entry => decide (StandsIn pattern entry.1) := by
  have wanted : searchText pattern = pattern.toList := proper.canonical
  have filled : pattern.toList.isEmpty = false := by
    simpa using proper.filled
  rw [matching, wanted, filled]
  apply List.filter_congr
  intro entry _
  exact Bool.decide_eq_true.symm

theorem mem_addressesMatching (proper : Proper pattern.toList) :
    text ∈ saved.addressesMatching pattern ↔
      ∃ entry ∈ saved.pairs, StandsIn pattern entry.1 ∧ text ∈ entry.2 := by
  rw [addressesMatching, mem_foldl_insertText, matching_eq proper]
  simp only [List.mem_flatMap, List.mem_filter, decide_eq_true_eq, List.not_mem_nil, or_false,
    and_assoc]

theorem nodup_addressesMatching (saved : Snapshot) (pattern : String) :
    (saved.addressesMatching pattern).Nodup := by
  apply (ordered_foldl_insertText _ .nil).imp
  rintro text _ less rfl
  exact String.lt_irrefl text less

end Snapshot

namespace AddressMap

open SplitDns.Dns
open SplitDns.Pattern
open SplitDns.Text

variable {map : AddressMap} {saved : Snapshot} {name pattern text : String}

/-! ### The map that is loaded -/

theorem knows_ofSnapshot :
    (ofSnapshot saved).knows name text = true ↔
      name ≠ "" ∧ text ≠ "" ∧ ∃ entry ∈ saved.pairs,
        normalizeName entry.1 = name ∧ ∃ written ∈ entry.2, trimText written = text := by
  have unknown : empty.knows name text = false := rfl
  rw [ofSnapshot_eq_insertEach, knows_insertEach, unknown]
  constructor
  · rintro (known | ⟨⟨key, written⟩, found, storable, rfl, rfl⟩)
    · cases known
    · obtain ⟨entry, recorded, rfl, listed⟩ := mem_pairsOf.mp found
      obtain ⟨named, filled⟩ := isStorable_iff.mp storable
      exact ⟨named, filled, entry, recorded, rfl, written, listed, rfl⟩
  · rintro ⟨named, filled, entry, recorded, rfl, written, listed, rfl⟩
    exact .inr ⟨(entry.1, written), mem_pairsOf.mpr ⟨entry, recorded, rfl, listed⟩,
      isStorable_iff.mpr ⟨named, filled⟩, rfl, rfl⟩

/-- The address is recorded for a name that contains the pattern. -/
def HoldsUnder (map : AddressMap) (pattern text : String) : Prop :=
  ∃ name, StandsIn pattern name ∧ map.knows name text = true

theorem holdsUnder_ofSnapshot (proper : Proper pattern.toList) :
    (ofSnapshot saved).HoldsUnder pattern text ↔
      text ≠ "" ∧ ∃ entry ∈ saved.pairs,
        Covers pattern entry.1 ∧ ∃ written ∈ entry.2, trimText written = text := by
  unfold HoldsUnder
  simp only [knows_ofSnapshot]
  constructor
  · rintro ⟨_, stands, _, filled, entry, recorded, rfl, listed⟩
    exact ⟨filled, entry, recorded, stands, listed⟩
  · rintro ⟨filled, entry, recorded, covers, listed⟩
    refine ⟨normalizeName entry.1, covers, ?_, filled, entry, recorded, rfl, listed⟩
    intro nameless
    have inNothing := containsText_iff.mp covers
    rw [nameless] at inNothing
    exact proper.filled (List.eq_nil_of_infix_nil inNothing)

/-- The entries of a snapshot and a map have the same addresses for the names with a pattern. -/
def Agrees (saved : Snapshot) (map : AddressMap) (pattern : String) : Prop :=
  ∀ text, text ∈ saved.addressesMatching pattern ↔ map.HoldsUnder pattern text

/--
What a snapshot has to be like for its entries to agree with the map. Where a name contains the
pattern as written, its addresses have no blanks around them, and the name contains the pattern in
normal form too; only a point at the end of the pattern can prevent that, and then another entry has
to have the address. Where a name contains the pattern in normal form only, its addresses are listed
for a name that contains it as written.
-/
structure ReadsAlike (saved : Snapshot) (pattern : String) : Prop where
  written : ∀ entry ∈ saved.pairs, StandsIn pattern entry.1 → ∀ text ∈ entry.2,
    text ≠ "" ∧ trimText text = text ∧
      (Covers pattern entry.1 ∨ pattern.toList.getLast? = some '.' ∧
        ∃ other ∈ saved.pairs, Covers pattern other.1 ∧ ∃ found ∈ other.2, trimText found = text)
  normal : ∀ entry ∈ saved.pairs, Covers pattern entry.1 → ¬ StandsIn pattern entry.1 →
    ∀ text ∈ entry.2, trimText text ≠ "" →
      ∃ other ∈ saved.pairs, StandsIn pattern other.1 ∧ trimText text ∈ other.2

/-- Names in normal form, and addresses without blanks around them. -/
def Clean (saved : Snapshot) : Prop :=
  ∀ entry ∈ saved.pairs, normalizeName entry.1 = entry.1 ∧
    ∀ text ∈ entry.2, text ≠ "" ∧ trimText text = text

theorem Clean.readsAlike (clean : Clean saved) (pattern : String) : ReadsAlike saved pattern where
  written := by
    intro entry recorded stands text listed
    obtain ⟨normal, trimmed⟩ := clean entry recorded
    exact ⟨(trimmed text listed).1, (trimmed text listed).2,
      .inl ((covers_iff_of_normal normal).mpr stands)⟩
  normal := by
    intro entry recorded covers absent
    exact absurd ((covers_iff_of_normal (clean entry recorded).1).mp covers) absent

theorem agrees_ofSnapshot_iff (proper : Proper pattern.toList) :
    Agrees saved (ofSnapshot saved) pattern ↔ ReadsAlike saved pattern := by
  unfold Agrees
  simp only [Snapshot.mem_addressesMatching proper, holdsUnder_ofSnapshot proper]
  constructor
  · intro agrees
    constructor
    case written =>
      intro entry recorded stands text listed
      obtain ⟨filled, other, otherRecorded, covers, found, otherListed, rfl⟩ :=
        (agrees text).mp ⟨entry, recorded, stands, listed⟩
      refine ⟨filled, trimText_trimText found, ?_⟩
      by_cases point : pattern.toList.getLast? = some '.'
      · exact .inr ⟨point, other, otherRecorded, covers, found, otherListed, rfl⟩
      · exact .inl (covers_of_standsIn proper point stands)
    case normal =>
      intro entry recorded covers _ text listed filled
      exact (agrees (trimText text)).mpr ⟨filled, entry, recorded, covers, text, listed, rfl⟩
  · intro alike text
    constructor
    · rintro ⟨entry, recorded, stands, listed⟩
      obtain ⟨filled, trimmed, covers | ⟨_, elsewhere⟩⟩ :=
        alike.written entry recorded stands text listed
      · exact ⟨filled, entry, recorded, covers, text, listed, trimmed⟩
      · exact ⟨filled, elsewhere⟩
    · rintro ⟨filled, entry, recorded, covers, found, listed, rfl⟩
      by_cases stands : StandsIn pattern entry.1
      · have trimmed := (alike.written entry recorded stands found listed).2.1
        exact ⟨entry, recorded, stands, trimmed.symm ▸ listed⟩
      · exact alike.normal entry recorded covers stands found listed filled

/--
For a snapshot that can be read and an accepted pattern, the entries and the map that is loaded have
the same addresses exactly if the snapshot reads alike under the pattern. A snapshot with names in
normal form and trimmed addresses does, under every pattern.
-/
theorem agrees_load_iff {files : Files.Store} {path given : String}
    (read : Snapshot.read files path = .ok saved) (accepted : normalize given = .ok pattern) :
    (Agrees saved (load files path) pattern ↔ ReadsAlike saved pattern) ∧
      (Clean saved → Agrees saved (load files path) pattern) := by
  have loaded : load files path = ofSnapshot saved := by
    rw [load, read]
  have exactly : Agrees saved (ofSnapshot saved) pattern ↔ ReadsAlike saved pattern :=
    agrees_ofSnapshot_iff (proper_of_normalize accepted)
  rw [loaded]
  exact ⟨exactly, fun clean => exactly.mpr (clean.readsAlike pattern)⟩

/-- A file that holds the snapshot. -/
def filesWith (text : String) : Files.Store :=
  .ofList [("map.json", .file (Text.utf8 text))]

/-- One name in two spellings, with the same address for both. -/
def respelled : Snapshot :=
  .ofList [("Video.Example.", ["192.0.2.1"]), ("video.example", ["192.0.2.1", "192.0.2.2"])]

/-- A name that contains the pattern only in lower case. -/
def capitalized : Snapshot :=
  .ofList [("Video.Example", ["192.0.2.1"])]

theorem agrees_load_respelled :
    Snapshot.read (filesWith respelled.toJson) "map.json" = .ok respelled ∧
    normalize " VIDEO" = .ok "video" ∧
    Agrees respelled (load (filesWith respelled.toJson) "map.json") "video" := by
  have read : Snapshot.read (filesWith respelled.toJson) "map.json" = .ok respelled := by
    decide +kernel
  have accepted : normalize " VIDEO" = .ok "video" := by decide +kernel
  refine ⟨read, accepted, (agrees_load_iff read accepted).1.mpr ⟨?_, ?_⟩⟩
  · decide +kernel
  · decide +kernel

/-- The map has the address for a name with the pattern, the entries do not have it. -/
theorem capitalized_disagrees :
    Snapshot.read (filesWith capitalized.toJson) "map.json" = .ok capitalized ∧
    normalize "video" = .ok "video" ∧
    capitalized.addressesMatching "video" = [] ∧
    (load (filesWith capitalized.toJson) "map.json").HoldsUnder "video" "192.0.2.1" ∧
    ¬ Agrees capitalized (load (filesWith capitalized.toJson) "map.json") "video" := by
  have none : capitalized.addressesMatching "video" = [] := by decide +kernel
  have held : (load (filesWith capitalized.toJson) "map.json").HoldsUnder "video" "192.0.2.1" :=
    ⟨"video.example", by decide +kernel, by decide +kernel⟩
  refine ⟨by decide +kernel, by decide +kernel, none, held, ?_⟩
  intro agrees
  have listed := (agrees "192.0.2.1").mpr held
  rw [none] at listed
  cases listed

end AddressMap

end SplitDns
