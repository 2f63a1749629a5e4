import SplitDns.Proofs.AddressMap.Growth
import SplitDns.Proofs.AddressMap.Printing
import SplitDns.Proofs.Files.Replacing

/-!
# A saved map is loaded again

Recording keeps every entry in the form in which a snapshot gives it back: a name in normal form
with distinct addresses, at least one. A map of that form is the map of its own snapshot, so that
`load_of_save` holds.
-/

namespace SplitDns.AddressMap

open SplitDns.Dns
open SplitDns.Files
open SplitDns.Text

variable {map : AddressMap} {saved : Snapshot} {name address text : String}
  {texts : List String}

/-- An entry that recording its addresses gives back. -/
structure WellFormedEntry (name : String) (texts : List String) : Prop where
  normal : normalizeName name = name
  named : name ≠ ""
  some : texts ≠ []
  distinct : texts.Nodup
  trimmed : ∀ text ∈ texts, trimText text = text ∧ text ≠ ""

def WellFormed (map : AddressMap) : Prop :=
  ∀ name texts, map.snapshot.find? name = some texts → WellFormedEntry name texts

theorem trimText_trimText (text : String) : trimText (trimText text) = trimText text := by
  rw [trimText, trimText, String.toList_ofList, trim_trim]

/-! ### Recording keeps the form -/

theorem wellFormed_empty : empty.WellFormed := by
  intro name texts found
  cases found

theorem WellFormed.tidy (wellFormed : map.WellFormed) : map.Tidy := by
  intro name texts found
  have entry := wellFormed name texts found
  exact ⟨entry.some, entry.distinct⟩

theorem wellFormed_push (wellFormed : map.WellFormed) (normal : normalizeName name = name)
    (named : name ≠ "") (trimmed : trimText address = address) (filled : address ≠ "") :
    (map.push name address).2.WellFormed := by
  cases known : map.knows name address with
  | true =>
      rw [push_of_knows known]
      exact wellFormed
  | false =>
      intro other texts found
      obtain ⟨some, distinct⟩ := wellFormed.tidy.push name address other texts found
      rw [push_of_not_knows known, SortedMap.find?_put] at found
      by_cases same : other = name
      · rw [if_pos same] at found
        cases found
        subst same
        have before : ∀ text ∈ map.addresses other, trimText text = text ∧ text ≠ "" := by
          unfold addresses
          cases entry : map.snapshot.find? other with
          | none => simp
          | some texts => exact (wellFormed other texts entry).trimmed
        refine ⟨normal, named, some, distinct, ?_⟩
        intro text member
        rcases List.mem_append.mp member with old | last
        · exact before text old
        · cases List.mem_singleton.mp last
          exact ⟨trimmed, filled⟩
      · rw [if_neg same] at found
        exact wellFormed other texts found

/-- A name has to reach its normal form at once for this. -/
theorem wellFormed_insert (wellFormed : map.WellFormed)
    (normal : normalizeName (normalizeName name) = normalizeName name) (address : String) :
    (map.insert name address).2.WellFormed := by
  rw [insert_eq]
  by_cases storable : isStorable name address = true
  · rw [if_pos storable]
    obtain ⟨named, filled⟩ := isStorable_iff.mp storable
    exact wellFormed_push wellFormed normal named (trimText_trimText address) filled
  · rw [if_neg storable]
    exact wellFormed

/-- Records addresses for a name in order. -/
def insertAll (map : AddressMap) (name : String) (texts : List String) : AddressMap :=
  texts.foldl (fun map address => (map.insert name address).2) map

def insertEntries (map : AddressMap) (pairs : List (String × List String)) : AddressMap :=
  pairs.foldl (fun map pair => map.insertAll pair.1 pair.2) map

theorem ofSnapshot_eq (saved : Snapshot) : ofSnapshot saved = empty.insertEntries saved.pairs := rfl

theorem wellFormed_insertAll (wellFormed : map.WellFormed) (normal : normalizeName name = name)
    (texts : List String) : (map.insertAll name texts).WellFormed := by
  induction texts generalizing map with
  | nil => exact wellFormed
  | cons text rest inductionHypothesis =>
      apply inductionHypothesis
      apply wellFormed_insert wellFormed
      rw [normal, normal]

theorem wellFormed_insertEntries {pairs : List (String × List String)}
    (wellFormed : map.WellFormed) (normal : ∀ pair ∈ pairs, normalizeName pair.1 = pair.1) :
    (map.insertEntries pairs).WellFormed := by
  induction pairs generalizing map with
  | nil => exact wellFormed
  | cons pair rest inductionHypothesis =>
      apply inductionHypothesis
      · exact wellFormed_insertAll wellFormed (normal pair List.mem_cons_self) pair.2
      · intro other later
        exact normal other (List.mem_cons_of_mem _ later)

/-! ### Recording a snapshot -/

theorem insert_of_trimmed (normal : normalizeName name = name) (named : name ≠ "")
    (trimmed : trimText text = text) (filled : text ≠ "") :
    map.insert name text = map.push name text := by
  have storable : isStorable name text = true := by
    simp [isStorable, normal, trimmed, named, filled]
  rw [insert_eq, if_pos storable, normal, trimmed]

/-- The addresses of an entry are recorded behind those that are there. -/
theorem insertAll_put {before : List String} (entry : WellFormedEntry name (before ++ texts)) :
    insertAll ⟨saved.put name before⟩ name texts = ⟨saved.put name (before ++ texts)⟩ := by
  induction texts generalizing before with
  | nil =>
      rw [List.append_nil]
      rfl
  | cons text rest inductionHypothesis =>
      have trimmed := entry.trimmed text (by simp)
      have held : addresses ⟨saved.put name before⟩ name = before := by
        rw [addresses_put, if_pos rfl]
      have new : knows ⟨saved.put name before⟩ name text = false := by
        refine Bool.eq_false_iff.mpr fun known => ?_
        rw [knows_iff, held] at known
        have distinct := entry.distinct
        rw [List.nodup_append] at distinct
        exact distinct.2.2 text known text List.mem_cons_self rfl
      rw [insertAll, List.foldl_cons, insert_of_trimmed entry.normal entry.named trimmed.1
        trimmed.2, push_of_not_knows new, held, SortedMap.put_put, ← insertAll]
      have shifted : before ++ text :: rest = (before ++ [text]) ++ rest := by simp
      rw [shifted] at entry ⊢
      exact inductionHypothesis entry

theorem insertAll_new (entry : WellFormedEntry name texts) (new : saved.find? name = none) :
    insertAll ⟨saved⟩ name texts = ⟨saved.put name texts⟩ := by
  obtain ⟨text, rest, rfl⟩ := List.exists_cons_of_ne_nil entry.some
  have trimmed := entry.trimmed text List.mem_cons_self
  have held : addresses ⟨saved⟩ name = [] := by
    rw [addresses, new, Option.getD_none]
  have unknown : knows ⟨saved⟩ name text = false := by
    rw [knows, held, List.contains_nil]
  rw [insertAll, List.foldl_cons, insert_of_trimmed entry.normal entry.named trimmed.1 trimmed.2,
    push_of_not_knows unknown, held, List.nil_append, ← insertAll]
  exact insertAll_put entry

theorem insertEntries_new {pairs : List (String × List String)} (ordered : Ordered pairs)
    (entries : ∀ pair ∈ pairs, WellFormedEntry pair.1 pair.2)
    (new : ∀ pair ∈ pairs, saved.find? pair.1 = none) :
    insertEntries ⟨saved⟩ pairs = ⟨pairs.foldl (fun map pair => map.put pair.1 pair.2) saved⟩ := by
  induction pairs generalizing saved with
  | nil => rfl
  | cons pair rest inductionHypothesis =>
      obtain ⟨before, restOrdered⟩ := List.pairwise_cons.mp ordered
      rw [insertEntries, List.foldl_cons, List.foldl_cons, insertAll_new
        (entries pair List.mem_cons_self) (new pair List.mem_cons_self), ← insertEntries]
      apply inductionHypothesis restOrdered
      · intro other later
        exact entries other (List.mem_cons_of_mem _ later)
      · intro other later
        have different : other.1 ≠ pair.1 := by
          intro equal
          have less := before other later
          rw [equal] at less
          exact String.lt_irrefl _ less
        rw [SortedMap.find?_put, if_neg different]
        exact new other (List.mem_cons_of_mem _ later)

/-- A map is the map of its snapshot. -/
theorem ofSnapshot_snapshot (wellFormed : map.WellFormed) : ofSnapshot map.snapshot = map := by
  have entries : ∀ pair ∈ map.snapshot.pairs, WellFormedEntry pair.1 pair.2 := by
    intro pair member
    exact wellFormed pair.1 pair.2 (SortedMap.find?_eq_some_iff.mpr member)
  have recorded : empty.insertEntries map.snapshot.pairs = _ :=
    insertEntries_new map.snapshot.ordered entries (by simp)
  rw [← SortedMap.ofList, SortedMap.ofList_pairs] at recorded
  rw [ofSnapshot_eq]
  exact recorded

/-! ### Files -/

theorem wellFormed_load {files : Store} {path : String}
    (normal : ∀ saved, Snapshot.read files path = .ok saved →
      ∀ pair ∈ saved.pairs, normalizeName pair.1 = pair.1) :
    (load files path).WellFormed := by
  unfold load
  cases read : Snapshot.read files path with
  | error cause => exact wellFormed_empty
  | ok saved => exact wellFormed_insertEntries wellFormed_empty (normal saved read)

/-- A map that was saved is loaded as the map of its snapshot. -/
theorem load_eq_ofSnapshot [Caller] {files next : Store} {path : String}
    (saved : map.save files path = (.ok (), next)) : load next path = ofSnapshot map.snapshot := by
  have text : (next.readText path).mapError Snapshot.ReadError.io = .ok map.snapshot.toJson := by
    rw [Store.readText_replaceText saved]
    rfl
  rw [load, Snapshot.read, text]
  simp only [bind, Except.bind, Snapshot.ofJson?_toJson]

/-- A map that was saved is loaded again. -/
theorem load_of_save [Caller] {files next : Store} {path : String} (wellFormed : map.WellFormed)
    (saved : map.save files path = (.ok (), next)) : load next path = map :=
  (load_eq_ofSnapshot saved).trans (ofSnapshot_snapshot wellFormed)

theorem load_of_error {files : Store} {path : String} {cause : IoError}
    (unread : files.read path = .error cause) : load files path = empty := by
  rw [load, Snapshot.read, Store.readText, unread]
  rfl

/-- What is loaded depends on nothing but what the path reads. -/
theorem load_of_sameFile {left right : Store} {path : String}
    (same : Store.SameFile path left right) : load right path = load left path := by
  cases readLeft : left.read path with
  | ok content =>
      have readRight := (same content).mp readLeft
      rw [load, load, Snapshot.read, Snapshot.read, Store.readText, Store.readText, readLeft,
        readRight]
  | error cause =>
      cases readRight : right.read path with
      | ok content =>
          rw [(same content).mpr readRight] at readLeft
          cases readLeft
      | error other => rw [load_of_error readLeft, load_of_error readRight]

end SplitDns.AddressMap
