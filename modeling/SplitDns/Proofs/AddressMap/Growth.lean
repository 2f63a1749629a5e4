import SplitDns.AddressMap.Basic
import SplitDns.Proofs.Address.Written

/-!
# Growth of the address map

Recording adds at most one pair and takes none away. `knows_insert` says which pairs a map knows
after an insertion, and `insert_snd_of_not_new` that one which is not new changes nothing.
`GrowsBy` is what any number of insertions do: fresh pairs come behind the old ones.
-/

namespace SplitDns.AddressMap

open SplitDns.Address
open SplitDns.Dns
open SplitDns.Text

variable {map : AddressMap} {name address other text : String}

theorem addresses_put (snapshot : Snapshot) (name other : String) (texts : List String) :
    addresses ⟨snapshot.put name texts⟩ other =
      if other = name then texts else addresses ⟨snapshot⟩ other := by
  rw [addresses, SortedMap.find?_put]
  by_cases same : other = name
  · rw [if_pos same, if_pos same, Option.getD_some]
  · rw [if_neg same, if_neg same]
    rfl

theorem knows_iff : map.knows name address = true ↔ address ∈ map.addresses name := by
  rw [knows, List.contains_iff_mem]

theorem record_eq_push (map : AddressMap) (name address : String) :
    map.record name address = map.push name address := by
  unfold record push
  split <;> rfl

theorem push_of_knows (known : map.knows name address = true) :
    map.push name address = (false, map) := by
  rw [push, if_pos known]

theorem push_of_not_knows (new : map.knows name address = false) :
    map.push name address =
      (true, ⟨map.snapshot.put name (map.addresses name ++ [address])⟩) := by
  rw [push, if_neg (by simp [new])]

theorem push_fst : (map.push name address).1 = !map.knows name address := by
  cases known : map.knows name address with
  | true => rw [push_of_knows known, Bool.not_true]
  | false => rw [push_of_not_knows known, Bool.not_false]

theorem addresses_push :
    (map.push name address).2.addresses other =
      if other = name ∧ map.knows name address = false then map.addresses name ++ [address]
      else map.addresses other := by
  cases known : map.knows name address with
  | true => simp [push_of_knows known]
  | false =>
      rw [push_of_not_knows known, addresses_put]
      simp

theorem knows_push :
    (map.push name address).2.knows other text = true ↔
      map.knows other text = true ∨ other = name ∧ text = address := by
  rw [knows_iff, addresses_push, knows_iff]
  cases known : map.knows name address with
  | true =>
      have member := knows_iff.mp known
      constructor
      · intro found
        exact .inl (by simpa using found)
      · rintro (old | ⟨rfl, rfl⟩)
        · simpa using old
        · simpa using member
  | false =>
      by_cases same : other = name
      · subst same
        simp
      · simp [same]

theorem contains_push :
    (map.push name address).2.snapshot.contains other = true ↔
      map.snapshot.contains other = true ∨ other = name := by
  cases known : map.knows name address with
  | true =>
      rw [push_of_knows known]
      constructor
      · exact .inl
      · rintro (old | rfl)
        · exact old
        · rw [knows_iff, addresses] at known
          rw [SortedMap.contains]
          cases found : map.snapshot.find? other with
          | none => simp [found] at known
          | some texts => rfl
  | false =>
      rw [push_of_not_knows known, SortedMap.contains, SortedMap.find?_put]
      by_cases same : other = name
      · simp [same]
      · simp [same, SortedMap.contains]

/-! ### Lists without repetition -/

/-- Every name in the map has addresses, and none of them twice. -/
def Tidy (map : AddressMap) : Prop :=
  ∀ name texts, map.snapshot.find? name = some texts → texts ≠ [] ∧ texts.Nodup

theorem tidy_empty : empty.Tidy := by
  intro name texts found
  cases found

theorem Tidy.nodup_addresses (tidy : map.Tidy) (name : String) : (map.addresses name).Nodup := by
  unfold addresses
  cases found : map.snapshot.find? name with
  | none => exact List.nodup_nil
  | some texts => exact (tidy name texts found).2

theorem Tidy.push (tidy : map.Tidy) (name address : String) :
    (map.push name address).2.Tidy := by
  cases known : map.knows name address with
  | true =>
      rw [push_of_knows known]
      exact tidy
  | false =>
      rw [push_of_not_knows known]
      intro other texts found
      rw [SortedMap.find?_put] at found
      split at found
      next =>
        cases found
        refine ⟨by simp, List.nodup_append.mpr ⟨tidy.nodup_addresses name, by simp, ?_⟩⟩
        rintro text member last isLast rfl
        rw [List.mem_singleton.mp isLast] at member
        rw [knows_iff.mpr member] at known
        cases known
      next => exact tidy other texts found

/-! ### The number of pairs -/

/-- The number of pairs of names and addresses. -/
def pairCount (map : AddressMap) : Nat :=
  (map.snapshot.pairs.flatMap Prod.snd).length

/-- Writing a list under a key exchanges the lengths of the old list and the new one. -/
theorem length_putSorted (key : String) (texts : List String)
    {pairs : List (String × List String)} (ordered : Ordered pairs) :
    ((putSorted key texts pairs).flatMap Prod.snd).length +
        ((pairs.lookup key).getD []).length =
      (pairs.flatMap Prod.snd).length + texts.length := by
  induction pairs with
  | nil => simp [putSorted]
  | cons head rest inductionHypothesis =>
      obtain ⟨before, restOrdered⟩ := List.pairwise_cons.mp ordered
      have inRest := inductionHypothesis restOrdered
      rw [putSorted, SortedMap.lookup_cons]
      by_cases less : key < head.1
      · have fresh : rest.lookup key = none := by
          rw [List.lookup_eq_none_iff]
          intro pair found
          exact bne_iff_ne.mpr (Std.ne_of_lt (String.lt_trans less (before pair found)))
        rw [if_pos less, if_neg (Std.ne_of_lt less), fresh]
        simp only [List.flatMap_cons, List.length_append, Option.getD_none, List.length_nil]
        omega
      · rw [if_neg less]
        by_cases equal : key = head.1
        · rw [if_pos equal, if_pos equal]
          simp only [List.flatMap_cons, List.length_append, Option.getD_some]
          omega
        · rw [if_neg equal, if_neg equal]
          simp only [List.flatMap_cons, List.length_append]
          omega

/-- Every new pair is one more. -/
theorem pairCount_push :
    (map.push name address).2.pairCount = map.pairCount + (map.push name address).1.toNat := by
  cases known : map.knows name address with
  | true => rw [push_of_knows known, Bool.toNat_false, Nat.add_zero]
  | false =>
      have lengths := length_putSorted name (map.addresses name ++ [address]) map.snapshot.ordered
      have old : ((map.snapshot.pairs.lookup name).getD []).length =
          (map.addresses name).length := rfl
      have longer : (map.addresses name ++ [address]).length = (map.addresses name).length + 1 :=
        List.length_append
      rw [old, longer] at lengths
      rw [push_of_not_knows known, Bool.toNat_true]
      simp only [pairCount, SortedMap.put]
      omega

/-! ### Pairs as they come -/

/-- A pair of which nothing is left in normal form is not recorded. -/
def isStorable (name address : String) : Bool :=
  !(normalizeName name).isEmpty && !(trimText address).isEmpty

theorem isStorable_iff :
    isStorable name address = true ↔ normalizeName name ≠ "" ∧ trimText address ≠ "" := by
  simp only [isStorable, Bool.and_eq_true, Bool.not_eq_true', String.isEmpty_eq_false_iff, ne_eq]

theorem insert_eq (map : AddressMap) (name address : String) :
    map.insert name address =
      if isStorable name address then map.push (normalizeName name) (trimText address)
      else (false, map) := by
  unfold insert isStorable
  simp only [record_eq_push]
  cases (normalizeName name).isEmpty <;> cases (trimText address).isEmpty <;> rfl

theorem knows_insert :
    (map.insert name address).2.knows other text = true ↔
      map.knows other text = true ∨
        isStorable name address = true ∧ other = normalizeName name ∧ text = trimText address := by
  rw [insert_eq]
  by_cases storable : isStorable name address = true
  · rw [if_pos storable, knows_push]
    simp [storable]
  · rw [if_neg storable]
    simp [storable]

theorem insert_snd_of_not_new (old : (map.insert name address).1 = false) :
    (map.insert name address).2 = map := by
  rw [insert_eq] at old ⊢
  by_cases storable : isStorable name address = true
  · rw [if_pos storable, push_fst] at old
    rw [if_pos storable, push_of_knows (by simpa using old)]
  · rw [if_neg storable]

theorem Tidy.insert (tidy : map.Tidy) (name address : String) :
    (map.insert name address).2.Tidy := by
  rw [insert_eq]
  split
  · exact tidy.push _ _
  · exact tidy

/-- A name is in the map as soon as a pair of it was recorded. -/
theorem contains_insert :
    (map.insert name address).2.snapshot.contains other = true ↔
      map.snapshot.contains other = true ∨
        isStorable name address = true ∧ other = normalizeName name := by
  rw [insert_eq]
  by_cases storable : isStorable name address = true
  · rw [if_pos storable, contains_push]
    simp [storable]
  · rw [if_neg storable]
    simp [storable]

/-! ### Pairs with IPv4 addresses -/

@[simp]
theorem trimText_ipv4 (address : Ipv4) :
    trimText (Ip.v4 address).text = (Ip.v4 address).text := by
  rw [trimText, Ip.text, Ip.toText, String.toList_ofList, address.solid_toText.trim_eq]

theorem text_ipv4_ne_empty (address : Ipv4) : (Ip.v4 address).text ≠ "" := by
  intro empty
  have none : address.toText = [] := by
    simpa [Ip.text, Ip.toText] using empty
  simp [Ipv4.toText, Ipv4.octets, join] at none

@[simp]
theorem isStorable_ipv4 (name : String) (address : Ipv4) :
    isStorable name (Ip.v4 address).text = !(normalizeName name).isEmpty := by
  have some : (Ip.v4 address).text.isEmpty = false := by
    rw [String.isEmpty_eq_false_iff]
    exact text_ipv4_ne_empty address
  rw [isStorable, trimText_ipv4, some, Bool.not_false, Bool.and_true]

/-- A name in normal form is recorded unless it is empty. -/
theorem knows_insert_ipv4 (normal : normalizeName name = name) (address : Ipv4) :
    (map.insert name (Ip.v4 address).text).2.knows other text = true ↔
      map.knows other text = true ∨
        name ≠ "" ∧ other = name ∧ text = (Ip.v4 address).text := by
  rw [knows_insert, isStorable_ipv4, trimText_ipv4, normal, Bool.not_eq_true',
    String.isEmpty_eq_false_iff]

/-! ### Growth by fresh pairs -/

/-- The addresses that pairs give a name, in order. -/
def textsOf (name : String) (pairs : List (String × String)) : List String :=
  (pairs.filter (·.1 == name)).map Prod.snd

/-- The old addresses have kept their places, and behind them come the fresh pairs, each once. -/
structure GrowsBy (old new : AddressMap) (fresh : List (String × String)) : Prop where
  nodup : fresh.Nodup
  unknown : ∀ pair ∈ fresh, old.knows pair.1 pair.2 = false
  addresses : ∀ name, new.addresses name = old.addresses name ++ textsOf name fresh
  pairCount : new.pairCount = old.pairCount + fresh.length

namespace GrowsBy

variable {old : AddressMap} {fresh : List (String × String)}

theorem refl (map : AddressMap) : GrowsBy map map [] where
  nodup := .nil
  unknown := nofun
  addresses _ := (List.append_nil _).symm
  pairCount := rfl

theorem knows_iff (grows : GrowsBy old map fresh) :
    map.knows name text = true ↔ old.knows name text = true ∨ (name, text) ∈ fresh := by
  have inTexts : text ∈ textsOf name fresh ↔ (name, text) ∈ fresh := by
    simp [textsOf]
  rw [AddressMap.knows_iff, AddressMap.knows_iff, grows.addresses, List.mem_append, inTexts]

theorem push (grows : GrowsBy old map fresh) (new : map.knows name address = false) :
    GrowsBy old (map.push name address).2 (fresh ++ [(name, address)]) := by
  obtain ⟨oldUnknown, notFresh⟩ :
      old.knows name address = false ∧ (name, address) ∉ fresh := by
    rw [← Bool.not_eq_true, grows.knows_iff, not_or, Bool.not_eq_true] at new
    exact new
  constructor
  case nodup =>
    apply List.nodup_append.mpr
    refine ⟨grows.nodup, List.pairwise_singleton _ _, ?_⟩
    rintro pair found last isLast rfl
    exact notFresh (List.mem_singleton.mp isLast ▸ found)
  case unknown =>
    intro pair found
    rcases List.mem_append.mp found with earlier | isLast
    · exact grows.unknown pair earlier
    · rw [List.mem_singleton.mp isLast]
      exact oldUnknown
  case addresses =>
    intro other
    rw [addresses_push, grows.addresses, grows.addresses, textsOf, textsOf, textsOf,
      List.filter_append, List.map_append, ← List.append_assoc]
    by_cases same : other = name
    · subst same
      simp [new]
    · simp [same, Ne.symm same]
  case pairCount =>
    rw [pairCount_push, push_fst, new, grows.pairCount, List.length_append]
    rfl

/-- A pair is fresh exactly if the insertion finds it new. -/
theorem insert (grows : GrowsBy old map fresh) (name address : String) :
    GrowsBy old (map.insert name address).2
      (fresh ++ if (map.insert name address).1 then [(normalizeName name, trimText address)]
        else []) := by
  cases found : (map.insert name address).1 with
  | false =>
      rw [insert_snd_of_not_new found, if_neg Bool.false_ne_true, List.append_nil]
      exact grows
  | true =>
      rw [if_pos rfl]
      rw [insert_eq] at found ⊢
      split at found
      next storable =>
        rw [if_pos storable]
        apply grows.push
        rw [push_fst, Bool.not_eq_true'] at found
        exact found
      next => cases found

end GrowsBy

end SplitDns.AddressMap
