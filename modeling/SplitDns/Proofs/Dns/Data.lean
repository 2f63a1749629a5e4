import SplitDns.Proofs.Dns.Names

/-!
# Reading written data

Record data is written part by part. `known_writeParts` carries the remembered suffixes over any
list of parts, and `readData?_writeParts` says that reading gives the data back as `settled` has
it. Data has to be `Proper`, which is what every reader gives.
-/

namespace SplitDns.Dns

open SplitDns.Address
open Wire

namespace RecordType

/-- Types with names in their data. -/
def naming : List UInt16 :=
  [cname, ns, ptr, mx, soa, srv]

/-- Types whose data is taken apart without names. -/
def divided : List UInt16 :=
  [a, aaaa, txt, opt]

end RecordType

namespace RecordData

/-- Data in the form that readers give. -/
def Proper : RecordData → Prop
  | .authority _ _ timers => timers.length = 20
  | .text strings => strings ≠ [] ∧ ∀ string ∈ strings, string.length < 256
  | .options entries => ∀ option ∈ entries,
      option.2.length < 65536 ∧ optionData? option.1 option.2 = some option.2
  | .raw type octets =>
      octets ≠ [] ∧ type ∉ RecordType.naming ∧ type ∉ RecordType.divided ∧
        type ∉ RecordType.dataless
  | _ => True

/--
Data as it is read after it was written. The target of a service comes back in lower case, and an
empty list of options takes no octets, so it is read as no data.
-/
def settled : RecordData → RecordData
  | .service priority weight port target => .service priority weight port target.lower
  | .options [] => .absent RecordType.opt
  | data => data

@[simp]
theorem type_settled (data : RecordData) : data.settled.type = data.type := by
  unfold settled
  split <;> rfl

end RecordData

namespace Wire

variable {message : Array UInt8} {place : Nat} {suffixes : Suffixes}

/-! ### Parts -/

/-- The names in a part can be held by the wire. -/
def Part.Sound : Part → Prop
  | .name labels => Bounded labels
  | .fullName labels => Bounded labels
  | _ => True

theorem place_le_reach_writeParts (suffixes : Suffixes) (place : Nat) (parts : List Part) :
    place + (writeParts suffixes place parts).octets.length ≤
      (writeParts suffixes place parts).reach := by
  induction parts generalizing suffixes place with
  | nil => simp [writeParts]
  | cons part rest inductionHypothesis =>
      have others := inductionHypothesis (writePart suffixes place part).suffixes
        (place + (writePart suffixes place part).octets.length)
      simp only [writeParts, List.length_append]
      omega

theorem known_writePart {part : Part} (sound : part.Sound) (known : Known message place suffixes)
    (held : Holds message place (writePart suffixes place part).octets) :
    Known message (place + (writePart suffixes place part).octets.length)
      (writePart suffixes place part).suffixes := by
  cases part with
  | pieces pieces => exact known.mono (Nat.le_add_right _ _)
  | gap => exact known.mono (Nat.le_add_right _ _)
  | name labels => exact known.writeLabels sound held
  | fullName labels => exact known.writeLabelsInFull sound held

theorem known_writeParts {parts : List Part} (sound : ∀ part ∈ parts, part.Sound)
    (known : Known message place suffixes)
    (held : Holds message place (writeParts suffixes place parts).octets) :
    Known message (place + (writeParts suffixes place parts).octets.length)
      (writeParts suffixes place parts).suffixes := by
  induction parts generalizing suffixes place with
  | nil => exact known
  | cons part rest inductionHypothesis =>
      simp only [writeParts] at held ⊢
      have first := known_writePart (sound part List.mem_cons_self) known held.left
      rw [List.length_append, ← Nat.add_assoc]
      exact inductionHypothesis (fun other found => sound other (List.mem_cons_of_mem _ found))
        first held.right

theorem bounded_labels (name : Name) : Bounded name.labels :=
  name.label_bounds

theorem bounded_lowerLabels (name : Name) : Bounded name.lowerLabels :=
  name.lower.label_bounds

theorem sound_dataParts (data : RecordData) : ∀ part ∈ dataParts data, part.Sound := by
  cases data <;>
    simp [dataParts, Part.Sound, Part.singles, bounded_labels, bounded_lowerLabels]

/-! ### Data without names -/

theorem flatten_singles (octets : Octets) :
    (octets.map fun octet => [octet]).flatten = octets := by
  induction octets with
  | nil => rfl
  | cons octet rest inductionHypothesis => simp [inductionHypothesis]

theorem flatten_fours (octets : Octets) : (fours octets).flatten = octets := by
  fun_induction fours octets with
  | case1 first second third fourth rest inductionHypothesis => simp [inductionHypothesis]
  | case2 => rfl
  | case3 => simp

theorem pairUp_octets (groups : List UInt16) :
    Ipv6.pairUp (groups.map octets16).flatten = groups := by
  induction groups with
  | nil => rfl
  | cons group rest inductionHypothesis =>
      simp only [List.map_cons, List.flatten_cons, octets16, List.cons_append, List.nil_append,
        Ipv6.pairUp, word16_octets, inductionHypothesis]

theorem length_flatten_octets16 (words : List UInt16) :
    (words.map octets16).flatten.length = 2 * words.length := by
  induction words with
  | nil => rfl
  | cons word rest inductionHypothesis =>
      simp only [List.map_cons, List.flatten_cons, List.length_append, length_octets16,
        inductionHypothesis, List.length_cons]
      omega

theorem ofOctets?_groups (address : Ipv6) :
    Ipv6.ofOctets? (address.groups.map octets16).flatten = some address := by
  have size := length_flatten_octets16 address.groups
  rw [address.length_groups] at size
  rw [Ipv6.ofOctets?, if_pos size, pairUp_octets, Ipv6.ofGroups?, dif_pos address.length_groups]

theorem strings?_pieces {strings : List Octets} (short : ∀ string ∈ strings, string.length < 256) :
    strings? (strings.flatMap fun string => [[UInt8.ofNat string.length], string]).flatten =
      some strings := by
  induction strings with
  | nil => simp [strings?]
  | cons string rest inductionHypothesis =>
      have size : (UInt8.ofNat string.length).toNat = string.length := by
        rw [UInt8.toNat_ofNat']
        exact Nat.mod_eq_of_lt (short string List.mem_cons_self)
      have others := inductionHypothesis fun other found =>
        short other (List.mem_cons_of_mem _ found)
      simp only [List.flatMap_cons, List.cons_append, List.nil_append, List.flatten_cons]
      rw [strings?]
      simp only [size, List.take_left, List.drop_left, if_true, others, Option.map_some]

theorem options?_pieces {total : Nat} {entries : List (UInt16 × Octets)}
    (proper : (RecordData.options entries).Proper)
    (within : (entries.flatMap optionPieces).flatten.length ≤ total) :
    options? total (entries.flatMap optionPieces).flatten = some (some entries) := by
  induction entries with
  | nil => simp [options?]
  | cons entry rest inductionHypothesis =>
      obtain ⟨short, read⟩ := proper entry List.mem_cons_self
      have size : (UInt16.ofNat entry.2.length).toNat = entry.2.length := by
        rw [UInt16.toNat_ofNat']
        exact Nat.mod_eq_of_lt short
      simp only [List.flatMap_cons, optionPieces, octets16, List.cons_append, List.nil_append,
        List.flatten_cons, List.length_cons, List.length_append] at within ⊢
      have others := inductionHypothesis
        (fun other found => proper other (List.mem_cons_of_mem _ found)) (by omega)
      rw [options?]
      simp only [word16_octets, size, List.take_left, List.drop_left, read, others,
        Option.map_some, Nat.lt_irrefl, if_false]
      rw [if_neg (by omega)]

/-- Data of a type that names no other name is the octets in its length. -/
theorem readData?_of_holds {type : UInt16} {octets : Octets} (plain : type ∉ RecordType.naming)
    (held : Holds message place octets) :
    readData? message type octets.length place =
      (plainData? type octets).map fun data => (data, place + octets.length) := by
  simp only [RecordType.naming, List.mem_cons, List.not_mem_nil, or_false, not_or] at plain
  simp only [readData?, plain, if_false, readOctets?_of_holds held, Option.bind_eq_bind,
    Option.bind_some]
  cases plainData? type octets <;> rfl

end Wire

end SplitDns.Dns
