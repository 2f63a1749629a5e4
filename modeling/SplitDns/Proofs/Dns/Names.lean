import SplitDns.Dns.Wire.Write
import SplitDns.Proofs.Dns.Held

/-!
# Reading written names

A name is written as labels and, as soon as its rest is known to stand somewhere, a reference to
that place. `Stands` says what a reference needs: the labels can be read at the place, and the
reading stays below a limit. Every remembered suffix stands below the end of what was written,
which is the invariant that carries compression through a whole message.
-/

namespace SplitDns.Dns.Wire

variable {message : Array UInt8}

/-- Labels of a size that the wire can hold. -/
def Bounded (labels : List Octets) : Prop :=
  ∀ label ∈ labels, 0 < label.length ∧ label.length ≤ 63

/-- Labels that a reference to a place is read as, by a name that begins at the limit or later. -/
structure Stands (message : Array UInt8) (limit place : Nat) (labels : List Octets) : Prop where
  place_lt : place < limit
  in_reach : place < 0x4000
  read : ∀ bound, limit ≤ bound →
    ∃ next, readLabels? message place bound place = some (labels, next)

theorem Stands.mono {limit later place : Nat} {labels : List Octets}
    (stands : Stands message limit place labels) (ordered : limit ≤ later) :
    Stands message later place labels where
  place_lt := Nat.lt_of_lt_of_le stands.place_lt ordered
  in_reach := stands.in_reach
  read bound above := stands.read bound (Nat.le_trans ordered above)

theorem Stands.of_read {limit place next : Nat} {labels : List Octets} (below : place < limit)
    (inReach : place < 0x4000)
    (read : ∀ bound, limit ≤ bound →
      readLabels? message place bound place = some (labels, next)) :
    Stands message limit place labels where
  place_lt := below
  in_reach := inReach
  read bound above := ⟨next, read bound above⟩

/-- Every suffix stands below a limit. -/
def Known (message : Array UInt8) (limit : Nat) (suffixes : Suffixes) : Prop :=
  ∀ suffix ∈ suffixes, Stands message limit suffix.2 suffix.1

theorem Known.mono {limit later : Nat} {suffixes : Suffixes}
    (known : Known message limit suffixes) (ordered : limit ≤ later) :
    Known message later suffixes :=
  fun suffix found => (known suffix found).mono ordered

/-- The suffixes that a list of labels can end in stand below a limit. -/
def KnownFor (message : Array UInt8) (limit : Nat) (suffixes : Suffixes)
    (labels : List Octets) : Prop :=
  ∀ suffix ∈ suffixes, suffix.1.length ≤ labels.length → Stands message limit suffix.2 suffix.1

theorem mem_of_lookup {suffixes : Suffixes} {labels : List Octets} {place : Nat}
    (found : suffixes.lookup labels = some place) : (labels, place) ∈ suffixes := by
  obtain ⟨before, after, rfl, _⟩ := List.lookup_eq_some_iff.mp found
  simp

theorem mem_remember {suffixes : Suffixes} {labels : List Octets} {place : Nat}
    {suffix : List Octets × Nat} (found : suffix ∈ remember suffixes labels place) :
    suffix ∈ suffixes ∨ suffix = (labels, place) ∧ place < 0x4000 := by
  unfold remember at found
  split at found
  next inReach =>
    rcases List.mem_cons.mp found with equal | old
    · exact .inr ⟨equal, by omega⟩
    · exact .inl old
  · exact .inl found

/-- A suffix that is remembered while a name is written is too long to end the rest of it. -/
theorem KnownFor.remember {limit place : Nat} {suffixes : Suffixes} {label : Octets}
    {rest : List Octets} (known : KnownFor message limit suffixes (label :: rest)) :
    KnownFor message limit (remember suffixes (label :: rest) place) rest := by
  intro suffix found short
  rcases mem_remember found with old | ⟨rfl, _⟩
  · exact known suffix old (by simp only [List.length_cons]; omega)
  · simp only [List.length_cons] at short
    omega

/-! ### Single steps of the reader -/

theorem readLabels?_root {start bound place : Nat} (held : Holds message place [0])
    (within : place < bound) : readLabels? message start bound place = some ([], place + 1) := by
  have inside := held.place_lt
  rw [readLabels?, if_neg (by omega), dif_pos inside, held.getElem inside]
  rfl

theorem readLabels?_label {start bound place : Nat} {label rest : Octets}
    (held : Holds message place (labelOctets label ++ rest))
    (lower : 0 < label.length) (upper : label.length ≤ 63) (within : place < bound) :
    readLabels? message start bound place =
      (readLabels? message start bound (place + label.length + 1)).map fun found =>
        (label :: found.1, found.2) := by
  have inside : place < message.size := held.place_lt
  have lead : message[place].toNat = label.length := by
    rw [held.getElem inside, UInt8.toNat_ofNat']
    omega
  have body : Holds message (place + 1) label := held.left.tail
  have fits := body.size_le
  have text := body.extract
  rw [readLabels?, if_neg (by omega), dif_pos inside]
  simp only [lead, text]
  rw [if_neg (by omega), if_pos (by omega), if_pos fits,
    show place + 1 + label.length = place + label.length + 1 by omega]
  cases readLabels? message start bound (place + label.length + 1) <;> rfl

theorem readLabels?_reference {start bound place target : Nat}
    (held : Holds message place (reference target)) (inReach : target < 0x4000)
    (earlier : target < start) (within : place < bound) :
    readLabels? message start bound place =
      (readLabels? message target start target).map fun found => (found.1, place + 2) := by
  have inside : place < message.size := held.place_lt
  have word : (UInt16.ofNat (0xC000 + target % 0x4000)).toNat = 0xC000 + target := by
    rw [UInt16.toNat_ofNat']
    omega
  have high : message[place].toNat = 192 + target / 256 := by
    rw [held.getElem inside, highOctet, word, UInt8.toNat_ofNat']
    omega
  have low : message[place + 1]? = some (lowOctet (UInt16.ofNat (0xC000 + target % 0x4000))) :=
    held.tail.getElem?
  have joined : (192 + target / 256 - 192) * 256 +
      (lowOctet (UInt16.ofNat (0xC000 + target % 0x4000))).toNat = target := by
    rw [lowOctet, word, UInt8.toNat_ofNat']
    omega
  rw [readLabels?, if_neg (by omega), dif_pos inside]
  simp only [high, low, joined]
  rw [if_neg (by omega), if_neg (by omega), if_neg (by omega), dif_pos earlier]

/-! ### Names with references -/

theorem length_writeLabels_cons {suffixes : Suffixes} {label : Octets} {rest : List Octets}
    (place : Nat) (unknown : suffixes.lookup (label :: rest) = none) :
    (writeLabels suffixes place (label :: rest)).1.length =
      label.length + 1 +
        (writeLabels (remember suffixes (label :: rest) place)
          (place + label.length + 1) rest).1.length := by
  simp only [writeLabels, unknown, labelOctets, List.length_append, List.length_cons]

/--
Reading takes back the labels that were written. The run of labels may have begun before the
place, so the places that are referred to have to lie before that beginning.
-/
theorem readLabels?_writeLabels {origin start bound place : Nat} {suffixes : Suffixes}
    {labels : List Octets} (bounded : Bounded labels)
    (known : KnownFor message origin suffixes labels) (begun : origin ≤ start)
    (held : Holds message place (writeLabels suffixes place labels).1)
    (within : place + (writeLabels suffixes place labels).1.length ≤ bound) :
    readLabels? message start bound place =
      some (labels, place + (writeLabels suffixes place labels).1.length) := by
  induction labels generalizing suffixes place with
  | nil => exact readLabels?_root held within
  | cons label rest inductionHypothesis =>
      obtain ⟨lower, upper⟩ := bounded label List.mem_cons_self
      cases looked : suffixes.lookup (label :: rest) with
      | some target =>
          have stands := known _ (mem_of_lookup looked) (Nat.le_refl _)
          simp only [writeLabels, looked] at held within ⊢
          have size : (reference target).length = 2 := rfl
          obtain ⟨next, read⟩ := stands.read start begun
          rw [readLabels?_reference held stands.in_reach
            (Nat.lt_of_lt_of_le stands.place_lt begun) (by omega), read]
          rfl
      | none =>
          have size := length_writeLabels_cons place looked
          rw [size] at within ⊢
          simp only [writeLabels, looked] at held
          have later := held.right
          rw [show (labelOctets label).length = label.length + 1 from rfl, ← Nat.add_assoc]
            at later
          have tailRead := inductionHypothesis
            (fun other found => bounded other (List.mem_cons_of_mem _ found))
            known.remember later (by omega)
          rw [readLabels?_label held lower upper (by omega), tailRead]
          simp only [Option.map_some, Option.some.injEq, Prod.mk.injEq, true_and]
          omega

/-- Whatever suffix is known after a name was written was known before or stands in the name. -/
theorem known_writeLabels {origin place : Nat} {suffixes : Suffixes} {labels : List Octets}
    (bounded : Bounded labels) (known : KnownFor message origin suffixes labels)
    (begun : origin ≤ place)
    (held : Holds message place (writeLabels suffixes place labels).1)
    {suffix : List Octets × Nat} (found : suffix ∈ (writeLabels suffixes place labels).2) :
    suffix ∈ suffixes ∨
      Stands message (place + (writeLabels suffixes place labels).1.length) suffix.2 suffix.1 := by
  induction labels generalizing suffixes place with
  | nil => exact .inl found
  | cons label rest inductionHypothesis =>
      cases looked : suffixes.lookup (label :: rest) with
      | some target =>
          simp only [writeLabels, looked] at found
          exact .inl found
      | none =>
          have size := length_writeLabels_cons place looked
          have whole := held
          simp only [writeLabels, looked] at held found
          have later := held.right
          rw [show (labelOctets label).length = label.length + 1 from rfl, ← Nat.add_assoc]
            at later
          rcases inductionHypothesis
              (fun other inRest => bounded other (List.mem_cons_of_mem _ inRest))
              known.remember (by omega) later found with remembered | stands
          · rcases mem_remember remembered with old | ⟨rfl, inReach⟩
            · exact .inl old
            · have stands : Stands message
                  (place + (writeLabels suffixes place (label :: rest)).1.length) place
                  (label :: rest) :=
                .of_read (by omega) inReach fun bound above =>
                  readLabels?_writeLabels bounded known begun whole above
              exact .inr stands
          · refine .inr (stands.mono ?_)
            omega

/-! ### Names in full -/

theorem length_writeLabelsInFull (suffixes : Suffixes) (place : Nat) (labels : List Octets) :
    (writeLabelsInFull suffixes place labels).1.length = labelsSize labels + 1 := by
  induction labels generalizing suffixes place with
  | nil => rfl
  | cons label rest inductionHypothesis =>
      simp only [writeLabelsInFull, List.length_append, inductionHypothesis]
      simp only [labelOctets, labelsSize, List.length_cons, List.foldr_cons]
      omega

theorem readLabels?_writeLabelsInFull {start bound place : Nat} {suffixes : Suffixes}
    {labels : List Octets} (bounded : Bounded labels)
    (held : Holds message place (writeLabelsInFull suffixes place labels).1)
    (within : place + labelsSize labels < bound) :
    readLabels? message start bound place =
      some (labels, place + (writeLabelsInFull suffixes place labels).1.length) := by
  induction labels generalizing suffixes place with
  | nil => exact readLabels?_root held within
  | cons label rest inductionHypothesis =>
      obtain ⟨lower, upper⟩ := bounded label List.mem_cons_self
      simp only [labelsSize, List.foldr_cons] at within
      simp only [length_writeLabelsInFull, labelsSize, List.foldr_cons]
      simp only [writeLabelsInFull] at held
      have later := held.right
      rw [show (labelOctets label).length = label.length + 1 from rfl, ← Nat.add_assoc] at later
      have tailRead := inductionHypothesis
        (fun other found => bounded other (List.mem_cons_of_mem _ found)) later
        (by simp only [labelsSize]; omega)
      rw [readLabels?_label held lower upper (by omega), tailRead, length_writeLabelsInFull]
      simp only [Option.map_some, Option.some.injEq, Prod.mk.injEq, true_and, labelsSize]
      omega

theorem known_writeLabelsInFull {place : Nat} {suffixes : Suffixes} {labels : List Octets}
    (bounded : Bounded labels)
    (held : Holds message place (writeLabelsInFull suffixes place labels).1)
    {suffix : List Octets × Nat} (found : suffix ∈ (writeLabelsInFull suffixes place labels).2) :
    suffix ∈ suffixes ∨
      Stands message (place + (writeLabelsInFull suffixes place labels).1.length)
        suffix.2 suffix.1 := by
  induction labels generalizing suffixes place with
  | nil => exact .inl found
  | cons label rest inductionHypothesis =>
      have whole := held
      have size := length_writeLabelsInFull suffixes place (label :: rest)
      simp only [writeLabelsInFull] at held found
      have later := held.right
      rw [show (labelOctets label).length = label.length + 1 from rfl, ← Nat.add_assoc] at later
      have sizes : labelsSize (label :: rest) = label.length + 1 + labelsSize rest := by
        simp [labelsSize]
      rcases inductionHypothesis
          (fun other inRest => bounded other (List.mem_cons_of_mem _ inRest)) later found with
        remembered | stands
      · split at remembered
        · exact .inl remembered
        · rcases mem_remember remembered with old | ⟨rfl, inReach⟩
          · exact .inl old
          · have stands : Stands message
                (place + (writeLabelsInFull suffixes place (label :: rest)).1.length) place
                (label :: rest) :=
              .of_read (by omega) inReach fun bound above =>
                readLabels?_writeLabelsInFull bounded whole (by omega)
            exact .inr stands
      · refine .inr (stands.mono ?_)
        rw [size, sizes, length_writeLabelsInFull]
        omega

/-! ### Whole names -/

theorem Known.writeLabels {place : Nat} {suffixes : Suffixes} {labels : List Octets}
    (known : Known message place suffixes) (bounded : Bounded labels)
    (held : Holds message place (writeLabels suffixes place labels).1) :
    Known message (place + (writeLabels suffixes place labels).1.length)
      (writeLabels suffixes place labels).2 := by
  intro suffix found
  rcases known_writeLabels bounded (fun other inKnown _ => known other inKnown) (Nat.le_refl _)
    held found with old | stands
  · exact (known suffix old).mono (Nat.le_add_right _ _)
  · exact stands

theorem Known.writeLabelsInFull {place : Nat} {suffixes : Suffixes} {labels : List Octets}
    (known : Known message place suffixes) (bounded : Bounded labels)
    (held : Holds message place (writeLabelsInFull suffixes place labels).1) :
    Known message (place + (writeLabelsInFull suffixes place labels).1.length)
      (writeLabelsInFull suffixes place labels).2 := by
  intro suffix found
  rcases known_writeLabelsInFull bounded held found with old | stands
  · exact (known suffix old).mono (Nat.le_add_right _ _)
  · exact stands

theorem readName?_of_readLabels? {place next : Nat} {name : Name}
    (read : readLabels? message place message.size place = some (name.labels, next)) :
    readName? message place = some (name, next) := by
  simp [readName?, read, Name.ofLabels?_labels]

theorem readName?_writeLabels {place : Nat} {suffixes : Suffixes} {name : Name}
    (known : Known message place suffixes)
    (held : Holds message place (writeLabels suffixes place name.labels).1) :
    readName? message place =
      some (name, place + (writeLabels suffixes place name.labels).1.length) :=
  readName?_of_readLabels? (readLabels?_writeLabels name.label_bounds
    (fun suffix found _ => known suffix found) (Nat.le_refl _) held held.size_le)

theorem readName?_writeLabelsInFull {place : Nat} {suffixes : Suffixes} (name : Name)
    (held : Holds message place (writeLabelsInFull suffixes place name.labels).1) :
    readName? message place =
      some (name, place + (writeLabelsInFull suffixes place name.labels).1.length) := by
  have size := held.size_le
  rw [length_writeLabelsInFull] at size
  exact readName?_of_readLabels?
    (readLabels?_writeLabelsInFull name.label_bounds held (by omega))

end SplitDns.Dns.Wire
