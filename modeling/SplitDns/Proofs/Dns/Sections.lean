import SplitDns.Dns.Wire.Encode
import SplitDns.Proofs.Dns.Records

/-!
# Sections as they are written and read

A section holds the items before the first one that does not fit. `readMany?_writeMany` reads them
back, and `complete_writeMany_iff` says when all of them are there: when laying out all their
parts, one after the other and without a limit, stays within the longest message.
-/

namespace SplitDns.Dns.Wire

variable {message : Array UInt8} {place : Nat} {suffixes : Suffixes} {Item : Type}

/-! ### Layout without a limit -/

theorem octets_writeParts_append (suffixes : Suffixes) (place : Nat) (first second : List Part) :
    (writeParts suffixes place (first ++ second)).octets =
      (writeParts suffixes place first).octets ++
        (writeParts (writeParts suffixes place first).suffixes
          (place + (writeParts suffixes place first).octets.length) second).octets := by
  induction first generalizing suffixes place with
  | nil => simp [writeParts]
  | cons part rest inductionHypothesis =>
      simp [writeParts, inductionHypothesis, Nat.add_assoc]

theorem suffixes_writeParts_append (suffixes : Suffixes) (place : Nat)
    (first second : List Part) :
    (writeParts suffixes place (first ++ second)).suffixes =
      (writeParts (writeParts suffixes place first).suffixes
        (place + (writeParts suffixes place first).octets.length) second).suffixes := by
  induction first generalizing suffixes place with
  | nil => simp [writeParts]
  | cons part rest inductionHypothesis =>
      simp [writeParts, inductionHypothesis, Nat.add_assoc]

theorem reach_writeParts_append (suffixes : Suffixes) (place : Nat) (first second : List Part) :
    (writeParts suffixes place (first ++ second)).reach =
      max (writeParts suffixes place first).reach
        (writeParts (writeParts suffixes place first).suffixes
          (place + (writeParts suffixes place first).octets.length) second).reach := by
  induction first generalizing suffixes place with
  | nil =>
      have ordered := place_le_reach_writeParts suffixes place second
      simp only [writeParts, List.nil_append, List.length_nil, Nat.add_zero]
      omega
  | cons part rest inductionHypothesis =>
      simp [writeParts, inductionHypothesis, Nat.add_assoc, Nat.max_assoc]

/-- A writer leaves what the parts of the item would leave, up to the octets themselves. -/
structure Writer.Faithful (writer : Writer Item) : Prop where
  length : ∀ suffixes place item, (writer.write suffixes place item).octets.length =
    (writeParts suffixes place (writer.parts item)).octets.length
  suffixes : ∀ suffixes place item, (writer.write suffixes place item).suffixes =
    (writeParts suffixes place (writer.parts item)).suffixes
  reach : ∀ suffixes place item, (writer.write suffixes place item).reach =
    (writeParts suffixes place (writer.parts item)).reach
  nonempty : ∀ suffixes place item, 0 < (writer.write suffixes place item).octets.length

theorem faithful_questionWriter : questionWriter.Faithful where
  length _ _ _ := rfl
  suffixes _ _ _ := rfl
  reach _ _ _ := rfl
  nonempty suffixes place question := by
    simp only [questionWriter, writeQuestion, questionParts, writeParts, writePart,
      List.length_append, List.flatten_cons, length_octets16]
    omega

theorem faithful_recordWriter : recordWriter.Faithful where
  length suffixes place record := by
    simp only [recordWriter, writeRecord, recordParts, octets_writeParts_append, writeParts,
      writePart, List.length_append, length_octets16, List.length_cons, List.length_nil,
      Nat.zero_add, Nat.reduceAdd]
    omega
  suffixes suffixes place record := by
    simp only [recordWriter, writeRecord, recordParts, suffixes_writeParts_append, writeParts,
      writePart, List.length_cons, List.length_nil]
  reach suffixes place record := by
    have ordered := place_le_reach_writeParts
      (writeParts suffixes place (headParts record)).suffixes
      (place + (writeParts suffixes place (headParts record)).octets.length + 2)
      (dataParts record.data)
    simp only [recordWriter, writeRecord, recordParts, reach_writeParts_append, writeParts,
      writePart, List.length_cons, List.length_nil, Nat.zero_add, Nat.reduceAdd] at ordered ⊢
    omega
  nonempty suffixes place record := by
    simp only [recordWriter, writeRecord, List.length_append, length_octets16]
    omega

theorem Writer.Faithful.place_le_reach {writer : Writer Item} (faithful : writer.Faithful)
    (suffixes : Suffixes) (place : Nat) (item : Item) :
    place + (writer.write suffixes place item).octets.length ≤
      (writer.write suffixes place item).reach := by
  rw [faithful.length, faithful.reach]
  exact place_le_reach_writeParts suffixes place (writer.parts item)

/-! ### How far a section goes -/

variable {writer : Writer Item} {left : Octets}

theorem place_writeMany_le (faithful : writer.Faithful) (left : Octets) (suffixes : Suffixes)
    (begun : place ≤ maxMessage) (items : List Item) :
    place + (writer.writeMany left suffixes place items).octets.length ≤ maxMessage := by
  induction items generalizing left suffixes place with
  | nil => simpa [Writer.writeMany] using begun
  | cons item rest inductionHypothesis =>
      have ordered := faithful.place_le_reach suffixes place item
      simp only [Writer.writeMany]
      split
      next fits =>
        have others := inductionHypothesis [] (writer.write suffixes place item).suffixes
          (Nat.le_trans ordered fits)
        rw [List.length_append]
        omega
      next => simpa using begun

theorem count_writeMany_le (faithful : writer.Faithful) (left : Octets) (suffixes : Suffixes)
    (place : Nat) (items : List Item) :
    (writer.writeMany left suffixes place items).count ≤
      (writer.writeMany left suffixes place items).octets.length := by
  induction items generalizing left suffixes place with
  | nil => simp [Writer.writeMany]
  | cons item rest inductionHypothesis =>
      have positive := faithful.nonempty suffixes place item
      simp only [Writer.writeMany]
      split
      next =>
        have others := inductionHypothesis [] (writer.write suffixes place item).suffixes
          (place + (writer.write suffixes place item).octets.length)
        simp only [List.length_append]
        omega
      next => simp

theorem count_of_complete {items : List Item}
    (complete : (writer.writeMany left suffixes place items).complete = true) :
    (writer.writeMany left suffixes place items).count = items.length := by
  induction items generalizing left suffixes place with
  | nil => rfl
  | cons item rest inductionHypothesis =>
      simp only [Writer.writeMany] at complete ⊢
      split
      next fits =>
        rw [if_pos fits] at complete
        rw [inductionHypothesis complete, List.length_cons]
      next overflows => simp [overflows] at complete

theorem count_of_incomplete {items : List Item}
    (incomplete : (writer.writeMany left suffixes place items).complete = false) :
    (writer.writeMany left suffixes place items).count < items.length := by
  induction items generalizing left suffixes place with
  | nil => cases incomplete
  | cons item rest inductionHypothesis =>
      simp only [Writer.writeMany] at incomplete ⊢
      split
      next fits =>
        rw [if_pos fits] at incomplete
        have others := inductionHypothesis incomplete
        simp only [List.length_cons]
        omega
      next => simp

theorem complete_writeMany_iff (faithful : writer.Faithful) (left : Octets)
    (suffixes : Suffixes) (begun : place ≤ maxMessage) (items : List Item) :
    (writer.writeMany left suffixes place items).complete = true ↔
      (writeParts suffixes place (items.flatMap writer.parts)).reach ≤ maxMessage := by
  induction items generalizing left suffixes place with
  | nil => simpa [Writer.writeMany, writeParts] using begun
  | cons item rest inductionHypothesis =>
      have ordered := faithful.place_le_reach suffixes place item
      rw [List.flatMap_cons, reach_writeParts_append, ← faithful.reach, ← faithful.suffixes,
        ← faithful.length, Nat.max_le]
      simp only [Writer.writeMany]
      split
      next fits =>
        simp only [fits, true_and]
        exact inductionHypothesis [] _ (Nat.le_trans ordered fits)
      next overflows => simp [overflows]

theorem length_of_complete (faithful : writer.Faithful) {items : List Item}
    (complete : (writer.writeMany left suffixes place items).complete = true) :
    (writer.writeMany left suffixes place items).octets.length =
      (writeParts suffixes place (items.flatMap writer.parts)).octets.length := by
  induction items generalizing left suffixes place with
  | nil => rfl
  | cons item rest inductionHypothesis =>
      rw [List.flatMap_cons, octets_writeParts_append, ← faithful.suffixes, ← faithful.length,
        List.length_append, ← faithful.length]
      simp only [Writer.writeMany] at complete ⊢
      split
      next fits =>
        rw [if_pos fits] at complete
        rw [List.length_append, inductionHypothesis complete]
      next overflows => simp [overflows] at complete

theorem suffixes_of_complete (faithful : writer.Faithful) {items : List Item}
    (complete : (writer.writeMany left suffixes place items).complete = true) :
    (writer.writeMany left suffixes place items).suffixes =
      (writeParts suffixes place (items.flatMap writer.parts)).suffixes := by
  induction items generalizing left suffixes place with
  | nil => rfl
  | cons item rest inductionHypothesis =>
      rw [List.flatMap_cons, suffixes_writeParts_append, ← faithful.suffixes, ← faithful.length]
      simp only [Writer.writeMany] at complete ⊢
      split
      next fits =>
        rw [if_pos fits] at complete
        exact inductionHypothesis complete
      next overflows => simp [overflows] at complete

/-! ### Reading a section -/

/-- A reader that takes back, up to `settle`, what a writer writes of an item that fits. -/
def Inverse (message : Array UInt8) (writer : Writer Item) (read : Nat → Option (Item × Nat))
    (settle : Item → Item) (item : Item) : Prop :=
  ∀ suffixes place, Known message place suffixes →
    (writer.write suffixes place item).reach ≤ maxMessage →
    Holds message place (writer.write suffixes place item).octets →
    read place =
        some (settle item, place + (writer.write suffixes place item).octets.length) ∧
      Known message (place + (writer.write suffixes place item).octets.length)
        (writer.write suffixes place item).suffixes

theorem readMany?_writeMany {read : Nat → Option (Item × Nat)} {settle : Item → Item}
    {items : List Item} (inverse : ∀ item ∈ items, Inverse message writer read settle item)
    (known : Known message place suffixes)
    (held : Holds message place (writer.writeMany left suffixes place items).octets) :
    readMany? read (writer.writeMany left suffixes place items).count place =
        some ((items.take (writer.writeMany left suffixes place items).count).map settle,
          place + (writer.writeMany left suffixes place items).octets.length) ∧
      Known message (place + (writer.writeMany left suffixes place items).octets.length)
        (writer.writeMany left suffixes place items).suffixes := by
  induction items generalizing left suffixes place with
  | nil => exact ⟨rfl, known⟩
  | cons item rest inductionHypothesis =>
      simp only [Writer.writeMany] at held ⊢
      split
      next fits =>
        rw [if_pos fits] at held
        obtain ⟨first, knownFirst⟩ :=
          inverse item List.mem_cons_self suffixes place known fits held.left
        obtain ⟨others, knownOthers⟩ := inductionHypothesis
          (fun other found => inverse other (List.mem_cons_of_mem _ found)) knownFirst held.right
        simp only [readMany?, first, others, Option.bind_eq_bind, Option.bind_some,
          List.take_succ_cons, List.map_cons, List.length_append, ← Nat.add_assoc]
        exact ⟨rfl, knownOthers⟩
      next => exact ⟨rfl, known⟩

theorem readMany?_add {read : Nat → Option (Item × Nat)} {first second next last : Nat}
    {head tail : List Item} (headRead : readMany? read first place = some (head, next))
    (tailRead : readMany? read second next = some (tail, last)) :
    readMany? read (first + second) place = some (head ++ tail, last) := by
  induction first generalizing place head with
  | zero =>
      simp only [readMany?, Option.some.injEq, Prod.mk.injEq] at headRead
      obtain ⟨rfl, rfl⟩ := headRead
      simpa using tailRead
  | succ first inductionHypothesis =>
      rw [Nat.add_right_comm]
      simp only [readMany?, Option.bind_eq_bind] at headRead ⊢
      obtain ⟨item, itemRead, rest⟩ := Option.bind_eq_some_iff.mp headRead
      obtain ⟨items, itemsRead, equal⟩ := Option.bind_eq_some_iff.mp rest
      cases equal
      rw [itemRead, Option.bind_some, inductionHypothesis itemsRead]
      rfl

theorem inverse_question (message : Array UInt8) (question : Question) :
    Inverse message questionWriter (readQuestion? message) id question := by
  intro suffixes place known _ held
  have sound : ∀ part ∈ questionParts question, part.Sound := by
    simp [questionParts, Part.Sound, bounded_labels]
  exact ⟨readQuestion?_writeQuestion known held, known_writeParts sound known held⟩

theorem inverse_record (message : Array UInt8) {record : Record} (proper : record.Proper) :
    Inverse message recordWriter (readRecord? message) Record.settled record := by
  intro suffixes place known fits held
  have reached := place_le_reach_writeRecord suffixes place record
  have short : (writeData suffixes place record).octets.length < 65536 := by
    have fits : (writeRecord suffixes place record).reach ≤ 65535 := fits
    omega
  exact ⟨readRecord?_writeRecord proper known short held, known_writeRecord known held⟩

end SplitDns.Dns.Wire
