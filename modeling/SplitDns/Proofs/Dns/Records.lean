import SplitDns.Proofs.Dns.Data

/-!
# Reading written records

`readData?_writeParts` and `readRecord?_writeRecord`: what is read where a record was written is
the record with its data settled. The owner, the type, the class and the time to live come back
as they were, and so does all data but the letter case of service targets.
-/

namespace SplitDns.Dns

open SplitDns.Address
open Wire

/-- The record as it is read after it was written. -/
def Record.settled (record : Record) : Record :=
  { record with data := record.data.settled }

@[simp]
theorem Record.type_settled (record : Record) : record.settled.type = record.type :=
  record.data.type_settled

/-- A record in the form that readers give. -/
structure Record.Proper (record : Record) : Prop where
  data : record.data.Proper
  owner : record.type = RecordType.opt → record.owner.isRoot = true
  payload : record.type = RecordType.opt → max minPayload record.dnsClass = record.dnsClass

namespace Wire

variable {message : Array UInt8} {place : Nat} {suffixes : Suffixes}

theorem octets_writeParts_pieces (suffixes : Suffixes) (place : Nat) (pieces : List Octets) :
    (writeParts suffixes place [.pieces pieces]).octets = pieces.flatten := by
  simp [writeParts, writePart]

theorem writeLabels_ne_nil (labels : List Octets) : (writeLabels suffixes place labels).1 ≠ [] := by
  cases labels with
  | nil => simp [writeLabels]
  | cons label rest =>
      unfold writeLabels
      split <;> simp [reference, octets16, labelOctets]

theorem settled_eq_absent {data : RecordData} (proper : data.Proper)
    (empty : (writeParts suffixes place (dataParts data)).octets = []) :
    data.settled = .absent data.type := by
  cases data with
  | absent type => rfl
  | ipv4 address => simp [dataParts, writeParts, writePart, Part.singles, Ipv4.octets] at empty
  | ipv6 address =>
      have size := length_flatten_octets16 address.groups
      rw [address.length_groups, ← octets_writeParts_pieces suffixes place]
        at size
      rw [dataParts] at empty
      rw [empty] at size
      cases size
  | host kind name => simp [dataParts, writeParts, writePart, writeLabels_ne_nil] at empty
  | mail preference exchange => simp [dataParts, writeParts, writePart, octets16] at empty
  | authority primary mailbox timers =>
      simp [dataParts, writeParts, writePart, writeLabels_ne_nil] at empty
  | service priority weight port target =>
      simp [dataParts, writeParts, writePart, octets16] at empty
  | text strings =>
      obtain ⟨some, _⟩ := proper
      cases strings with
      | nil => exact absurd rfl some
      | cons string rest => simp [dataParts, writeParts, writePart] at empty
  | options entries =>
      cases entries with
      | nil => rfl
      | cons entry rest => simp [dataParts, writeParts, writePart, optionPieces, octets16] at empty
  | raw type octets =>
      simp only [dataParts, Part.singles, octets_writeParts_pieces, flatten_singles] at empty
      exact absurd empty proper.1

/-- Data in one piece is read back from its octets. -/
theorem plainData?_pieces {data : RecordData} {pieces : List Octets} (proper : data.Proper)
    (parts : dataParts data = [.pieces pieces]) (written : pieces.flatten ≠ []) :
    plainData? data.type pieces.flatten = some data.settled := by
  cases data with
  | ipv4 address =>
      cases parts
      rw [flatten_singles]
      rfl
  | ipv6 address =>
      cases parts
      have taken (octets : Octets) : plainData? RecordType.aaaa octets =
          (Ipv6.ofOctets? octets).map .ipv6 := rfl
      rw [RecordData.type, taken, ofOctets?_groups]
      rfl
  | text strings =>
      cases parts
      have taken (octets : Octets) : plainData? RecordType.txt octets =
          (strings? octets).map .text := rfl
      rw [RecordData.type, taken, strings?_pieces proper.2]
      rfl
  | options entries =>
      cases parts
      have taken (octets : Octets) : plainData? RecordType.opt octets =
          (options? octets.length octets).map fun found => .options (found.getD []) := rfl
      rw [RecordData.type, taken, options?_pieces proper (Nat.le_refl _)]
      cases entries with
      | nil => simp at written
      | cons entry rest => rfl
  | raw type octets =>
      cases parts
      obtain ⟨_, _, undivided, kept⟩ := proper
      simp only [RecordType.divided, List.mem_cons, List.not_mem_nil, or_false, not_or]
        at undivided
      simp only [flatten_singles, plainData?, RecordData.type, undivided, kept, if_false,
        RecordData.settled]
  | absent type => cases parts
  | host kind name => cases parts
  | mail preference exchange => cases parts
  | authority primary mailbox timers => cases parts
  | service priority weight port target => cases parts

/-! ### Data with names -/

theorem readData?_host {kind : HostKind} {name : Name} (known : Known message place suffixes)
    (held : Holds message place (writeParts suffixes place (dataParts (.host kind name))).octets)
    (length : Nat) :
    readData? message kind.type length place =
      some (.host kind name,
        place + (writeParts suffixes place (dataParts (.host kind name))).octets.length) := by
  simp only [dataParts, writeParts, writePart, List.append_nil] at held ⊢
  have read := readName?_writeLabels known held
  cases kind <;>
    simp [readData?, HostKind.type, RecordType.cname, RecordType.ns, RecordType.ptr, read]

theorem readData?_mail {preference : UInt16} {exchange : Name}
    (known : Known message place suffixes)
    (held : Holds message place
      (writeParts suffixes place (dataParts (.mail preference exchange))).octets)
    (length : Nat) :
    readData? message RecordType.mx length place =
      some (.mail preference exchange,
        place +
          (writeParts suffixes place (dataParts (.mail preference exchange))).octets.length) := by
  simp only [dataParts, writeParts, writePart, List.append_nil, List.flatten_cons,
    List.flatten_nil, length_octets16] at held ⊢
  have first := read16?_of_holds held.left
  have read := readName?_writeLabels (known.mono (Nat.le_add_right _ _)) held.right
  rw [length_octets16] at read
  simp [readData?, RecordType.cname, RecordType.ns, RecordType.ptr, RecordType.mx, first, read,
    Nat.add_assoc]

theorem readData?_authority {primary mailbox : Name} {timers : Octets}
    (size : timers.length = 20) (known : Known message place suffixes)
    (held : Holds message place
      (writeParts suffixes place (dataParts (.authority primary mailbox timers))).octets)
    (length : Nat) :
    readData? message RecordType.soa length place =
      some (.authority primary mailbox timers,
        place + (writeParts suffixes place
          (dataParts (.authority primary mailbox timers))).octets.length) := by
  simp only [dataParts, writeParts, writePart, List.append_nil, flatten_fours] at held ⊢
  have first := readName?_writeLabels known held.left
  have knownFirst := known.writeLabels (bounded_labels primary) held.left
  have second := readName?_writeLabels knownFirst held.right.left
  have last := readOctets?_of_holds held.right.right
  rw [size] at last
  simp [readData?, RecordType.cname, RecordType.ns, RecordType.ptr, RecordType.mx, RecordType.soa,
    first, second, last, size]
  omega

theorem readData?_service {priority weight port : UInt16} {target : Name}
    (held : Holds message place
      (writeParts suffixes place (dataParts (.service priority weight port target))).octets)
    (length : Nat) :
    readData? message RecordType.srv length place =
      some (.service priority weight port target.lower,
        place + (writeParts suffixes place
          (dataParts (.service priority weight port target))).octets.length) := by
  simp only [dataParts, writeParts, writePart, List.append_nil, List.map_cons, List.map_nil,
    List.flatten_cons, List.flatten_nil, List.length_append, length_octets16, List.append_assoc]
    at held ⊢
  have first := read16?_of_holds held.left
  have second := read16?_of_holds held.right.left
  have third := read16?_of_holds held.right.right.left
  have last := readName?_writeLabelsInFull target.lower held.right.right.right
  have lowered : target.lower.labels = target.lowerLabels := rfl
  simp only [length_octets16, length_writeLabelsInFull, lowered] at first second third last
  simp [readData?, RecordType.cname, RecordType.ns, RecordType.ptr, RecordType.mx, RecordType.soa,
    RecordType.srv, first, second, third, last, length_writeLabelsInFull]
  omega

theorem readData?_pieces {data : RecordData} {pieces : List Octets} (proper : data.Proper)
    (plain : data.type ∉ RecordType.naming) (parts : dataParts data = [.pieces pieces])
    (written : (writeParts suffixes place (dataParts data)).octets ≠ [])
    (held : Holds message place (writeParts suffixes place (dataParts data)).octets) :
    readData? message data.type (writeParts suffixes place (dataParts data)).octets.length place =
      some (data.settled,
        place + (writeParts suffixes place (dataParts data)).octets.length) := by
  rw [parts, octets_writeParts_pieces] at written held ⊢
  rw [readData?_of_holds plain held, plainData?_pieces proper parts written]
  rfl

theorem readData?_writeParts {data : RecordData} (proper : data.Proper)
    (known : Known message place suffixes)
    (written : (writeParts suffixes place (dataParts data)).octets ≠ [])
    (held : Holds message place (writeParts suffixes place (dataParts data)).octets) :
    readData? message data.type (writeParts suffixes place (dataParts data)).octets.length place =
      some (data.settled,
        place + (writeParts suffixes place (dataParts data)).octets.length) := by
  cases data with
  | absent type => exact absurd rfl written
  | ipv4 address =>
      have plain : RecordType.a ∉ RecordType.naming := by decide
      exact readData?_pieces proper plain rfl written held
  | ipv6 address =>
      have plain : RecordType.aaaa ∉ RecordType.naming := by decide
      exact readData?_pieces proper plain rfl written held
  | text strings =>
      have plain : RecordType.txt ∉ RecordType.naming := by decide
      exact readData?_pieces proper plain rfl written held
  | options entries =>
      have plain : RecordType.opt ∉ RecordType.naming := by decide
      exact readData?_pieces proper plain rfl written held
  | raw type octets => exact readData?_pieces proper proper.2.1 rfl written held
  | host kind name => exact readData?_host known held _
  | mail preference exchange => exact readData?_mail known held _
  | authority primary mailbox timers => exact readData?_authority proper known held _
  | service priority weight port target => exact readData?_service held _

/-! ### Questions and records -/

theorem readQuestion?_writeQuestion {question : Question} (known : Known message place suffixes)
    (held : Holds message place (writeQuestion suffixes place question).octets) :
    readQuestion? message place =
      some (question, place + (writeQuestion suffixes place question).octets.length) := by
  simp only [writeQuestion, questionParts, writeParts, writePart, List.append_nil,
    List.flatten_cons, List.flatten_nil, List.length_append, length_octets16] at held ⊢
  have name := readName?_writeLabels known held.left
  have type := read16?_of_holds held.right.left
  have dnsClass := read16?_of_holds held.right.right
  rw [length_octets16] at dnsClass
  simp [readQuestion?, name, type, dnsClass]
  omega

/-- Where the data of a record begins, after its owner and ten octets. -/
def dataPlace (suffixes : Suffixes) (place : Nat) (record : Record) : Nat :=
  place + (writeLabels suffixes place record.owner.labels).1.length + 10

/-- The data of a record as it is written. -/
def writeData (suffixes : Suffixes) (place : Nat) (record : Record) : Written :=
  writeParts (writeLabels suffixes place record.owner.labels).2
    (dataPlace suffixes place record) (dataParts record.data)

theorem writeParts_dataParts (suffixes : Suffixes) (place : Nat) (record : Record) :
    writeParts (writeParts suffixes place (headParts record)).suffixes
        (place + (writeParts suffixes place (headParts record)).octets.length + 2)
        (dataParts record.data) =
      writeData suffixes place record := by
  simp [writeData, dataPlace, headParts, writeParts, writePart, Nat.add_assoc]

theorem octets_writeRecord (suffixes : Suffixes) (place : Nat) (record : Record) :
    (writeRecord suffixes place record).octets =
      (writeLabels suffixes place record.owner.labels).1 ++
        (octets16 record.type ++ (octets16 record.dnsClass ++ (octets32 record.ttl ++
          (octets16 (UInt16.ofNat (writeData suffixes place record).octets.length) ++
            (writeData suffixes place record).octets)))) := by
  simp only [writeRecord, writeParts_dataParts]
  simp [headParts, writeParts, writePart]

theorem place_le_reach_writeRecord (suffixes : Suffixes) (place : Nat) (record : Record) :
    dataPlace suffixes place record + (writeData suffixes place record).octets.length ≤
      (writeRecord suffixes place record).reach := by
  have ordered : _ ≤ (writeData suffixes place record).reach :=
    place_le_reach_writeParts _ (dataPlace suffixes place record) _
  have reach : (writeData suffixes place record).reach ≤
      (writeRecord suffixes place record).reach := by
    simp only [writeRecord, writeParts_dataParts]
    exact Nat.le_max_right _ _
  exact Nat.le_trans ordered reach

theorem length_writeRecord (suffixes : Suffixes) (place : Nat) (record : Record) :
    place + (writeRecord suffixes place record).octets.length =
      dataPlace suffixes place record + (writeData suffixes place record).octets.length := by
  simp only [octets_writeRecord, dataPlace, List.length_append, length_octets16, length_octets32]
  omega

theorem known_dataPlace {record : Record} (known : Known message place suffixes)
    (held : Holds message place (writeRecord suffixes place record).octets) :
    Known message (dataPlace suffixes place record)
      (writeLabels suffixes place record.owner.labels).2 := by
  rw [octets_writeRecord] at held
  exact (known.writeLabels (bounded_labels record.owner) held.left).mono (Nat.le_add_right _ 10)

theorem holds_dataPlace {record : Record}
    (held : Holds message place (writeRecord suffixes place record).octets) :
    Holds message (dataPlace suffixes place record) (writeData suffixes place record).octets := by
  rw [octets_writeRecord] at held
  exact held.right.right.right.right.right

theorem known_writeRecord {record : Record} (known : Known message place suffixes)
    (held : Holds message place (writeRecord suffixes place record).octets) :
    Known message (place + (writeRecord suffixes place record).octets.length)
      (writeRecord suffixes place record).suffixes := by
  have same : (writeRecord suffixes place record).suffixes =
      (writeData suffixes place record).suffixes := by
    simp only [writeRecord, writeParts_dataParts]
  rw [length_writeRecord, same]
  exact known_writeParts (sound_dataParts record.data) (known_dataPlace known held)
    (holds_dataPlace held)

theorem readRecord?_writeRecord {record : Record} (proper : record.Proper)
    (known : Known message place suffixes)
    (short : (writeData suffixes place record).octets.length < 65536)
    (held : Holds message place (writeRecord suffixes place record).octets) :
    readRecord? message place =
      some (record.settled, place + (writeRecord suffixes place record).octets.length) := by
  have knownData := known_dataPlace known held
  have data := holds_dataPlace held
  have bound := data.size_le
  rw [length_writeRecord]
  rw [octets_writeRecord] at held
  have owner := readName?_writeLabels known held.left
  have type := read16?_of_holds held.right.left
  have dnsClass := read16?_of_holds held.right.right.left
  have ttl := read32?_of_holds held.right.right.right.left
  have length := read16?_of_holds held.right.right.right.right.left
  have size : (UInt16.ofNat (writeData suffixes place record).octets.length).toNat =
      (writeData suffixes place record).octets.length := by
    rw [UInt16.toNat_ofNat']
    exact Nat.mod_eq_of_lt short
  simp only [length_octets16, length_octets32] at type dnsClass ttl length
  have reached : place + (writeLabels suffixes place record.owner.labels).1.length + 2 + 2 + 4 + 2 =
      dataPlace suffixes place record := rfl
  rw [reached] at length
  have admitted : (decide (message.size <
      dataPlace suffixes place record + (writeData suffixes place record).octets.length) ||
      (record.type == RecordType.opt && !record.owner.isRoot)) = false := by
    rcases Decidable.em (record.type = RecordType.opt) with extension | other
    · simp [proper.owner extension, Nat.not_lt.mpr bound]
    · simp [other, Nat.not_lt.mpr bound]
  have payload : (if record.type = RecordType.opt then max minPayload record.dnsClass
      else record.dnsClass) = record.dnsClass := by
    split
    next extension => exact proper.payload extension
    next => rfl
  simp only [readRecord?, owner, type, dnsClass, ttl, length, size, admitted, payload,
    Option.bind_eq_bind, Option.bind_some, Bool.false_eq_true, if_false]
  rcases Decidable.em ((writeData suffixes place record).octets = []) with empty | written
  · have absent := settled_eq_absent proper.data empty
    simp [empty, Record.settled, absent, Record.type]
  · have read : readData? message record.type
        (writeData suffixes place record).octets.length (dataPlace suffixes place record) =
        some (record.data.settled, dataPlace suffixes place record +
          (writeData suffixes place record).octets.length) :=
      readData?_writeParts proper.data knownData written data
    have positive : UInt16.ofNat (writeData suffixes place record).octets.length ≠ 0 := by
      intro zero
      rw [zero] at size
      exact written (List.length_eq_zero_iff.mp size.symm)
    rw [if_neg positive, read]
    simp [Record.settled]

end Wire

end SplitDns.Dns
