import SplitDns.Dns.Reply
import SplitDns.Proofs.Dns.Messages

/-!
# Decoded messages are proper

What any reader gives is in the form that writing and reading again preserves. So every message
that was decoded, and every message made from its records, can be put through the wire.
-/

namespace SplitDns.Dns

open SplitDns.Address
open Wire

namespace Wire

variable {message : Array UInt8}

/-! ### Data -/

theorem strings?_proper {octets : Octets} {strings : List Octets}
    (read : strings? octets = some strings) : ∀ string ∈ strings, string.length < 256 := by
  induction strings generalizing octets with
  | nil => simp
  | cons string rest inductionHypothesis =>
      cases octets with
      | nil => simp [strings?] at read
      | cons size octets =>
          rw [strings?] at read
          split at read
          next fits =>
            obtain ⟨others, othersRead, equal⟩ := Option.map_eq_some_iff.mp read
            cases equal
            have bound := size.toNat_lt
            intro other found
            rcases List.mem_cons.mp found with rfl | later
            · omega
            · exact inductionHypothesis othersRead other later
          next => cases read

theorem strings?_ne_nil {octets : Octets} {strings : List Octets} (some : octets ≠ [])
    (read : strings? octets = .some strings) : strings ≠ [] := by
  rintro rfl
  cases octets with
  | nil => exact some rfl
  | cons size octets =>
      rw [strings?] at read
      split at read
      · obtain ⟨others, _, equal⟩ := Option.map_eq_some_iff.mp read
        cases equal
      · cases read

/-- The octets of a client network are read as they were cut off. -/
theorem network?_idem {octets kept : Octets} (read : network? octets = some kept) :
    network? kept = some kept ∧ kept.length ≤ octets.length := by
  unfold network? at read
  split at read
  next familyHigh familyLow source rest =>
    simp only [Option.ite_none_right_eq_some, Bool.and_eq_true, decide_eq_true_eq] at read
    obtain ⟨⟨⟨known, short⟩, covered⟩, equal⟩ := read
    cases equal
    have size : (rest.take ((source.toNat + 7) / 8 + 1)).length = (source.toNat + 7) / 8 + 1 := by
      rw [List.length_take]
      omega
    constructor
    · simp only [network?, Option.ite_none_right_eq_some, Bool.and_eq_true, decide_eq_true_eq]
      refine ⟨⟨⟨known, short⟩, by omega⟩, ?_⟩
      rw [List.take_take, Nat.min_self]
    · simp only [List.length_cons, List.length_take]
      omega
  next => cases read

theorem optionData?_proper {code : UInt16} {octets kept : Octets}
    (read : optionData? code octets = some kept) :
    optionData? code kept = some kept ∧ kept.length ≤ octets.length := by
  unfold optionData? at read ⊢
  split at read
  next client =>
    rw [if_pos client]
    exact network?_idem read
  next other =>
    rw [if_neg other]
    cases read
    exact ⟨rfl, Nat.le_refl _⟩

theorem options?_proper {total : Nat} {octets : Octets} {entries : List (UInt16 × Octets)}
    (read : options? total octets = some (some entries)) :
    (RecordData.options entries).Proper := by
  induction entries generalizing octets with
  | nil =>
      intro entry found
      cases found
  | cons entry rest inductionHypothesis =>
      unfold options? at read
      split at read
      next => cases read
      next => cases read
      next codeHigh codeLow lengthHigh lengthLow octets =>
        have bound := (word16 lengthHigh lengthLow).toNat_lt
        simp only [Option.ite_none_left_eq_some] at read
        obtain ⟨_, read⟩ := read
        split at read
        next => cases read
        next =>
          split at read
          next => cases read
          next data dataRead =>
            obtain ⟨others, othersRead, equal⟩ := Option.map_eq_some_iff.mp read
            obtain ⟨tail, tailRead, equal⟩ := Option.map_eq_some_iff.mp equal
            cases equal
            rw [tailRead] at othersRead
            obtain ⟨kept, short⟩ := optionData?_proper dataRead
            rw [List.length_take] at short
            have limited : data.length < 65536 := by omega
            intro option found
            rcases List.mem_cons.mp found with rfl | later
            · exact ⟨limited, kept⟩
            · exact inductionHypothesis othersRead option later
      next => cases read

theorem plainData?_proper {type : UInt16} {octets : Octets} {data : RecordData}
    (some : octets ≠ []) (unnamed : type ∉ RecordType.naming)
    (read : plainData? type octets = .some data) : data.Proper ∧ data.type = type := by
  unfold plainData? at read
  split at read
  next equal =>
    obtain ⟨address, _, rfl⟩ := Option.map_eq_some_iff.mp read
    exact ⟨trivial, equal.symm⟩
  next noIpv4 =>
  split at read
  next equal =>
    obtain ⟨address, _, rfl⟩ := Option.map_eq_some_iff.mp read
    exact ⟨trivial, equal.symm⟩
  next noIpv6 =>
  split at read
  next equal =>
    obtain ⟨strings, stringsRead, rfl⟩ := Option.map_eq_some_iff.mp read
    exact ⟨⟨strings?_ne_nil some stringsRead, strings?_proper stringsRead⟩, equal.symm⟩
  next noText =>
  split at read
  next equal =>
    obtain ⟨entries, entriesRead, rfl⟩ := Option.map_eq_some_iff.mp read
    refine ⟨?_, equal.symm⟩
    cases entries with
    | none => simp [RecordData.Proper]
    | some entries => exact options?_proper entriesRead
  next noOptions =>
  split at read
  next => cases read
  next kept =>
    cases read
    have undivided : type ∉ RecordType.divided := by
      simp [RecordType.divided, noIpv4, noIpv6, noText, noOptions]
    exact ⟨⟨some, unnamed, undivided, kept⟩, rfl⟩

theorem readOctets?_length {count place next : Nat} {octets : Octets}
    (read : readOctets? message count place = some (octets, next)) : octets.length = count := by
  unfold readOctets? at read
  split at read
  next fits =>
    cases read
    rw [Array.length_toList, Array.size_extract]
    omega
  next => cases read

theorem readHost_proper {type : UInt16} {place next : Nat} {data : RecordData} (kind : HostKind)
    (equal : type = kind.type)
    (read : ((readName? message place).map fun found =>
      (RecordData.host kind found.1, found.2)) = some (data, next)) :
    data.Proper ∧ data.type = type := by
  obtain ⟨found, _, pair⟩ := Option.map_eq_some_iff.mp read
  cases pair
  exact ⟨trivial, equal.symm⟩

theorem readData?_proper {type : UInt16} {length place next : Nat} {data : RecordData}
    (positive : length ≠ 0) (read : readData? message type length place = some (data, next)) :
    data.Proper ∧ data.type = type := by
  unfold readData? at read
  split at read
  next equal => exact readHost_proper .alias equal read
  next noAlias =>
  split at read
  next equal => exact readHost_proper .nameServer equal read
  next noServer =>
  split at read
  next equal => exact readHost_proper .pointer equal read
  next noPointer =>
  split at read
  next equal =>
    simp only [Option.bind_eq_bind, Option.bind_eq_some_iff] at read
    obtain ⟨_, _, _, _, pair⟩ := read
    cases pair
    exact ⟨trivial, equal.symm⟩
  next noMail =>
  split at read
  next equal =>
    simp only [Option.bind_eq_bind, Option.bind_eq_some_iff] at read
    obtain ⟨_, _, _, _, ⟨timers, _⟩, timersRead, pair⟩ := read
    cases pair
    exact ⟨readOctets?_length timersRead, equal.symm⟩
  next noAuthority =>
  split at read
  next equal =>
    simp only [Option.bind_eq_bind, Option.bind_eq_some_iff] at read
    obtain ⟨_, _, _, _, _, _, _, _, pair⟩ := read
    cases pair
    exact ⟨trivial, equal.symm⟩
  next noService =>
    simp only [Option.bind_eq_bind, Option.bind_eq_some_iff] at read
    obtain ⟨⟨octets, _⟩, octetsRead, found, plain, pair⟩ := read
    cases pair
    have some : octets ≠ [] := by
      rintro rfl
      exact positive (readOctets?_length octetsRead).symm
    have unnamed : type ∉ RecordType.naming := by
      simp [RecordType.naming, noAlias, noServer, noPointer, noMail, noAuthority, noService]
    exact plainData?_proper some unnamed plain

/-! ### Records and messages -/

theorem readRecord?_proper {place next : Nat} {record : Record}
    (read : readRecord? message place = some (record, next)) : record.Proper := by
  simp only [readRecord?, Option.bind_eq_bind, Option.bind_eq_some_iff] at read
  obtain ⟨⟨owner, _⟩, _, ⟨type, _⟩, _, ⟨dnsClass, _⟩, _, ⟨ttl, _⟩, _, ⟨length, start⟩, _, read⟩ :=
    read
  simp only [Option.ite_none_left_eq_some, Bool.or_eq_true, decide_eq_true_eq, not_or] at read
  obtain ⟨⟨_, admitted⟩, read⟩ := read
  have typed : record.data.Proper ∧ record.data.type = type ∧ record.owner = owner ∧
      record.dnsClass = if type = RecordType.opt then max minPayload dnsClass else dnsClass := by
    split at read
    next =>
      cases read
      exact ⟨trivial, rfl, rfl, rfl⟩
    next positive =>
      obtain ⟨⟨data, _⟩, dataRead, read⟩ := Option.bind_eq_some_iff.mp read
      have sized : length.toNat ≠ 0 := fun zero => positive (UInt16.toNat_inj.mp zero)
      obtain ⟨proper, same⟩ := readData?_proper sized dataRead
      split at read
      next =>
        cases read
        exact ⟨proper, same, rfl, rfl⟩
      next => cases read
  obtain ⟨proper, same, ownerSame, classSame⟩ := typed
  refine ⟨proper, fun extension => ?_, fun extension => ?_⟩
  · rw [Record.type, same] at extension
    rw [ownerSame]
    simpa [extension] using admitted
  · rw [Record.type, same] at extension
    rw [classSame, if_pos extension, max_payload]

theorem forall_of_readMany? {Item : Type} {read : Nat → Option (Item × Nat)} {Holds : Item → Prop}
    (sound : ∀ place item next, read place = some (item, next) → Holds item)
    {count place next : Nat} {items : List Item}
    (found : readMany? read count place = some (items, next)) : ∀ item ∈ items, Holds item := by
  induction count generalizing place items with
  | zero =>
      cases found
      simp
  | succ count inductionHypothesis =>
      simp only [readMany?, Option.bind_eq_bind, Option.bind_eq_some_iff] at found
      obtain ⟨⟨first, _⟩, firstRead, ⟨others, _⟩, othersRead, pair⟩ := found
      cases pair
      intro item inItems
      rcases List.mem_cons.mp inItems with rfl | later
      · exact sound _ _ _ firstRead
      · exact inductionHypothesis othersRead item later

theorem takeExtension?_eq_some {records others : List Record} {edns : Option Edns}
    (taken : takeExtension? records = some (others, edns)) :
    others = records.filter (fun record => !isExtension record) ∧
      ∀ extension ∈ edns, ∃ record ∈ records,
        isExtension record = true ∧ extension = Edns.ofRecord record := by
  unfold takeExtension? at taken
  split at taken
  next =>
    cases taken
    exact ⟨rfl, by simp⟩
  next extension single =>
    cases taken
    refine ⟨rfl, fun found same => ⟨extension, ?_⟩⟩
    have member : extension ∈ records.filter isExtension := by simp [single]
    obtain ⟨inRecords, passed⟩ := List.mem_filter.mp member
    exact ⟨inRecords, passed, by simpa using same.symm⟩
  next => cases taken

theorem proper_ofRecord {record : Record} (proper : record.Proper)
    (extension : isExtension record = true) :
    (RecordData.options (Edns.ofRecord record).options).Proper ∧
      max minPayload (Edns.ofRecord record).payload = (Edns.ofRecord record).payload := by
  have typed : record.type = RecordType.opt := by simpa [isExtension] using extension
  refine ⟨?_, proper.payload typed⟩
  have data := proper.data
  simp only [Edns.ofRecord]
  split
  next entries kind =>
    rw [kind] at data
    exact data
  next =>
    intro entry found
    cases found

end Wire

namespace Message

theorem proper_of_decode? {octets : Octets} {message : Message}
    (decoded : decode? octets = some message) : message.Proper := by
  simp only [decode?, Option.bind_eq_bind, Option.bind_eq_some_iff] at decoded
  obtain ⟨_, _, _, _, _, _, _, _, _, _, _, _, _, _, ⟨answers, _⟩, answersRead, ⟨authority, _⟩,
    authorityRead, ⟨records, _⟩, recordsRead, ⟨additional, edns⟩, taken, equal⟩ := decoded
  cases equal
  have sound (place : Nat) (record : Record) (next : Nat) :
      readRecord? octets.toArray place = some (record, next) → record.Proper :=
    readRecord?_proper
  have answersProper := forall_of_readMany? sound answersRead
  have authorityProper := forall_of_readMany? sound authorityRead
  have recordsProper := forall_of_readMany? sound recordsRead
  obtain ⟨rfl, extension⟩ := takeExtension?_eq_some taken
  constructor
  case records =>
    intro record found
    simp only [Message.records, List.mem_append] at found
    rcases found with (inAnswers | inAuthority) | inAdditional
    · exact answersProper record inAnswers
    · exact authorityProper record inAuthority
    · exact recordsProper record (List.mem_filter.mp inAdditional).1
  case additional =>
    intro record found
    simpa using (List.mem_filter.mp found).2
  case options =>
    intro found inEdns
    obtain ⟨record, inRecords, isOption, rfl⟩ := extension found inEdns
    exact (proper_ofRecord (recordsProper record inRecords) isOption).1
  case payload =>
    intro found inEdns
    obtain ⟨record, inRecords, isOption, rfl⟩ := extension found inEdns
    exact (proper_ofRecord (recordsProper record inRecords) isOption).2

theorem Proper.filterRecords {message : Message} (proper : message.Proper)
    (keep : Record → Bool) : (message.filterRecords keep).Proper where
  records record found := by
    simp only [Message.records, Message.filterRecords, List.mem_append] at found
    rcases found with (inAnswers | inAuthority) | inAdditional
    · exact proper.answers record (List.mem_filter.mp inAnswers).1
    · exact proper.authority record (List.mem_filter.mp inAuthority).1
    · exact proper.ofAdditional record (List.mem_filter.mp inAdditional).1
  additional record found := proper.additional record (List.mem_filter.mp found).1
  options := proper.options
  payload := proper.payload

theorem proper_serverFailure (query : Message) : query.serverFailure.Proper where
  records := by simp [Message.records, serverFailure]
  additional := by simp [serverFailure]
  options := by simp [serverFailure]
  payload := by simp [serverFailure]

end Message

end SplitDns.Dns
