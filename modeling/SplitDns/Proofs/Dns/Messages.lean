import SplitDns.Proofs.Dns.Sections

/-!
# Reading written messages

`decode?_of_encode?`: what was written is read as the message with its records settled, cut off
in every section before the first record that does not fit, and marked as truncated if anything
is missing. `isComplete_iff` says when nothing is missing.
-/

namespace SplitDns.Dns

open Wire

namespace Message

/-- A message in the form that readers give. -/
structure Proper (message : Message) : Prop where
  records : ∀ record ∈ message.records, record.Proper
  additional : ∀ record ∈ message.additional, isExtension record = false
  options : ∀ edns ∈ message.edns, (RecordData.options edns.options).Proper
  payload : ∀ edns ∈ message.edns, max minPayload edns.payload = edns.payload

namespace Proper

variable {message : Message}

theorem answers (proper : message.Proper) : ∀ record ∈ message.answers, record.Proper :=
  fun record found => proper.records record (by simp [Message.records, found])

theorem authority (proper : message.Proper) : ∀ record ∈ message.authority, record.Proper :=
  fun record found => proper.records record (by simp [Message.records, found])

theorem ofAdditional (proper : message.Proper) : ∀ record ∈ message.additional, record.Proper :=
  fun record found => proper.records record (by simp [Message.records, found])

end Proper

/-! ### The sections of a written message -/

def questionSection (message : Message) : Section :=
  questionWriter.writeMany [] [] 12 message.questions

def answerPlace (message : Message) : Nat :=
  12 + message.questionSection.octets.length

def answerSection (message : Message) : Section :=
  message.questionSection.followedBy message.answerPlace message.answers

def authorityPlace (message : Message) : Nat :=
  message.answerPlace + message.answerSection.octets.length

def authoritySection (message : Message) : Section :=
  message.answerSection.followedBy message.authorityPlace message.authority

def additionalPlace (message : Message) : Nat :=
  message.authorityPlace + message.authoritySection.octets.length

def additionalSection (message : Message) : Section :=
  message.authoritySection.followedBy message.additionalPlace message.additional

def extensionPlace (message : Message) : Nat :=
  message.additionalPlace + message.additionalSection.octets.length

def extensionSection (message : Message) : Section :=
  message.additionalSection.followedBy message.extensionPlace
    (message.edns.toList.map Edns.toRecord)

/-- Every record is written. -/
def isComplete (message : Message) : Bool :=
  message.answerSection.complete && message.authoritySection.complete &&
    message.additionalSection.complete && message.extensionSection.complete

/-- What is read where a message was written. -/
def kept (message : Message) : Message where
  header :=
    { message.header with
      truncated := message.header.truncated || !message.isComplete }
  questions := message.questions
  answers := (message.answers.take message.answerSection.count).map Record.settled
  authority := (message.authority.take message.authoritySection.count).map Record.settled
  additional := (message.additional.take message.additionalSection.count).map Record.settled
  edns := if message.extensionSection.complete then message.edns else none

def headOctets (message : Message) : Octets :=
  octets16 message.header.id ++ (octets16 (flagWord message.kept.header) ++
    (octets16 (UInt16.ofNat message.questionSection.count) ++
      (octets16 (UInt16.ofNat message.answerSection.count) ++
        (octets16 (UInt16.ofNat message.authoritySection.count) ++
          octets16 (UInt16.ofNat
            (message.additionalSection.count + message.extensionSection.count))))))

def bodyOctets (message : Message) : Octets :=
  message.questionSection.octets ++ (message.answerSection.octets ++
    (message.authoritySection.octets ++ (message.additionalSection.octets ++
      message.extensionSection.octets)))

theorem encode?_eq (message : Message) :
    message.encode? =
      if message.questionSection.complete then
        some (message.headOctets ++ (message.bodyOctets ++ message.extensionSection.left))
      else
        none := by
  have written : message.encode? =
      if message.questionSection.complete then
        some (octets16 message.header.id ++ octets16 (flagWord message.kept.header) ++
          octets16 (UInt16.ofNat message.questionSection.count) ++
          octets16 (UInt16.ofNat message.answerSection.count) ++
          octets16 (UInt16.ofNat message.authoritySection.count) ++
          octets16 (UInt16.ofNat
            (message.additionalSection.count + message.extensionSection.count)) ++
          message.questionSection.octets ++ message.answerSection.octets ++
          message.authoritySection.octets ++ message.additionalSection.octets ++
          message.extensionSection.octets ++ message.extensionSection.left)
      else
        none := rfl
  rw [written]
  simp only [headOctets, bodyOctets, List.append_assoc]

/-- A message can be written exactly if its questions fit. -/
theorem exists_encode?_iff {message : Message} :
    (∃ octets, message.encode? = some octets) ↔ message.questionSection.complete = true := by
  rw [encode?_eq]
  constructor
  · rintro ⟨octets, written⟩
    split at written
    next complete => exact complete
    next => cases written
  · intro complete
    exact ⟨_, if_pos complete⟩

end Message

namespace Wire

/-! ### Headers -/

theorem flag_eq (set : Bool) (index : Nat) : flag set index = set.toNat <<< index := by
  cases set <;> simp [flag]

theorem toNat_flagWord (header : Header) :
    (flagWord header).toNat =
      header.response.toNat * 32768 + header.opcode.val * 2048 +
        header.authoritative.toNat * 1024 + header.truncated.toNat * 512 +
        header.recursionDesired.toNat * 256 + header.recursionAvailable.toNat * 128 +
        header.authenticData.toNat * 32 + header.checkingDisabled.toNat * 16 +
        header.code.val := by
  have opcode := header.opcode.isLt
  have code := header.code.isLt
  have response := Bool.toNat_le header.response
  have authoritative := Bool.toNat_le header.authoritative
  have truncated := Bool.toNat_le header.truncated
  have desired := Bool.toNat_le header.recursionDesired
  have available := Bool.toNat_le header.recursionAvailable
  have authentic := Bool.toNat_le header.authenticData
  have disabled := Bool.toNat_le header.checkingDisabled
  simp only [flagWord, flag_eq, UInt16.toNat_ofNat', Nat.reducePow]
  omega

theorem bit_eq {word : UInt16} {index : Nat} {set : Bool}
    (equal : (word.toNat >>> index) % 2 = set.toNat) : bit word index = set := by
  rw [bit, equal]
  cases set <;> rfl

theorem fourBits_eq {word : UInt16} {index : Nat} {value : Fin 16}
    (equal : (word.toNat >>> index) % 16 = value.val) : fourBits word index = value :=
  Fin.ext equal

theorem headerOf_flagWord (header : Header) : headerOf header.id (flagWord header) = header := by
  have word := toNat_flagWord header
  have opcode := header.opcode.isLt
  have code := header.code.isLt
  have response := Bool.toNat_le header.response
  have authoritative := Bool.toNat_le header.authoritative
  have truncated := Bool.toNat_le header.truncated
  have desired := Bool.toNat_le header.recursionDesired
  have available := Bool.toNat_le header.recursionAvailable
  have authentic := Bool.toNat_le header.authenticData
  have disabled := Bool.toNat_le header.checkingDisabled
  have sameResponse : bit (flagWord header) 15 = header.response := bit_eq (by omega)
  have sameOpcode : fourBits (flagWord header) 11 = header.opcode := fourBits_eq (by omega)
  have sameAuthoritative : bit (flagWord header) 10 = header.authoritative := bit_eq (by omega)
  have sameTruncated : bit (flagWord header) 9 = header.truncated := bit_eq (by omega)
  have sameDesired : bit (flagWord header) 8 = header.recursionDesired := bit_eq (by omega)
  have sameAvailable : bit (flagWord header) 7 = header.recursionAvailable := bit_eq (by omega)
  have sameAuthentic : bit (flagWord header) 5 = header.authenticData := bit_eq (by omega)
  have sameDisabled : bit (flagWord header) 4 = header.checkingDisabled := bit_eq (by omega)
  have sameCode : fourBits (flagWord header) 0 = header.code := fourBits_eq (by omega)
  rw [headerOf, sameResponse, sameOpcode, sameAuthoritative, sameTruncated, sameDesired,
    sameAvailable, sameAuthentic, sameDisabled, sameCode]

/-! ### The extension record -/

theorem ofRecord_toRecord {edns : Edns} (payload : max minPayload edns.payload = edns.payload) :
    Edns.ofRecord edns.toRecord.settled = edns := by
  obtain ⟨extendedCode, version, flags, size, options⟩ := edns
  cases options <;>
    simp_all [Edns.ofRecord, Edns.toRecord, Record.settled, RecordData.settled]

theorem max_payload (payload : UInt16) :
    max minPayload (max minPayload payload) = max minPayload payload := by
  simp only [Max.max]
  split <;> simp_all

theorem proper_toRecord {edns : Edns} (options : (RecordData.options edns.options).Proper) :
    edns.toRecord.Proper where
  data := options
  owner _ := rfl
  payload _ := max_payload edns.payload

theorem takeExtension?_append {records : List Record} {edns : Option Edns}
    (additional : ∀ record ∈ records, isExtension record = false)
    (payload : ∀ extension ∈ edns, max minPayload extension.payload = extension.payload) :
    takeExtension? (records ++ (edns.toList.map Edns.toRecord).map Record.settled) =
      some (records, edns) := by
  have none : records.filter isExtension = [] := by
    rw [List.filter_eq_nil_iff]
    intro record found
    simp [additional record found]
  have all : (records.filter fun record => !isExtension record) = records := by
    rw [List.filter_eq_self]
    intro record found
    simp [additional record found]
  cases edns with
  | none => simp [takeExtension?, none, all]
  | some extension =>
      have isExtension : isExtension extension.toRecord.settled = true := by
        rw [isExtension, Record.type_settled]
        rfl
      have read := ofRecord_toRecord (payload extension rfl)
      simp [takeExtension?, List.filter_append, none, all, isExtension, read]

end Wire

namespace Message

/-! ### Bounds -/

theorem answerPlace_le (message : Message) : message.answerPlace ≤ maxMessage :=
  place_writeMany_le faithful_questionWriter _ _ (by decide) message.questions

theorem authorityPlace_le (message : Message) : message.authorityPlace ≤ maxMessage :=
  place_writeMany_le faithful_recordWriter _ _ message.answerPlace_le message.answers

theorem additionalPlace_le (message : Message) : message.additionalPlace ≤ maxMessage :=
  place_writeMany_le faithful_recordWriter _ _ message.authorityPlace_le message.authority

theorem extensionPlace_le (message : Message) : message.extensionPlace ≤ maxMessage :=
  place_writeMany_le faithful_recordWriter _ _ message.additionalPlace_le message.additional

theorem extensionEnd_le (message : Message) :
    message.extensionPlace + message.extensionSection.octets.length ≤ maxMessage :=
  place_writeMany_le faithful_recordWriter _ _ message.extensionPlace_le _

theorem count_lt (message : Message) :
    message.questionSection.count < 65536 ∧ message.answerSection.count < 65536 ∧
      message.authoritySection.count < 65536 ∧
      message.additionalSection.count + message.extensionSection.count < 65536 := by
  have questions : message.questionSection.count ≤ message.questionSection.octets.length :=
    count_writeMany_le faithful_questionWriter _ _ _ _
  have answers : message.answerSection.count ≤ message.answerSection.octets.length :=
    count_writeMany_le faithful_recordWriter _ _ _ _
  have authority : message.authoritySection.count ≤ message.authoritySection.octets.length :=
    count_writeMany_le faithful_recordWriter _ _ _ _
  have additional : message.additionalSection.count ≤ message.additionalSection.octets.length :=
    count_writeMany_le faithful_recordWriter _ _ _ _
  have extension : message.extensionSection.count ≤ message.extensionSection.octets.length :=
    count_writeMany_le faithful_recordWriter _ _ _ _
  have total : message.extensionPlace + message.extensionSection.octets.length ≤ 65535 :=
    message.extensionEnd_le
  simp only [extensionPlace, additionalPlace, authorityPlace, answerPlace] at total
  omega

/-! ### Reading the sections back -/

section Read

variable {message : Message} {read : Array UInt8}

theorem readQuestions (complete : message.questionSection.complete = true)
    (held : Holds read 12 message.questionSection.octets) :
    readMany? (readQuestion? read) message.questionSection.count 12 =
        some (message.questions, message.answerPlace) ∧
      Known read message.answerPlace message.questionSection.suffixes := by
  have none : Known read 12 [] := by
    intro suffix found
    cases found
  obtain ⟨questions, known⟩ := readMany?_writeMany
    (fun question _ => inverse_question read question) none held
  have count := count_of_complete complete
  rw [show (questionWriter.writeMany [] [] 12 message.questions).count =
    message.questions.length from count, List.take_length, List.map_id] at questions
  exact ⟨count ▸ questions, known⟩

theorem readRecords {before : Section} {place : Nat} {records : List Record}
    (proper : ∀ record ∈ records, record.Proper)
    (known : Known read place before.suffixes)
    (held : Holds read place (before.followedBy place records).octets) :
    readMany? (readRecord? read) (before.followedBy place records).count place =
        some ((records.take (before.followedBy place records).count).map Record.settled,
          place + (before.followedBy place records).octets.length) ∧
      Known read (place + (before.followedBy place records).octets.length)
        (before.followedBy place records).suffixes :=
  readMany?_writeMany (fun record found => inverse_record read (proper record found)) known held

theorem readAnswers (proper : message.Proper)
    (known : Known read message.answerPlace message.questionSection.suffixes)
    (held : Holds read message.answerPlace message.answerSection.octets) :
    readMany? (readRecord? read) message.answerSection.count message.answerPlace =
        some (message.kept.answers, message.authorityPlace) ∧
      Known read message.authorityPlace message.answerSection.suffixes :=
  readRecords proper.answers known held

theorem readAuthority (proper : message.Proper)
    (known : Known read message.authorityPlace message.answerSection.suffixes)
    (held : Holds read message.authorityPlace message.authoritySection.octets) :
    readMany? (readRecord? read) message.authoritySection.count message.authorityPlace =
        some (message.kept.authority, message.additionalPlace) ∧
      Known read message.additionalPlace message.authoritySection.suffixes :=
  readRecords proper.authority known held

theorem readAdditional (proper : message.Proper)
    (known : Known read message.additionalPlace message.authoritySection.suffixes)
    (held : Holds read message.additionalPlace message.additionalSection.octets) :
    readMany? (readRecord? read) message.additionalSection.count message.additionalPlace =
        some (message.kept.additional, message.extensionPlace) ∧
      Known read message.extensionPlace message.additionalSection.suffixes :=
  readRecords proper.ofAdditional known held

/-- The extension record is written whole or not at all. -/
theorem take_extension (message : Message) :
    ((message.edns.toList.map Edns.toRecord).take message.extensionSection.count).map
        Record.settled =
      (message.kept.edns.toList.map Edns.toRecord).map Record.settled := by
  cases complete : message.extensionSection.complete with
  | true =>
      have count : message.extensionSection.count = _ := count_of_complete complete
      rw [count, List.take_length, kept, complete, if_pos rfl]
  | false =>
      have count : message.extensionSection.count < _ := count_of_incomplete complete
      have least : message.extensionSection.count = 0 := by
        cases extension : message.edns <;>
          simp only [extension, Option.toList_none, Option.toList_some, List.map_nil,
            List.map_cons, List.length_nil, List.length_cons] at count <;>
          omega
      simp [least, kept, complete]

theorem Proper.extension {message : Message} (proper : message.Proper) :
    ∀ record ∈ message.edns.toList.map Edns.toRecord, record.Proper := by
  intro record found
  obtain ⟨edns, extension, rfl⟩ := List.mem_map.mp found
  exact proper_toRecord (proper.options edns (by simpa using extension))

theorem readExtension (proper : message.Proper)
    (known : Known read message.extensionPlace message.additionalSection.suffixes)
    (held : Holds read message.extensionPlace message.extensionSection.octets) :
    readMany? (readRecord? read) message.extensionSection.count message.extensionPlace =
      some ((message.kept.edns.toList.map Edns.toRecord).map Record.settled,
        message.extensionPlace + message.extensionSection.octets.length) := by
  rw [← take_extension]
  exact (readRecords proper.extension known held).1

end Read

theorem length_headOctets (message : Message) : message.headOctets.length = 12 := rfl

theorem decode?_of_encode? {message : Message} {octets : Octets} (proper : message.Proper)
    (encoded : message.encode? = some octets) : decode? octets = some message.kept := by
  rw [encode?_eq] at encoded
  split at encoded
  case isFalse => cases encoded
  next complete =>
    simp only [Option.some.injEq] at encoded
    have whole : Holds octets.toArray 0
        (message.headOctets ++ (message.bodyOctets ++ message.extensionSection.left)) :=
      ⟨[], [], by simp [encoded], rfl⟩
    have head := whole.left
    have body := whole.right.left
    rw [length_headOctets, Nat.zero_add] at body
    obtain ⟨questionCount, answerCount, authorityCount, additionalCount⟩ := message.count_lt
    obtain ⟨questions, knownQuestions⟩ := readQuestions complete body.left
    obtain ⟨answers, knownAnswers⟩ := readAnswers proper knownQuestions body.right.left
    obtain ⟨authority, knownAuthority⟩ :=
      readAuthority proper knownAnswers body.right.right.left
    obtain ⟨additional, knownAdditional⟩ :=
      readAdditional proper knownAuthority body.right.right.right.left
    have extension := readExtension proper knownAdditional body.right.right.right.right
    have last := readMany?_add additional extension
    have id := read16?_of_holds head.left
    have flags := read16?_of_holds head.right.left
    have first := read16?_of_holds head.right.right.left
    have second := read16?_of_holds head.right.right.right.left
    have third := read16?_of_holds head.right.right.right.right.left
    have fourth := read16?_of_holds head.right.right.right.right.right
    have toNat {count : Nat} (short : count < 65536) : (UInt16.ofNat count).toNat = count := by
      rw [UInt16.toNat_ofNat']
      exact Nat.mod_eq_of_lt short
    simp only [length_octets16, Nat.zero_add, Nat.reduceAdd] at id flags first second third fourth
    have remaining : ∀ record ∈ message.kept.additional, isExtension record = false := by
      intro record found
      obtain ⟨original, taken, rfl⟩ := List.mem_map.mp found
      rw [isExtension, Record.type_settled]
      exact proper.additional original (List.mem_of_mem_take taken)
    have payload : ∀ edns ∈ message.kept.edns, max minPayload edns.payload = edns.payload := by
      intro edns found
      rw [kept] at found
      split at found
      · exact proper.payload edns found
      · cases found
    have extensionRead := takeExtension?_append remaining payload
    have header : headerOf message.header.id (flagWord message.kept.header) =
        message.kept.header := headerOf_flagWord message.kept.header
    simp only [decode?, id, flags, first, second, third, fourth, toNat questionCount,
      toNat answerCount, toNat authorityCount, toNat additionalCount, Option.bind_eq_bind,
      Option.bind_some, questions, answers, authority, last, extensionRead, header]
    rfl

/-! ### When nothing is missing -/

/-- All parts of a message behind its header, in order. -/
def parts (message : Message) : List Part :=
  message.questions.flatMap questionParts ++
    (message.answers.flatMap recordParts ++
      (message.authority.flatMap recordParts ++
        (message.additional.flatMap recordParts ++
          (message.edns.toList.map Edns.toRecord).flatMap recordParts)))

/-- The place behind the farthest octet, if the message is laid out without a limit. -/
def reach (message : Message) : Nat :=
  (writeParts [] 12 message.parts).reach

/-- A section and all parts behind it stay in a message, if each of the two does. -/
theorem fits_append {Item : Type} {writer : Writer Item} (faithful : writer.Faithful)
    {place : Nat} (left : Octets) (suffixes : Suffixes) (begun : place ≤ maxMessage)
    (items : List Item) (others : List Part) :
    (writeParts suffixes place (items.flatMap writer.parts ++ others)).reach ≤ maxMessage ↔
      (writer.writeMany left suffixes place items).complete = true ∧
        (writeParts (writer.writeMany left suffixes place items).suffixes
          (place + (writer.writeMany left suffixes place items).octets.length) others).reach ≤
            maxMessage := by
  have fits := complete_writeMany_iff faithful left suffixes begun items
  rw [reach_writeParts_append, Nat.max_le, ← fits]
  constructor
  · rintro ⟨complete, rest⟩
    rw [suffixes_of_complete faithful complete, length_of_complete faithful complete]
    exact ⟨complete, rest⟩
  · rintro ⟨complete, rest⟩
    rw [suffixes_of_complete faithful complete, length_of_complete faithful complete] at rest
    exact ⟨complete, rest⟩

theorem isComplete_iff (message : Message) :
    message.questionSection.complete = true ∧ message.isComplete = true ↔
      message.reach ≤ maxMessage := by
  have questions : message.reach ≤ maxMessage ↔ message.questionSection.complete = true ∧
      (writeParts message.questionSection.suffixes message.answerPlace _).reach ≤ maxMessage :=
    fits_append faithful_questionWriter [] [] (by decide) message.questions _
  rw [questions]
  refine and_congr_right fun _ => ?_
  simp only [isComplete, Bool.and_eq_true, and_assoc]
  refine Iff.trans ?_ (fits_append faithful_recordWriter message.questionSection.left _
    message.answerPlace_le message.answers _).symm
  refine and_congr_right fun _ => Iff.trans ?_ (fits_append faithful_recordWriter
    message.answerSection.left _ message.authorityPlace_le message.authority _).symm
  refine and_congr_right fun _ => Iff.trans ?_ (fits_append faithful_recordWriter
    message.authoritySection.left _ message.additionalPlace_le message.additional _).symm
  exact and_congr_right fun _ => complete_writeMany_iff faithful_recordWriter
    message.additionalSection.left _ message.extensionPlace_le _

/-- Nothing is cut off from a message that is complete. -/
theorem kept_of_isComplete {message : Message} (complete : message.isComplete = true) :
    message.kept =
      { message with
        answers := message.answers.map Record.settled
        authority := message.authority.map Record.settled
        additional := message.additional.map Record.settled } := by
  have header : message.kept.header = { message.header with
      truncated := message.header.truncated || !message.isComplete } := rfl
  rw [complete, Bool.not_true, Bool.or_false] at header
  simp only [isComplete, Bool.and_eq_true] at complete
  obtain ⟨⟨⟨answers, authority⟩, additional⟩, extension⟩ := complete
  have answerCount : message.answerSection.count = _ := count_of_complete answers
  have authorityCount : message.authoritySection.count = _ := count_of_complete authority
  have additionalCount : message.additionalSection.count = _ := count_of_complete additional
  have keptHeader : message.kept.header = message.header := header
  unfold kept at keptHeader ⊢
  simp only at keptHeader
  rw [keptHeader, answerCount, authorityCount, additionalCount, List.take_length,
    List.take_length, List.take_length, if_pos extension]

end Message

end SplitDns.Dns
