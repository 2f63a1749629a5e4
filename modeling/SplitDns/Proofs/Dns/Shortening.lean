import SplitDns.Proofs.Dns.Decoding
import SplitDns.Proofs.Dns.Envelopes

/-!
# Replies cut down to their envelope

A reply that is too long for a datagram is replaced by the envelope of a message: the one that the
reply holds, or else the query turned into an answer. `truncated?_shortens_iff` says what a client
reads of it, and that the extension record and with it the upper half of the response code are
lost where the envelope is larger than a message.
-/

namespace SplitDns.Dns

open Wire

namespace Message

variable {message query : Message} {raw reply octets : Octets}

/-- The message whose envelope stands for a long reply. -/
def source (query : Message) (reply : Octets) : Message :=
  (decode? reply).getD
    { query with
      header := { query.header with response := true, recursionAvailable := true } }

theorem truncated?_eq (query : Message) (reply : Octets) :
    query.truncated? reply =
      if reply.length ≤ query.datagramLimit then none
      else (query.source reply).envelope.markTruncated.encode? := by
  unfold truncated? source
  cases decode? reply <;> rfl

theorem encode?_of_truncated? (cut : query.truncated? reply = some octets) :
    (query.source reply).envelope.markTruncated.encode? = some octets := by
  rw [truncated?_eq] at cut
  split at cut
  next => cases cut
  next => exact cut

/-- A reply is replaced if it is too long and the questions of its source can be written. -/
theorem exists_truncated?_iff :
    (∃ octets, query.truncated? reply = some octets) ↔
      query.datagramLimit < reply.length ∧
        (query.source reply).questionLayout.reach ≤ maxMessage := by
  have questions : (∃ octets, (query.source reply).envelope.markTruncated.encode? = some octets) ↔
      (query.source reply).questionLayout.reach ≤ maxMessage :=
    exists_encode?_iff.trans complete_questionSection_iff
  rw [truncated?_eq]
  split
  next fits =>
    constructor
    · rintro ⟨_, ⟨⟩⟩
    · exact fun large => absurd large.1 (Nat.not_lt.mpr fits)
  next large => rw [questions, and_iff_right (Nat.lt_of_not_le large)]

theorem proper_source (received : decode? raw = some query) (reply : Octets) :
    (query.source reply).Proper := by
  unfold source
  cases decoded : decode? reply with
  | some response => exact proper_of_decode? decoded
  | none =>
      have proper := proper_of_decode? received
      exact ⟨proper.records, proper.additional, proper.options, proper.payload⟩

theorem Proper.shortened (proper : message.Proper) : message.envelope.markTruncated.Proper where
  records := by simp [Message.records, envelope, markTruncated]
  additional := by simp [envelope, markTruncated]
  options := proper.options
  payload := proper.payload

/-! ### What is read of it -/

theorem length_of_truncated? (cut : query.truncated? reply = some octets) :
    octets.length = (query.source reply).envelopeSize := by
  have none : (query.source reply).envelope.markTruncated.records = [] := rfl
  have written := length_of_encode? none (encode?_of_truncated? cut)
  exact written

/-- What is left of an envelope that may be larger than a message. -/
def shortened (message : Message) : Message :=
  { message.envelope.markTruncated with
    edns := if message.uncutSize ≤ maxMessage then message.edns else none }

theorem kept_markTruncated
    (encoded : message.envelope.markTruncated.encode? = some octets) :
    message.envelope.markTruncated.kept = message.shortened := by
  have complete := exists_encode?_iff.mp ⟨octets, encoded⟩
  have within : message.questionLayout.reach ≤ maxMessage :=
    complete_questionSection_iff.mp complete
  have whole : message.envelope.markTruncated.extensionSection.complete = true ↔
      message.uncutSize ≤ maxMessage := by
    have fits : _ ↔ message.envelope.reach ≤ maxMessage :=
      message.envelope.markTruncated.isComplete_iff
    rw [reach_envelope, Nat.max_le, and_iff_right within, and_iff_right complete] at fits
    exact fits
  simp only [kept, whole, shortened]
  rfl

theorem decode?_of_truncated? (received : decode? raw = some query)
    (cut : query.truncated? reply = some octets) :
    decode? octets = some (query.source reply).shortened := by
  have encoded := encode?_of_truncated? cut
  rw [decode?_of_encode? (proper_source received reply).shortened encoded,
    kept_markTruncated encoded]

/-- The message is the other one without its records, marked as truncated. -/
structure Shortens (short source : Message) : Prop where
  header : short.header = { source.header with truncated := true }
  questions : short.questions = source.questions
  edns : short.edns = source.edns
  code : short.responseCode = source.responseCode
  records : short.records = []

theorem shortens_shortened_iff (message : Message) :
    message.shortened.Shortens message ↔ message.uncutSize ≤ maxMessage ∨ message.edns = none := by
  constructor
  · intro shortens
    have edns := shortens.edns
    by_cases fits : message.uncutSize ≤ maxMessage
    · exact .inl fits
    · rw [shortened, if_neg fits] at edns
      exact .inr edns.symm
  · intro kept
    have edns : message.shortened.edns = message.edns := by
      rw [shortened]
      rcases kept with fits | none
      · exact if_pos fits
      · rw [none, ite_self]
    have header : message.shortened.header = { message.header with truncated := true } := rfl
    exact ⟨header, rfl, edns, by rw [responseCode, edns, header, responseCode], rfl⟩

/--
A reply that fits is not replaced. What a client reads of the replacement of another has the
questions of the source and its header, marked as truncated, and no records. It has all of the
envelope exactly if there is no extension record or the whole envelope fits into a message.
-/
theorem truncated?_shortens_iff (received : decode? raw = some query) (reply : Octets) :
    (reply.length ≤ query.datagramLimit → query.truncated? reply = none) ∧
    ∀ octets, query.truncated? reply = some octets →
      ∃ message, decode? octets = some message ∧
        message.header = { (query.source reply).header with truncated := true } ∧
        message.questions = (query.source reply).questions ∧
        message.records = [] ∧
        (message.Shortens (query.source reply) ↔
          (query.source reply).uncutSize ≤ maxMessage ∨ (query.source reply).edns = none) := by
  constructor
  · intro fits
    rw [truncated?_eq, if_pos fits]
  · intro octets cut
    refine ⟨_, decode?_of_truncated? received cut, rfl, rfl, rfl, ?_⟩
    exact shortens_shortened_iff _

/-- A name with one label of one octet. -/
def oneOctet (octet : UInt8) : Name :=
  ⟨[[octet]], by simp, by simp [wireSize]⟩

/-- A query for the addresses of `a`, as it is received. -/
def plainQuery : Octets :=
  [0x12, 0x34, 1, 0, 0, 1, 0, 0, 0, 0, 0, 0, 1, 97, 0, 0, 1, 0, 1]

/-- The message of `plainQuery`. -/
def plainQuestion : Message where
  header := headerOf 0x1234 0x0100
  questions := [⟨oneOctet 97, 1, 1⟩]
  answers := []
  authority := []
  additional := []
  edns := none

theorem decode?_plainQuery : decode? plainQuery = some plainQuestion := by
  cbv

/-- An extension record with one option, of padding. -/
def paddedEdns (filling : Octets) : Edns :=
  ⟨0, 0, 0, 1232, [(12, filling)]⟩

/-- A response without records that asks for a name of one octet and is padded. -/
def padded (octet : UInt8) (filling : Octets) : Message where
  header := headerOf 0x1234 0x8180
  questions := [⟨oneOctet octet, 1, 1⟩]
  answers := []
  authority := []
  additional := []
  edns := some (paddedEdns filling)

theorem size_paddedEdns (filling : Octets) : (paddedEdns filling).size = filling.length + 15 := by
  simp only [paddedEdns, Edns.size, optionsSize, List.foldr_cons, List.foldr_nil]
  omega

section Padded

variable (octet : UInt8) {filling : Octets}

theorem proper_padded (short : filling.length < 65536) : (padded octet filling).Proper where
  records := by simp [records, padded]
  additional := by simp [padded]
  options := by
    rintro edns ⟨⟩ option found
    cases List.mem_singleton.mp found
    exact ⟨short, rfl⟩
  payload := by
    rintro edns ⟨⟩
    rfl

theorem uncutSize_padded (filling : Octets) :
    (padded octet filling).uncutSize = filling.length + 34 := by
  have questions : (padded octet filling).questionLayout.octets.length = 7 := by
    simp [questionLayout, padded, oneOctet, questionParts, writeParts, writePart, writeLabels,
      labelOctets]
  have options : (padded octet filling).edns.elim 0 Edns.size = filling.length + 15 :=
    size_paddedEdns filling
  rw [uncutSize, questions, options]
  omega

theorem encode?_padded (fits : filling.length + 34 ≤ maxMessage) :
    ∃ reply, (padded octet filling).encode? = some reply ∧
      decode? reply = some (padded octet filling) ∧ reply.length = filling.length + 34 := by
  have proper : (padded octet filling).Proper :=
    proper_padded octet (Nat.lt_of_le_of_lt (Nat.le_add_right _ 34) (Nat.lt_succ_of_le fits))
  obtain ⟨reply, encoded⟩ :=
    (padded octet filling).exists_encode?_of_few (by simp [padded])
  have uncut : (padded octet filling).uncutSize ≤ maxMessage :=
    uncutSize_padded octet filling ▸ fits
  have questions := (padded octet filling).questionLayout_fits (by simp [padded])
  have reach : (padded octet filling).reach ≤ maxMessage := by
    have envelope : (padded octet filling).reach = (padded octet filling).envelope.reach := rfl
    rw [envelope, reach_envelope]
    exact Nat.max_le.mpr ⟨questions, uncut⟩
  have complete := ((padded octet filling).isComplete_iff.mpr reach).2
  refine ⟨reply, encoded, ?_, ?_⟩
  · rw [decode?_of_encode? proper encoded, kept_of_isComplete complete]
    rfl
  · rw [length_of_encode? rfl encoded, envelopeSize_of_uncutSize uncut, uncutSize_padded]

variable {octet}

/-- A padded response that does not fit is replaced, whatever is left of it. -/
theorem exists_truncated?_padded (decoded : decode? reply = some (padded octet filling))
    (large : 512 < reply.length) :
    plainQuestion.source reply = padded octet filling ∧
      ∃ octets, plainQuestion.truncated? reply = some octets := by
  have source : plainQuestion.source reply = padded octet filling := by
    rw [Message.source, decoded, Option.getD_some]
  have questions : (padded octet filling).questionLayout.reach ≤ maxMessage :=
    (padded octet filling).questionLayout_fits (by simp [padded])
  have limit : plainQuestion.datagramLimit = 512 := rfl
  refine ⟨source, exists_truncated?_iff.mpr ⟨?_, ?_⟩⟩
  · rw [limit]
    exact large
  · rw [source]
    exact questions

end Padded

/-- A long reply without records loses nothing. -/
theorem truncated?_shortens_padded :
    ∃ reply octets message, decode? plainQuery = some plainQuestion ∧
      decode? reply = some (padded 97 (List.replicate 600 0)) ∧
      plainQuestion.truncated? reply = some octets ∧ decode? octets = some message ∧
      message.Shortens (padded 97 (List.replicate 600 0)) := by
  have long : (List.replicate 600 (0 : UInt8)).length = 600 := List.length_replicate
  generalize List.replicate 600 (0 : UInt8) = filling at long ⊢
  have fits : filling.length + 34 ≤ maxMessage := by
    rw [long]
    decide
  obtain ⟨reply, _, decoded, size⟩ := encode?_padded 97 fits
  obtain ⟨source, octets, cut⟩ := exists_truncated?_padded decoded (by omega)
  obtain ⟨message, read, _, _, _, shortens⟩ :=
    (truncated?_shortens_iff decode?_plainQuery reply).2 octets cut
  rw [source, uncutSize_padded] at shortens
  exact ⟨reply, octets, message, decode?_plainQuery, decoded, cut, read,
    shortens.mpr (.inl fits)⟩

/--
The octets of `padded 0` with the name written as a reference to the header, where it stands as soon
as there is one question and no answer.
-/
def referring (filling : Octets) : Octets :=
  countedHead 0x1234 0x8180 1 0 0 1 ++ ((reference 5 ++ (octets16 1 ++ octets16 1)) ++
    (writeRecord [] 18 (paddedEdns filling).toRecord).octets)

theorem length_referring (filling : Octets) : (referring filling).length = filling.length + 33 := by
  simp only [referring, countedHead, reference, List.length_append, length_octets16,
    Edns.length_writeRecord, size_paddedEdns]
  omega

theorem readQuestion?_referring {read : Array UInt8}
    (counts : Holds read 4 (octets16 1 ++ octets16 0))
    (question : Holds read 12 (reference 5 ++ (octets16 1 ++ octets16 1))) :
    readQuestion? read 12 = some (⟨oneOctet 0, 1, 1⟩, 18) := by
  have label : Holds read 5 (labelOctets [0] ++ [0]) := counts.tail
  have root : Holds read 7 [0] := label.tail.tail
  have ended : readLabels? read 5 12 7 = some ([], 8) := readLabels?_root root (by decide)
  have labels : readLabels? read 5 12 5 = some ([[0]], 8) := by
    rw [readLabels?_label label (by decide) (by decide) (by decide)]
    exact congrArg _ ended
  have name : readName? read 12 = some (oneOctet 0, 14) := by
    apply readName?_of_readLabels?
    rw [readLabels?_reference question.left (by decide) (by decide) question.left.place_lt, labels]
    rfl
  have type : read16? read 14 = some (1, 16) := read16?_of_holds question.right.left
  have dnsClass : read16? read 16 = some (1, 18) := read16?_of_holds question.right.right
  simp only [readQuestion?, name, type, dnsClass, Option.bind_eq_bind, Option.bind_some,
    Option.pure_def]

theorem readRecord?_referring {read : Array UInt8} {filling : Octets}
    (short : filling.length < 65532)
    (extension : Holds read 18 (writeRecord [] 18 (paddedEdns filling).toRecord).octets) :
    ∃ next, readRecord? read 18 = some ((paddedEdns filling).toRecord, next) := by
  have proper : (paddedEdns filling).toRecord.Proper :=
    proper_toRecord ((proper_padded 0 (Nat.lt_trans short (by decide))).options _ rfl)
  have known : Known read 18 [] := by
    intro suffix found
    cases found
  have data : (writeData [] 18 (paddedEdns filling).toRecord).octets.length < 65536 := by
    simp [writeData, paddedEdns, Edns.toRecord, dataParts, optionPieces, writeParts, writePart]
    omega
  exact ⟨_, readRecord?_writeRecord proper known data extension⟩

theorem decode?_referring {filling : Octets} (short : filling.length < 65532) :
    decode? (referring filling) = some (padded 0 filling) := by
  have whole : Holds (referring filling).toArray 0 (referring filling) := ⟨[], [], by simp, rfl⟩
  have head := whole.left
  have body : Holds (referring filling).toArray 12 _ := whole.right
  have question : readQuestion? (referring filling).toArray 12 = some (⟨oneOctet 0, 1, 1⟩, 18) :=
    readQuestion?_referring head.right.right.left body.left
  obtain ⟨next, extension⟩ := readRecord?_referring short body.right
  have taken : takeExtension? [(paddedEdns filling).toRecord] =
      some ([], some (paddedEdns filling)) := by
    have none : ∀ record ∈ ([] : List Record), isExtension record = false := by
      intro record found
      cases found
    have proper := proper_padded 0 (Nat.lt_trans short (by decide))
    have taken := takeExtension?_append none proper.payload
    exact taken
  exact decode?_of_head head (readMany?_one question) (readMany?_one extension) taken

/-- The extension record is lost from a reply whose question is longer when it is written anew. -/
theorem shortened_loses_extension :
    ∃ reply octets message, decode? plainQuery = some plainQuestion ∧
      reply.length = maxMessage ∧ decode? reply = some (padded 0 (List.replicate 65502 0)) ∧
      plainQuestion.truncated? reply = some octets ∧ decode? octets = some message ∧
      message.edns = none ∧ ¬ message.Shortens (padded 0 (List.replicate 65502 0)) := by
  have long : (List.replicate 65502 (0 : UInt8)).length = 65502 := List.length_replicate
  generalize List.replicate 65502 (0 : UInt8) = filling at long ⊢
  have decoded : decode? (referring filling) = some (padded 0 filling) := by
    apply decode?_referring
    rw [long]
    decide
  have size : (referring filling).length = maxMessage := by
    rw [length_referring, long]
    rfl
  have overflows : ¬ (padded 0 filling).uncutSize ≤ maxMessage := by
    rw [uncutSize_padded, long]
    decide
  obtain ⟨source, octets, cut⟩ := exists_truncated?_padded decoded (by rw [size]; decide)
  have read := decode?_of_truncated? decode?_plainQuery cut
  have lost : (padded 0 filling).shortened.edns = none := if_neg overflows
  rw [source] at read
  refine ⟨_, octets, _, decode?_plainQuery, size, decoded, cut, read, lost, ?_⟩
  intro shortens
  cases lost.symm.trans shortens.edns

end Message

end SplitDns.Dns
