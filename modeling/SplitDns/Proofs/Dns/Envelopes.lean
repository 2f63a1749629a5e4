import Mathlib.Data.List.Infix
import SplitDns.Dns.Reply
import SplitDns.Proofs.Dns.Messages

/-!
# Messages without records

A message without records is its header, its questions and its extension record.
`complete_questionSection_iff` says when it can be written, `length_of_encode?` how long it is then,
also where the extension record is cut off, and `envelopeSize_le_fullSize` bounds its length by that
with its names in full.
-/

namespace SplitDns.Dns

namespace Wire

/-! ### Names at their longest -/

theorem length_writeLabels_le (suffixes : Suffixes) (place : Nat) (labels : List Octets) :
    (writeLabels suffixes place labels).1.length ≤ labelsSize labels + 1 := by
  induction labels generalizing suffixes place with
  | nil => exact Nat.le_refl _
  | cons label rest inductionHypothesis =>
      have sizes : labelsSize (label :: rest) = label.length + 1 + labelsSize rest := rfl
      cases looked : suffixes.lookup (label :: rest) with
      | some target =>
          have written : (writeLabels suffixes place (label :: rest)).1 = reference target := by
            simp only [writeLabels, looked]
          rw [written, reference, length_octets16]
          omega
      | none =>
          have others := inductionHypothesis (remember suffixes (label :: rest) place)
            (place + label.length + 1)
          rw [length_writeLabels_cons place looked]
          omega

end Wire

open Wire

/-- The octets that a question takes with its name in full. -/
def Question.fullSize (question : Question) : Nat :=
  labelsSize question.name.labels + 5

theorem Question.fullSize_le (question : Question) : question.fullSize ≤ 259 := by
  have bound : labelsSize question.name.labels + 1 ≤ 255 := question.name.size_le
  rw [fullSize]
  omega

/-- The octets that questions take with their names in full. -/
def questionsSize (questions : List Question) : Nat :=
  questions.foldr (fun question size => question.fullSize + size) 0

/-- The octets that options take. -/
def optionsSize (options : List (UInt16 × Octets)) : Nat :=
  options.foldr (fun option size => option.2.length + 4 + size) 0

/-- The octets that the extension record takes. -/
def Edns.size (edns : Edns) : Nat :=
  11 + optionsSize edns.options

namespace Wire

theorem reach_questionParts_le (suffixes : Suffixes) (place : Nat) (question : Question) :
    (writeParts suffixes place (questionParts question)).reach ≤ place + question.fullSize := by
  have name := length_writeLabels_le suffixes place question.name.labels
  simp only [questionParts, writeParts, writePart, List.flatten_cons, List.flatten_nil,
    List.length_append, length_octets16, List.length_nil, Question.fullSize]
  omega

theorem reach_questions_le (suffixes : Suffixes) (place : Nat) (questions : List Question) :
    (writeParts suffixes place (questions.flatMap questionParts)).reach ≤
      place + questionsSize questions := by
  induction questions generalizing suffixes place with
  | nil => exact Nat.le_refl _
  | cons question rest inductionHypothesis =>
      have first := reach_questionParts_le suffixes place question
      have ordered := place_le_reach_writeParts suffixes place (questionParts question)
      have others := inductionHypothesis
        (writeParts suffixes place (questionParts question)).suffixes
        (place + (writeParts suffixes place (questionParts question)).octets.length)
      rw [List.flatMap_cons, reach_writeParts_append, questionsSize, List.foldr_cons,
        ← questionsSize]
      omega

/-! ### What is left of a record that does not fit -/

theorem fitting_append_of_le {room : Nat} {first : List Octets}
    (fits : first.flatten.length ≤ room) (second : List Octets) :
    fitting room (first ++ second) = first ++ fitting (room - first.flatten.length) second := by
  induction first generalizing room with
  | nil => rfl
  | cons piece rest inductionHypothesis =>
      simp only [List.flatten_cons, List.length_append] at fits ⊢
      rw [List.cons_append, fitting, if_pos (by omega), inductionHypothesis (by omega),
        List.cons_append, Nat.sub_add_eq]

theorem fitting_append_of_lt {room : Nat} {first : List Octets}
    (overflows : room < first.flatten.length) (second : List Octets) :
    fitting room (first ++ second) = fitting room first := by
  induction first generalizing room with
  | nil => exact absurd overflows (Nat.not_lt_zero _)
  | cons piece rest inductionHypothesis =>
      simp only [List.flatten_cons, List.length_append] at overflows
      rw [List.cons_append, fitting, fitting]
      split
      next fits => rw [inductionHypothesis (by omega)]
      next => rfl

theorem fitting_eq_self {room : Nat} {pieces : List Octets}
    (fits : pieces.flatten.length ≤ room) : fitting room pieces = pieces := by
  have whole := fitting_append_of_le fits []
  rwa [fitting, List.append_nil] at whole

/-- A part that is written alike wherever it stands: octets, or a root without labels. -/
def Part.IsPlain : Part → Prop
  | .name labels => labels = []
  | .fullName _ => False
  | _ => True

/-- The pieces in which a plain part is written. -/
def Part.plainPieces : Part → List Octets
  | .pieces octets => octets
  | .gap => [[0, 0]]
  | _ => [[0]]

variable {suffixes : Suffixes} {place : Nat}

theorem writePart_of_isPlain {part : Part} (plain : part.IsPlain) :
    writePart suffixes place part =
      ⟨part.plainPieces.flatten, suffixes, place + part.plainPieces.flatten.length⟩ := by
  cases part with
  | pieces pieces => rfl
  | gap => rfl
  | name labels =>
      cases plain
      rfl
  | fullName labels => cases plain

theorem writeParts_of_isPlain {parts : List Part} (plain : ∀ part ∈ parts, part.IsPlain) :
    writeParts suffixes place parts =
      ⟨(parts.flatMap Part.plainPieces).flatten, suffixes,
        place + (parts.flatMap Part.plainPieces).flatten.length⟩ := by
  induction parts generalizing place with
  | nil => rfl
  | cons part rest inductionHypothesis =>
      have others (place : Nat) : writeParts suffixes place rest = _ :=
        inductionHypothesis fun other found => plain other (List.mem_cons_of_mem _ found)
      simp only [writeParts, writePart_of_isPlain (plain part List.mem_cons_self), others,
        List.flatMap_cons, List.flatten_append, List.length_append]
      congr 1
      omega

/-- Where a plain part does not fit, the pieces before its end are all that is left of it. -/
theorem fitting_layout {part : Part} (plain : part.IsPlain) {room : Nat}
    (overflows : room < part.plainPieces.flatten.length) :
    fitting room part.layout = fitting room part.plainPieces := by
  cases part with
  | pieces pieces => rfl
  | gap =>
      have none : fitting room [[0, 0]] = [] := if_neg (Nat.not_le.mpr overflows)
      exact none.symm
  | name labels =>
      cases plain
      have none : fitting room [[0]] = [] := if_neg (Nat.not_le.mpr overflows)
      exact none.symm
  | fullName labels => cases plain

theorem attempt_cons {part : Part} (plain : part.IsPlain) (rest : List Part)
    (fits : place + part.plainPieces.flatten.length ≤ maxMessage) :
    attempt [] suffixes place (part :: rest) =
      part.plainPieces.flatten ++
        attempt [] suffixes (place + part.plainPieces.flatten.length) rest := by
  have beyond (count : Nat) : leftBeyond [] count part = [] := by
    cases part <;> simp [leftBeyond]
  have written : writePart suffixes place part = _ := writePart_of_isPlain plain
  cases part with
  | gap =>
      rw [attempt, written, if_pos fits, beyond]
      rfl
  | pieces pieces =>
      rw [attempt, written, if_pos fits, beyond]
      nofun
  | name labels =>
      rw [attempt, written, if_pos fits, beyond]
      nofun
  | fullName labels => cases plain

theorem length_attempt {parts : List Part} (plain : ∀ part ∈ parts, part.IsPlain)
    (begun : place ≤ maxMessage) :
    (attempt [] suffixes place parts).length =
      (fitting (maxMessage - place) (parts.flatMap Part.plainPieces)).flatten.length := by
  induction parts generalizing place with
  | nil => rfl
  | cons part rest inductionHypothesis =>
      have first := plain part List.mem_cons_self
      rw [List.flatMap_cons]
      by_cases fits : place + part.plainPieces.flatten.length ≤ maxMessage
      · have others := inductionHypothesis
          (fun other found => plain other (List.mem_cons_of_mem _ found)) fits
        rw [attempt_cons first rest fits, fitting_append_of_le (by omega), List.flatten_append,
          List.length_append, List.length_append, others, Nat.sub_add_eq]
      · have overflows : ¬ (writePart suffixes place part).reach ≤ maxMessage := by
          rwa [writePart_of_isPlain first]
        simp only [attempt, if_neg overflows, List.drop_nil, List.append_nil]
        rw [fitting_append_of_lt (by omega), fitting_layout first (by omega)]

/-- A section that is written whole leaves nothing beyond it. -/
theorem left_of_complete {Item : Type} {writer : Writer Item} {items : List Item}
    (complete : (writer.writeMany [] suffixes place items).complete = true) :
    (writer.writeMany [] suffixes place items).left = [] := by
  induction items generalizing suffixes place with
  | nil => rfl
  | cons item rest inductionHypothesis =>
      simp only [Writer.writeMany] at complete ⊢
      split
      next fits =>
        rw [if_pos fits] at complete
        exact inductionHypothesis complete
      next overflows => simp [overflows] at complete

end Wire

/-! ### The extension record -/

namespace Edns

variable {edns : Edns}

/-- The pieces in which the extension record is written, one of them room for a length. -/
def pieces (edns : Edns) : List Octets :=
  (recordParts edns.toRecord).flatMap Part.plainPieces

theorem isPlain_of_mem_recordParts : ∀ part ∈ recordParts edns.toRecord, part.IsPlain := by
  intro part found
  simp only [recordParts, headParts, toRecord, dataParts, List.cons_append, List.nil_append,
    List.mem_cons, List.not_mem_nil, or_false] at found
  rcases found with rfl | rfl | rfl | rfl
  · exact rfl
  · exact trivial
  · exact trivial
  · exact trivial

theorem length_optionPieces (options : List (UInt16 × Octets)) :
    (options.flatMap optionPieces).flatten.length =
      optionsSize options := by
  induction options with
  | nil => rfl
  | cons option rest inductionHypothesis =>
      simp only [List.flatMap_cons, List.flatten_append, List.length_append, inductionHypothesis,
        optionPieces, List.flatten_cons, List.flatten_nil, length_octets16, List.length_nil,
        optionsSize, List.foldr_cons]
      omega

theorem length_pieces (edns : Edns) : edns.pieces.flatten.length = edns.size := by
  have options := length_optionPieces edns.options
  simp only [pieces, recordParts, headParts, toRecord, dataParts, List.cons_append,
    List.nil_append, List.flatMap_cons, List.flatMap_nil, Part.plainPieces, List.flatten_append,
    List.flatten_cons, List.flatten_nil, List.length_append, options, length_octets16,
    length_octets32, List.length_cons, List.length_nil, size]
  omega

theorem length_writeRecord (edns : Edns) (suffixes : Suffixes) (place : Nat) :
    (writeRecord suffixes place edns.toRecord).octets.length = edns.size := by
  have parts : (writeRecord suffixes place edns.toRecord).octets.length =
      (writeParts suffixes place (recordParts edns.toRecord)).octets.length :=
    faithful_recordWriter.length _ _ _
  rw [parts, writeParts_of_isPlain isPlain_of_mem_recordParts]
  exact edns.length_pieces

theorem reach_writeRecord (edns : Edns) (suffixes : Suffixes) (place : Nat) :
    (writeRecord suffixes place edns.toRecord).reach = place + edns.size := by
  have parts : (writeRecord suffixes place edns.toRecord).reach =
      (writeParts suffixes place (recordParts edns.toRecord)).reach :=
    faithful_recordWriter.reach _ _ _
  rw [parts, writeParts_of_isPlain isPlain_of_mem_recordParts]
  exact congrArg (place + ·) edns.length_pieces

/-- The extension record with what is left of it where it does not fit. -/
theorem length_extension (suffixes : Suffixes) {place : Nat} (begun : place ≤ maxMessage) :
    (recordWriter.writeMany [] suffixes place [edns.toRecord]).octets.length +
        (recordWriter.writeMany [] suffixes place [edns.toRecord]).left.length =
      (fitting (maxMessage - place) edns.pieces).flatten.length := by
  have size := edns.length_pieces
  have reach : (recordWriter.write suffixes place edns.toRecord).reach = place + edns.size :=
    edns.reach_writeRecord suffixes place
  simp only [Writer.writeMany, reach]
  split
  next fits =>
    have whole : (recordWriter.write suffixes place edns.toRecord).octets.length = edns.size :=
      edns.length_writeRecord suffixes place
    rw [List.append_nil, whole, List.length_nil, Nat.add_zero, fitting_eq_self (by omega), size]
  next overflows =>
    rw [List.length_nil, Nat.zero_add]
    exact length_attempt isPlain_of_mem_recordParts begun

end Edns

namespace Message

variable {message : Message} {octets : Octets}

/-! ### Questions -/

/-- The questions laid out behind the header without a limit. -/
def questionLayout (message : Message) : Written :=
  writeParts [] 12 (message.questions.flatMap questionParts)

theorem complete_questionSection_iff :
    message.questionSection.complete = true ↔ message.questionLayout.reach ≤ maxMessage :=
  complete_writeMany_iff faithful_questionWriter [] [] (by decide) message.questions

theorem answerPlace_of_complete (complete : message.questionSection.complete = true) :
    message.answerPlace = 12 + message.questionLayout.octets.length :=
  congrArg (12 + ·) (length_of_complete faithful_questionWriter complete)

theorem reach_questionLayout_le (message : Message) :
    message.questionLayout.reach ≤ 12 + questionsSize message.questions :=
  reach_questions_le [] 12 message.questions

theorem questionsSize_le (questions : List Question) :
    questionsSize questions ≤ questions.length * 259 := by
  induction questions with
  | nil => exact Nat.le_refl _
  | cons question rest inductionHypothesis =>
      have first := question.fullSize_le
      rw [questionsSize, List.foldr_cons, ← questionsSize, List.length_cons]
      omega

theorem questionLayout_fits (message : Message) (few : message.questions.length ≤ 252) :
    message.questionLayout.reach ≤ maxMessage := by
  have reach := message.reach_questionLayout_le
  have size := questionsSize_le message.questions
  rw [maxMessage]
  omega

/-- A message with few questions can be written. -/
theorem exists_encode?_of_few (message : Message) (few : message.questions.length ≤ 252) :
    ∃ octets, message.encode? = some octets := by
  apply exists_encode?_iff.mpr
  apply complete_questionSection_iff.mpr
  exact message.questionLayout_fits few

/-! ### Messages without records -/

theorem extensionSection_of_records (none : message.records = [])
    (complete : message.questionSection.complete = true) :
    message.extensionSection = recordWriter.writeMany [] message.questionSection.suffixes
      message.answerPlace (message.edns.toList.map Edns.toRecord) := by
  have left : message.questionSection.left = [] := left_of_complete complete
  obtain ⟨header, questions, answers, authority, additional, edns⟩ := message
  simp only [records, List.append_eq_nil_iff] at none
  obtain ⟨⟨rfl, rfl⟩, rfl⟩ := none
  simp only [extensionSection, extensionPlace, additionalSection, additionalPlace,
    authoritySection, authorityPlace, answerSection, Section.followedBy, Writer.writeMany, left,
    List.length_nil, Nat.add_zero]

theorem bodyOctets_of_records (none : message.records = []) :
    message.bodyOctets = message.questionSection.octets ++ message.extensionSection.octets := by
  obtain ⟨header, questions, answers, authority, additional, edns⟩ := message
  simp only [records, List.append_eq_nil_iff] at none
  obtain ⟨⟨rfl, rfl⟩, rfl⟩ := none
  rfl

/-- The pieces of the extension record, if there is one. -/
def extensionPieces (message : Message) : List Octets :=
  message.edns.elim [] Edns.pieces

/--
The octets of a message without records: its header, its questions and as much of the extension
record as fits.
-/
def envelopeSize (message : Message) : Nat :=
  let place := 12 + message.questionLayout.octets.length
  place + (fitting (maxMessage - place) message.extensionPieces).flatten.length

theorem length_extensionSection (none : message.records = [])
    (complete : message.questionSection.complete = true) :
    message.extensionSection.octets.length + message.extensionSection.left.length =
      (fitting (maxMessage - message.answerPlace) message.extensionPieces).flatten.length := by
  rw [extensionSection_of_records none complete, extensionPieces]
  cases message.edns with
  | none => rfl
  | some edns => exact edns.length_extension _ message.answerPlace_le

theorem length_of_encode? (none : message.records = [])
    (encoded : message.encode? = some octets) : octets.length = message.envelopeSize := by
  have complete := exists_encode?_iff.mp ⟨octets, encoded⟩
  have place := answerPlace_of_complete complete
  have extension := length_extensionSection none complete
  have questions : message.answerPlace = 12 + message.questionSection.octets.length := rfl
  rw [encode?_eq, if_pos complete, Option.some.injEq] at encoded
  rw [← encoded, bodyOctets_of_records none, envelopeSize, ← place]
  simp only [List.length_append, length_headOctets]
  omega

/-- The octets of the envelope if nothing of it is cut off. -/
def uncutSize (message : Message) : Nat :=
  12 + message.questionLayout.octets.length + message.edns.elim 0 Edns.size

theorem reach_extension (suffixes : Suffixes) (place : Nat) (edns : Option Edns) :
    (writeParts suffixes place ((edns.toList.map Edns.toRecord).flatMap recordParts)).reach =
      place + edns.elim 0 Edns.size := by
  cases edns with
  | none => rfl
  | some edns =>
      rw [Option.toList_some, List.map_singleton, List.flatMap_singleton,
        writeParts_of_isPlain Edns.isPlain_of_mem_recordParts]
      exact congrArg (place + ·) edns.length_pieces

theorem reach_envelope (message : Message) :
    message.envelope.reach = max message.questionLayout.reach message.uncutSize := by
  have parts : message.envelope.parts = message.questions.flatMap questionParts ++
      (message.edns.toList.map Edns.toRecord).flatMap recordParts := rfl
  rw [reach, parts, reach_writeParts_append, reach_extension]
  rfl

/-- The octets that the envelope takes at most, with all names in full. -/
def fullSize (message : Message) : Nat :=
  12 + questionsSize message.questions + message.edns.elim 0 Edns.size

theorem length_extensionPieces (message : Message) :
    message.extensionPieces.flatten.length = message.edns.elim 0 Edns.size := by
  rw [extensionPieces]
  cases message.edns with
  | none => rfl
  | some edns => exact edns.length_pieces

theorem envelopeSize_of_uncutSize (fits : message.uncutSize ≤ maxMessage) :
    message.envelopeSize = message.uncutSize := by
  have extension := message.length_extensionPieces
  rw [uncutSize] at fits ⊢
  rw [envelopeSize, fitting_eq_self (by omega), extension]

theorem envelopeSize_le_fullSize (message : Message) :
    message.envelopeSize ≤ message.fullSize := by
  have reach := message.reach_questionLayout_le
  have ordered : 12 + message.questionLayout.octets.length ≤ message.questionLayout.reach :=
    place_le_reach_writeParts [] 12 _
  have front :=
    fitting_prefix (maxMessage - (12 + message.questionLayout.octets.length))
      message.extensionPieces
  have cut := front.flatten.length_le
  rw [length_extensionPieces] at cut
  rw [envelopeSize, fullSize]
  omega

/-! ### Reading messages without answers -/

theorem readMany?_one {Item : Type} {read : Nat → Option (Item × Nat)} {item : Item}
    {place next : Nat} (found : read place = some (item, next)) :
    readMany? read 1 place = some ([item], next) := by
  simp only [readMany?, found, Option.bind_eq_bind, Option.bind_some, Option.pure_def]

/-- The octets of a header with an id, a flag word and the counts of what follows. -/
def countedHead (id flags questions answers authority additional : UInt16) : Octets :=
  octets16 id ++ (octets16 flags ++ ((octets16 questions ++ octets16 answers) ++
    (octets16 authority ++ octets16 additional)))

theorem decode?_of_head {id flags first second : UInt16} {questions : List Question}
    {records others : List Record} {edns : Option Edns} {place next : Nat}
    (head : Holds octets.toArray 0 (countedHead id flags first 0 0 second))
    (questionsRead : readMany? (readQuestion? octets.toArray) first.toNat 12 =
      some (questions, place))
    (recordsRead : readMany? (readRecord? octets.toArray) second.toNat place =
      some (records, next))
    (taken : takeExtension? records = some (others, edns)) :
    decode? octets = some ⟨headerOf id flags, questions, [], [], others, edns⟩ := by
  have counts := head.right.right
  have idRead : read16? _ 0 = some (id, 2) := read16?_of_holds head.left
  have flagsRead : read16? _ 2 = some (flags, 4) := read16?_of_holds head.right.left
  have firstRead : read16? _ 4 = some (first, 6) := read16?_of_holds counts.left.left
  have answersRead : read16? _ 6 = some (0, 8) := read16?_of_holds counts.left.right
  have authorityRead : read16? _ 8 = some (0, 10) := read16?_of_holds counts.right.left
  have secondRead : read16? _ 10 = some (second, 12) := read16?_of_holds counts.right.right
  have zero : (0 : UInt16).toNat = 0 := rfl
  have nothing : readMany? (readRecord? octets.toArray) 0 place = some ([], place) := rfl
  simp only [decode?, idRead, flagsRead, firstRead, answersRead, authorityRead, secondRead,
    zero, questionsRead, nothing, recordsRead, taken, Option.bind_eq_bind, Option.bind_some,
    Option.pure_def]

end Message

end SplitDns.Dns
