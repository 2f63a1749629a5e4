import SplitDns.Listener.Serve
import SplitDns.Proofs.Dns.Shortening

/-!
# The size of datagrams

A client states how large a datagram it takes. A reply that is larger is replaced by an envelope,
which is not measured again. `length_serveDatagram_le_iff` says when the datagram stays within the
limit after all.
-/

namespace SplitDns.Listener

open SplitDns.Address
open SplitDns.Dns
open SplitDns.Exchange

variable {State : Type} {query : Message} {raw reply : Octets}

theorem datagramLimit_le (query : Message) : query.datagramLimit ≤ Wire.maxMessage :=
  Nat.le_of_lt_succ (UInt16.toNat_lt _)

/-- The envelope that stands for a reply can be written and is within the limit. -/
def EnvelopeFits (query : Message) (reply : Octets) : Prop :=
  (query.source reply).questionLayout.reach ≤ Wire.maxMessage ∧
    (query.source reply).envelopeSize ≤ query.datagramLimit

theorem length_fitDatagram_le_iff :
    (fitDatagram query reply).length ≤ query.datagramLimit ↔
      reply.length ≤ query.datagramLimit ∨ EnvelopeFits query reply := by
  unfold fitDatagram
  cases cut : query.truncated? reply with
  | none =>
      have kept : ¬ ∃ octets, query.truncated? reply = some octets := by
        simp [cut]
      rw [Message.exists_truncated?_iff] at kept
      constructor
      · exact .inl
      · rintro (fits | ⟨written, _⟩)
        · exact fits
        · exact Nat.le_of_not_lt fun large => kept ⟨large, written⟩
  | some octets =>
      obtain ⟨large, written⟩ := Message.exists_truncated?_iff.mp ⟨octets, cut⟩
      rw [Option.getD_some, Message.length_of_truncated? cut]
      constructor
      · exact fun fits => .inr ⟨written, fits⟩
      · rintro (fits | ⟨_, fits⟩)
        · exact absurd fits (Nat.not_le.mpr large)
        · exact fits

/-- It is enough that the envelope fits with all names in full. -/
theorem envelopeFits_of_fullSize (small : (query.source reply).fullSize ≤ query.datagramLimit) :
    EnvelopeFits query reply := by
  constructor
  · apply Nat.le_trans (query.source reply).reach_questionLayout_le
    apply Nat.le_trans _ (Nat.le_trans small (datagramLimit_le query))
    exact Nat.le_add_right _ _
  · exact Nat.le_trans (query.source reply).envelopeSize_le_fullSize small

theorem le_datagramLimit (query : Message) : 512 ≤ query.datagramLimit := by
  unfold Message.datagramLimit
  cases query.edns with
  | none => exact Nat.le_refl 512
  | some edns =>
      have larger : minPayload ≤ max minPayload edns.payload := by
        simp only [Max.max]
        split
        next ordered => exact ordered
        next => exact UInt16.le_refl minPayload
      exact UInt16.le_iff_toNat_le.mp larger

/-- Every client takes the envelope of a message with one question and few octets of options. -/
theorem envelopeFits_of_single (single : (query.source reply).questions.length ≤ 1)
    (short : ∀ edns ∈ (query.source reply).edns, optionsSize edns.options ≤ 230) :
    EnvelopeFits query reply := by
  have limit := le_datagramLimit query
  have questions := Message.questionsSize_le (query.source reply).questions
  have extension : (query.source reply).edns.elim 0 Edns.size ≤ 241 := by
    cases held : (query.source reply).edns with
    | none => exact Nat.zero_le 241
    | some edns => exact Nat.add_le_add_left (short edns held) 11
  apply envelopeFits_of_fullSize
  rw [Message.fullSize]
  omega

/--
The datagram that is sent for a reply is within the limit of the client exactly if the reply is, or
the envelope of its source can be written and is, which is so with one question and few octets of
options. Nothing else is measured: the extension record of the source goes with the envelope,
whatever its options hold, and where the envelope cannot be written the reply itself is sent.
-/
theorem length_serveDatagram_le_iff (received : Message.decode? raw = some query)
    (handler : Handler State) (source : Socket) (state : State)
    (replied : (handler ⟨query, raw, source, .udp⟩ state).1 = some reply) :
    ∃ sent, (serveDatagram handler source raw state).1 = some sent ∧
      (sent.length ≤ query.datagramLimit ↔
        reply.length ≤ query.datagramLimit ∨ EnvelopeFits query reply) ∧
      ((query.source reply).questions.length ≤ 1 →
        (∀ edns ∈ (query.source reply).edns, optionsSize edns.options ≤ 230) →
        sent.length ≤ query.datagramLimit) := by
  have request : Request.parse? raw source .udp = some ⟨query, raw, source, .udp⟩ := by
    rw [Request.parse?, received, Option.map_some]
  refine ⟨fitDatagram query reply, ?_, length_fitDatagram_le_iff, ?_⟩
  · simp only [serveDatagram, request, replied, Option.map_some]
  · intro single short
    apply length_fitDatagram_le_iff.mpr
    exact .inr (envelopeFits_of_single single short)

/-- A handler that always gives the same reply. -/
def replying (reply : Octets) : Handler Unit :=
  fun _ state => (some reply, state)

/-- The header of a message that holds nothing, with octets behind it. -/
def trailed (filling : Octets) : Octets :=
  Message.countedHead 0x1234 0x8180 0 0 0 0 ++ filling

theorem decode?_trailed (filling : Octets) :
    Message.decode? (trailed filling) =
      some ⟨Wire.headerOf 0x1234 0x8180, [], [], [], [], none⟩ := by
  have whole : Wire.Holds (trailed filling).toArray 0 (trailed filling) := ⟨[], [], by simp, rfl⟩
  exact Message.decode?_of_head whole.left rfl rfl rfl

/-- Octets behind a message are cut off. -/
theorem length_serveDatagram_le_trailed :
    ∃ sent, Message.decode? Message.plainQuery = some Message.plainQuestion ∧
      Message.plainQuestion.datagramLimit < (trailed (List.replicate 600 0)).length ∧
      (serveDatagram (replying (trailed (List.replicate 600 0))) (.v4 ⟨10, 200, 0, 5⟩ 40000)
        Message.plainQuery ()).1 = some sent ∧
      sent.length ≤ Message.plainQuestion.datagramLimit := by
  have long : (List.replicate 600 (0 : UInt8)).length = 600 := List.length_replicate
  generalize List.replicate 600 (0 : UInt8) = filling at long ⊢
  obtain ⟨sent, served, _, small⟩ := length_serveDatagram_le_iff Message.decode?_plainQuery
    (replying (trailed filling)) (.v4 ⟨10, 200, 0, 5⟩ 40000) () rfl
  have limit : Message.plainQuestion.datagramLimit = 512 := rfl
  have size : (trailed filling).length = filling.length + 12 := rfl
  have source : Message.plainQuestion.source (trailed filling) =
      ⟨Wire.headerOf 0x1234 0x8180, [], [], [], [], none⟩ := by
    rw [Message.source, decode?_trailed, Option.getD_some]
  rw [source] at small
  refine ⟨sent, Message.decode?_plainQuery, by omega, served, small (by decide) ?_⟩
  intro edns held
  cases held

/-- A response with one option of 600 octets goes to a client that takes 512. -/
theorem padded_exceeds_limit :
    ∃ reply sent, Message.decode? Message.plainQuery = some Message.plainQuestion ∧
      Message.decode? reply = some (.padded 97 (List.replicate 600 0)) ∧
      (serveDatagram (replying reply) (.v4 ⟨10, 200, 0, 5⟩ 40000) Message.plainQuery ()).1 =
        some sent ∧
      Message.plainQuestion.datagramLimit < sent.length := by
  have long : (List.replicate 600 (0 : UInt8)).length = 600 := List.length_replicate
  generalize List.replicate 600 (0 : UInt8) = filling at long ⊢
  have fits : filling.length + 34 ≤ Wire.maxMessage := by
    rw [long]
    decide
  obtain ⟨reply, _, decoded, size⟩ := Message.encode?_padded 97 fits
  obtain ⟨source, octets, cut⟩ := Message.exists_truncated?_padded decoded (by omega)
  have limit : Message.plainQuestion.datagramLimit = 512 := rfl
  have served : (serveDatagram (replying reply) (.v4 ⟨10, 200, 0, 5⟩ 40000)
      Message.plainQuery ()).1 = some octets := by
    simp only [serveDatagram, Request.parse?, Message.decode?_plainQuery, Option.map_some, replying,
      fitDatagram, cut, Option.getD_some]
  have length : octets.length = filling.length + 34 := by
    rw [Message.length_of_truncated? cut, source, ← Message.uncutSize_padded 97 filling]
    apply Message.envelopeSize_of_uncutSize
    rw [Message.uncutSize_padded]
    exact fits
  exact ⟨reply, octets, Message.decode?_plainQuery, decoded, served, by omega⟩

end SplitDns.Listener
