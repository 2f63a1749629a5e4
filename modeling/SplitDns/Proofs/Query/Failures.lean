import SplitDns.Proofs.Dns.Envelopes
import SplitDns.Proofs.Exchange.Forwarding
import SplitDns.Proofs.Query.Observing

/-!
# When forwarding fails

Forwarding fails when neither attempt gives a message that can be used. The client is then told so
by a message made from its own query, and everything the proxy has learned stays as it is.
`answers_on_failure` says so, and that a query of at most one question has a reply whatever the
resolver does.
-/

namespace SplitDns.Exchange

open SplitDns.Address
open SplitDns.Dns

variable {Network : Type} {transport : Transport Network} {resolver : Socket} {query : Octets}
  {network : Network}

/-- Neither attempt to put a query to a resolver gives a message that can be used. -/
structure Fails (transport : Transport Network) (resolver : Socket) (query : Octets)
    (network : Network) : Prop where
  /-- There is no datagram, or it holds no message, or a truncated one. -/
  datagram : ∀ raw message, (transport .udp resolver query network).1 = .ok raw →
    Message.decode? raw = some message → message.header.truncated = true
  /-- On the stream that is tried then there is nothing that holds a message. -/
  stream : ∀ raw,
    (transport .tcp resolver query (transport .udp resolver query network).2).1 = .ok raw →
      Message.decode? raw = none

theorem Fails.unsettled (fails : Fails transport resolver query network) :
    Unsettled (transport .udp resolver query network).1 := by
  cases outcome : (transport .udp resolver query network).1 with
  | error cause => exact .failed cause
  | ok raw =>
      cases decoded : Message.decode? raw with
      | none => exact .undecodable decoded
      | some message => exact .truncated decoded (fails.datagram raw message outcome decoded)

/-- Forwarding then comes to an error. -/
theorem Fails.exists_error (fails : Fails transport resolver query network) :
    ∃ cause, (forward transport resolver query network).1 = .error cause := by
  rw [forward_of_unsettled transport resolver query network fails.unsettled, attempt_eq]
  cases outcome : (transport .tcp resolver query
      (transport .udp resolver query network).2).1 with
  | error cause => exact ⟨cause, rfl⟩
  | ok raw =>
      have undecodable := fails.stream raw outcome
      simp only [Except.bind, readAnswer, undecodable]
      exact ⟨_, rfl⟩

end SplitDns.Exchange

namespace SplitDns.Dns.Message

/-- The reply tells the sender of a query that forwarding failed, and nothing else. -/
structure IsFailureOf (reply query : Message) : Prop where
  id : reply.header.id = query.header.id
  opcode : reply.header.opcode = query.header.opcode
  recursionDesired : reply.header.recursionDesired = query.header.recursionDesired
  questions : reply.questions = query.questions
  response : reply.header.response = true
  recursionAvailable : reply.header.recursionAvailable = true
  /-- The code of a server failure. -/
  code : reply.responseCode = 2
  authoritative : reply.header.authoritative = false
  truncated : reply.header.truncated = false
  authenticData : reply.header.authenticData = false
  checkingDisabled : reply.header.checkingDisabled = false
  records : reply.records = []
  edns : reply.edns = none

theorem isFailureOf_serverFailure (query : Message) : query.serverFailure.IsFailureOf query where
  id := rfl
  opcode := rfl
  recursionDesired := rfl
  questions := rfl
  response := rfl
  recursionAvailable := rfl
  code := rfl
  authoritative := rfl
  truncated := rfl
  authenticData := rfl
  checkingDisabled := rfl
  records := rfl
  edns := rfl

/-- The failure is read as it was written: nothing in it can be cut off. -/
theorem isFailureOf_of_encode? {query : Message} {reply : Octets}
    (stated : query.serverFailure.encode? = some reply) :
    ∃ message, decode? reply = some message ∧ message.IsFailureOf query :=
  ⟨query.serverFailure, decode?_of_encode? (proper_serverFailure query) stated,
    query.isFailureOf_serverFailure⟩

end SplitDns.Dns.Message

namespace SplitDns.Query

open SplitDns.AddressSet
open SplitDns.Dns
open SplitDns.Exchange
open SplitDns.Listener

variable {Network Sets : Type}

theorem exists_serverFailure {query : Message} (single : query.questions.length ≤ 1) :
    ∃ octets, query.serverFailure.encode? = some octets :=
  query.serverFailure.exists_encode?_of_few (Nat.le_trans single (by decide))

/-- A relayed answer has a reply as soon as the failure can be stated in its place. -/
theorem exists_relay {query : Message} (single : query.questions.length ≤ 1) (answer : Answer) :
    ∃ octets, relay query answer = some octets := by
  obtain ⟨failure, stated⟩ := exists_serverFailure single
  rw [relay_eq]
  split
  next =>
    cases answer.message.stripped.encode? with
    | none => exact ⟨failure, stated⟩
    | some octets => exact ⟨octets, rfl⟩
  next => exact ⟨answer.raw, rfl⟩

/--
When forwarding fails, the address map, the sets, the signals and the audit log stay as they are,
and a reply tells the client of the failure and holds nothing else. A query of at most one question
has a reply in any case.
-/
theorem answers_on_failure (routing : Routing) (transport : Transport Network)
    (backend : Backend Sets) (request : Request) (network : Network)
    (knowledge : Knowledge Sets) :
    (Fails transport
        (routing.resolver (routing.patterns.classify (questionName request.message)))
        request.raw network →
      (resolve routing transport backend request (network, knowledge)).2.2 = knowledge ∧
      ∀ reply, (resolve routing transport backend request (network, knowledge)).1 = some reply →
        ∃ message, Message.decode? reply = some message ∧
          message.IsFailureOf request.message) ∧
    (request.message.questions.length ≤ 1 →
      ∃ reply, (resolve routing transport backend request (network, knowledge)).1 =
        some reply) := by
  constructor
  · intro fails
    obtain ⟨cause, failed⟩ := fails.exists_error
    have upstreamFailed : upstream routing transport request network = .error cause := failed
    constructor
    · rw [knowledge_of_upstream, upstreamFailed]
    · intro reply resolved
      rw [reply_of_upstream, upstreamFailed] at resolved
      exact Message.isFailureOf_of_encode? resolved
  · intro single
    rw [reply_of_upstream]
    cases upstream routing transport request network with
    | error cause => exact exists_serverFailure single
    | ok answer => exact exists_relay single answer

/-- A resolver that cuts its datagrams off and sends what is no message on streams. -/
def unreliable : Transport Nat := fun protocol _ _ asked =>
  match protocol with
  | .udp => (.ok [0x12, 0x34, 0x82, 0, 0, 0, 0, 0, 0, 0, 0, 0], asked + 1)
  | .tcp => (.ok [0x12, 0x34, 0x80, 0, 0, 1, 0, 0, 0, 0, 0, 0], asked + 1)

theorem answers_on_failure_unreliable :
    Fails unreliable Routing.plain.defaultResolver anyRequest.raw 0 ∧
      (resolve .plain unreliable Memory.backend anyRequest (0, .fresh)).2.2 = .fresh ∧
      ∃ reply message,
        (resolve .plain unreliable Memory.backend anyRequest (0, .fresh)).1 = some reply ∧
          Message.decode? reply = some message ∧ message.IsFailureOf anyRequest.message := by
  have cutOff : Message.decode? [0x12, 0x34, 0x82, 0, 0, 0, 0, 0, 0, 0, 0, 0] =
      some ⟨Wire.headerOf 0x1234 0x8200, [], [], [], [], none⟩ := by
    cbv
  have fails : Fails unreliable Routing.plain.defaultResolver anyRequest.raw 0 := {
    datagram := by
      rintro raw message ⟨⟩ decoded
      rw [cutOff, Option.some.injEq] at decoded
      rw [← decoded]
      rfl
    stream := by
      rintro raw ⟨⟩
      cbv }
  obtain ⟨answered, replied⟩ :=
    answers_on_failure .plain unreliable Memory.backend anyRequest 0 .fresh
  obtain ⟨unchanged, failure⟩ := answered fails
  obtain ⟨reply, resolved⟩ := replied (by decide)
  obtain ⟨message, decoded, stated⟩ := failure reply resolved
  exact ⟨fails, unchanged, reply, message, resolved, decoded, stated⟩

end SplitDns.Query
