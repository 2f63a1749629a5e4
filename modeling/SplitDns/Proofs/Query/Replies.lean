import SplitDns.AddressSet.Memory
import SplitDns.Proofs.Query.Relaying

/-!
# Replies to queries

A reply is either the failure that the proxy states itself, or it conveys what the resolver of the
query answered. The failure is stated when there is no answer, and when an answer has more
questions than fit after its IPv6 records are left out.
-/

namespace SplitDns.Query

open SplitDns.AddressSet
open SplitDns.Dns
open SplitDns.Exchange
open SplitDns.Listener

variable {Network Sets : Type}

/-! ### Answers of resolvers -/

theorem decode?_of_readAnswer {protocol : Protocol} {resolver : Address.Socket} {raw : Octets}
    {answer : Answer} (read : readAnswer protocol resolver raw = .ok answer) :
    Message.decode? answer.raw = some answer.message := by
  unfold readAnswer at read
  split at read
  next message decoded =>
    cases read
    exact decoded
  next => cases read

theorem decode?_of_attempt {transport : Transport Network} {protocol : Protocol}
    {resolver : Address.Socket} {query : Octets} {network : Network} {answer : Answer}
    (answered : (attempt transport protocol resolver query network).1 = .ok answer) :
    Message.decode? answer.raw = some answer.message := by
  simp only [attempt] at answered
  cases outcome : (transport protocol resolver query network).1 with
  | error cause =>
      rw [outcome] at answered
      cases answered
  | ok raw =>
      rw [outcome] at answered
      exact decode?_of_readAnswer answered

theorem decode?_of_forward {transport : Transport Network} {resolver : Address.Socket}
    {query : Octets} {network : Network} {answer : Answer}
    (answered : (forward transport resolver query network).1 = .ok answer) :
    Message.decode? answer.raw = some answer.message := by
  unfold forward at answered
  simp only at answered
  split at answered
  · exact decode?_of_attempt answered
  · exact decode?_of_attempt answered

/-- What forwarding a query to the resolver of its route gives. -/
def upstream (routing : Routing) (transport : Transport Network) (request : Request)
    (network : Network) : Except Exchange.Error Answer :=
  (forward transport
    (routing.resolver (routing.patterns.classify (questionName request.message)))
    request.raw network).1

theorem reply_of_upstream (routing : Routing) (transport : Transport Network)
    (backend : Backend Sets) (request : Request) (state : Network × Knowledge Sets) :
    (resolve routing transport backend request state).1 =
      match upstream routing transport request state.1 with
      | .error _ => request.message.serverFailure.encode?
      | .ok answer => relay request.message answer := by
  unfold resolve upstream
  simp only
  split
  next equal => rw [equal]
  next equal => rw [equal]

/-! ### What a reply says -/

theorem decode?_serverFailure {query : Message} {reply : Octets}
    (stated : query.serverFailure.encode? = some reply) :
    ∃ message, Message.decode? reply = some message ∧ message.records = [] :=
  ⟨_, Message.decode?_of_encode? (Message.proper_serverFailure query) stated, rfl⟩

/-- An answer that is not relayed as it came is cut off where it does not fit. -/
theorem truncated_of_not_relayable {response : Message}
    (questions : response.stripped.questionSection.complete = true)
    (lost : ¬ response.Relayable) : response.stripped.kept.header.truncated = true := by
  have incomplete : response.stripped.isComplete ≠ true := by
    intro complete
    exact lost (.inr (response.stripped.isComplete_iff.mp ⟨questions, complete⟩))
  have header : response.stripped.kept.header.truncated =
      (response.header.truncated || !response.stripped.isComplete) := rfl
  rw [header, Bool.eq_false_iff.mpr incomplete, Bool.not_false, Bool.or_true]

theorem relay_eq (query : Message) (answer : Answer) :
    relay query answer =
      if answer.message.records.any Record.isIpv6 then
        answer.message.stripped.encode?.or query.serverFailure.encode?
      else
        some answer.raw := by
  unfold relay Message.withoutIpv6?
  by_cases found : answer.message.records.any Record.isIpv6 = true
  · rw [if_pos found, if_pos found]
    rfl
  · rw [if_neg found, if_neg found]

/-- A relayed answer, or the failure that takes its place. -/
theorem conveys_of_relay {query : Message} {answer : Answer} {reply : Octets}
    (decoded : Message.decode? answer.raw = some answer.message)
    (relayed : relay query answer = some reply) :
    (query.serverFailure.encode? = some reply ∧ answer.message.stripped.encode? = none) ∨
      ∃ message, Message.decode? reply = some message ∧
        message.ConveysPart answer.message ∧
        (message.Conveys answer.message ↔ answer.message.Relayable) ∧
        (¬ answer.message.Relayable → message.header.truncated = true) := by
  rw [relay_eq] at relayed
  by_cases found : answer.message.records.any Record.isIpv6 = true
  · rw [if_pos found] at relayed
    cases encoded : answer.message.stripped.encode? with
    | none =>
        rw [encoded] at relayed
        exact .inl ⟨relayed, rfl⟩
    | some octets =>
        rw [encoded] at relayed
        cases relayed
        have proper : answer.message.stripped.Proper :=
          (Message.proper_of_decode? decoded).filterRecords _
        have questions := Message.exists_encode?_iff.mp ⟨_, encoded⟩
        have some : ¬ ∀ record ∈ answer.message.records, record.isIpv6 = false := by
          intro none
          obtain ⟨record, inRecords, isIpv6⟩ := List.any_eq_true.mp found
          rw [none record inRecords] at isIpv6
          cases isIpv6
        have relayable : answer.message.Relayable ↔
            answer.message.stripped.reach ≤ Wire.maxMessage := or_iff_right some
        refine .inr ⟨_, Message.decode?_of_encode? proper encoded,
          answer.message.conveysPart_kept, ?_, truncated_of_not_relayable questions⟩
        rw [relayable]
        exact Message.conveys_kept_iff questions
  · rw [if_neg found] at relayed
    cases relayed
    have none : ∀ record ∈ answer.message.records, record.isIpv6 = false := by
      intro record inRecords
      by_contra isIpv6
      exact found (List.any_eq_true.mpr ⟨record, inRecords, by simpa using isIpv6⟩)
    have conveys := Message.conveys_self none
    refine .inr ⟨_, decoded, conveys.part, ?_, ?_⟩
    · exact iff_of_true conveys (.inl none)
    · exact fun lost => absurd (.inl none) lost

/-- A reply is the failure, with no records, or conveys the answer of the resolver. -/
theorem reply_cases {routing : Routing} {transport : Transport Network} {backend : Backend Sets}
    {request : Request} {state : Network × Knowledge Sets} {reply : Octets}
    (resolved : (resolve routing transport backend request state).1 = some reply) :
    ∃ message, Message.decode? reply = some message ∧
      ((request.message.serverFailure.encode? = some reply ∧ message.records = [] ∧
          ∀ answer, upstream routing transport request state.1 = .ok answer →
            answer.message.stripped.encode? = none) ∨
        ∃ answer, upstream routing transport request state.1 = .ok answer ∧
          message.ConveysPart answer.message ∧
          (message.Conveys answer.message ↔ answer.message.Relayable) ∧
          (¬ answer.message.Relayable → message.header.truncated = true)) := by
  rw [reply_of_upstream] at resolved
  cases outcome : upstream routing transport request state.1 with
  | error cause =>
      rw [outcome] at resolved
      obtain ⟨message, decoded, none⟩ := decode?_serverFailure resolved
      refine ⟨message, decoded, .inl ⟨resolved, none, ?_⟩⟩
      intro answer impossible
      cases impossible
  | ok answer =>
      rw [outcome] at resolved
      have decoded := decode?_of_forward outcome
      rcases conveys_of_relay decoded resolved with ⟨stated, unwritten⟩ | conveyed
      · obtain ⟨message, decodedReply, none⟩ := decode?_serverFailure stated
        refine ⟨message, decodedReply, .inl ⟨stated, none, ?_⟩⟩
        intro other same
        cases same
        exact unwritten
      · obtain ⟨message, decodedReply, conveyed⟩ := conveyed
        exact ⟨message, decodedReply, .inr ⟨answer, rfl, conveyed⟩⟩

/--
Every reply decodes and has no IPv6 record. If it is not the failure that the proxy states, it
conveys the answer of the resolver as far as it goes, and to the end exactly if the answer is
relayable; a reply that stops before is marked as truncated.
-/
theorem resolve_conveys (routing : Routing) (transport : Transport Network)
    (backend : Backend Sets) (request : Request) (state : Network × Knowledge Sets)
    (reply : Octets)
    (resolved : (resolve routing transport backend request state).1 = some reply) :
    ∃ message, Message.decode? reply = some message ∧
      (∀ record ∈ message.records, record.type ≠ RecordType.aaaa) ∧
      ((request.message.serverFailure.encode? = some reply ∧
          ∀ answer, upstream routing transport request state.1 = .ok answer →
            answer.message.stripped.encode? = none) ∨
        ∃ answer, upstream routing transport request state.1 = .ok answer ∧
          message.ConveysPart answer.message ∧
          (message.Conveys answer.message ↔ answer.message.Relayable) ∧
          (¬ answer.message.Relayable → message.header.truncated = true)) := by
  obtain ⟨message, decoded, ⟨stated, none, unwritten⟩ | ⟨answer, answered, part, rest⟩⟩ :=
    reply_cases resolved
  · refine ⟨message, decoded, ?_, .inl ⟨stated, unwritten⟩⟩
    rw [none]
    intro record impossible
    cases impossible
  · exact ⟨message, decoded, part.type_ne, .inr ⟨answer, answered, part, rest⟩⟩

/-! ### A response that cannot be relayed -/

/-- A resolver that answers on streams only. -/
def onStream (raw : Octets) : Transport Unit := fun protocol _ _ network =>
  match protocol with
  | .udp => (.error (.timeout .scripted), network)
  | .tcp => (.ok raw, network)

theorem upstream_onStream {raw : Octets} {response : Message}
    (decoded : Message.decode? raw = some response) (routing : Routing) (request : Request) :
    upstream routing (onStream raw) request () = .ok ⟨.tcp, raw, response⟩ := by
  simp [upstream, forward, attempt, onStream, settles, Except.bind, readAnswer, decoded]

theorem resolve_onStream {raw octets : Octets} {response : Message}
    (decoded : Message.decode? raw = some response)
    (ipv6 : response.records.any Record.isIpv6 = true)
    (written : response.stripped.encode? = some octets) (routing : Routing)
    (backend : Backend Sets) (request : Request) (knowledge : Knowledge Sets) :
    (resolve routing (onStream raw) backend request ((), knowledge)).1 = some octets := by
  rw [reply_of_upstream, upstream_onStream decoded]
  simp only [relay_eq, if_pos ipv6, written, Option.some_or]

/-- A routing without classes. -/
def Routing.plain : Routing :=
  ⟨⟨[]⟩, [], .v4 ⟨192, 168, 0, 200⟩ 53, []⟩

/-- What a proxy knows that has seen nothing yet. -/
def Knowledge.fresh : Knowledge Memory :=
  ⟨.empty, .new false, .new 100, none⟩

/-- A query for all records of the root. -/
def anyRequest : Request where
  message :=
    { header := Wire.headerOf 0x1234 0x0100
      questions := [⟨.root, 255, 1⟩]
      answers := []
      authority := []
      additional := []
      edns := none }
  raw := [0x12, 0x34, 0x01, 0, 0, 1, 0, 0, 0, 0, 0, 0, 0, 0, 0xFF, 0, 1]
  source := .v4 ⟨10, 200, 0, 5⟩ 40000
  protocol := .udp

/-- An owner that takes 26 octets, and two where it was written before. -/
def longOwner : Name :=
  ⟨[List.replicate 24 97], by decide, by decide⟩

def hostRecord (last : UInt8) : Record :=
  ⟨longOwner, 1, 0, .ipv4 ⟨192, 0, 2, last⟩⟩

/--
A response that begins with an IPv6 record. The owners behind the filling refer to its owner, and
have to be written out without it.
-/
def bulky (filling : Octets) : Message where
  header := Wire.headerOf 0x1234 0x8180
  questions := [⟨.root, 255, 1⟩]
  answers :=
    [⟨longOwner, 1, 0, .ipv6 ⟨[0x2001, 0xDB8, 0, 0, 0, 0, 0, 1], rfl⟩⟩,
      ⟨.root, 1, 0, .raw 10 filling⟩, hostRecord 1, hostRecord 2, hostRecord 3]
  authority := []
  additional := []
  edns := none

theorem proper_bulky {filling : Octets} (some : filling ≠ []) : (bulky filling).Proper where
  records := by
    intro record found
    have cases : record = ⟨longOwner, 1, 0, .ipv6 ⟨[0x2001, 0xDB8, 0, 0, 0, 0, 0, 1], rfl⟩⟩ ∨
        record = ⟨.root, 1, 0, .raw 10 filling⟩ ∨ record = hostRecord 1 ∨
        record = hostRecord 2 ∨ record = hostRecord 3 := by
      simpa [bulky, Message.records] using found
    rcases cases with rfl | rfl | rfl | rfl | rfl
    · exact ⟨trivial, by decide, by decide⟩
    · have data : (RecordData.raw 10 filling).Proper :=
        ⟨some, by decide, by decide, by decide⟩
      exact ⟨data, by simp [Record.type, RecordData.type, RecordType.opt],
        by simp [Record.type, RecordData.type, RecordType.opt]⟩
    · exact ⟨trivial, by decide, by decide⟩
    · exact ⟨trivial, by decide, by decide⟩
    · exact ⟨trivial, by decide, by decide⟩
  additional := by simp [bulky]
  options := by simp [bulky]
  payload := by simp [bulky]

/-- The references make the whole shorter, by more than the IPv6 record takes. -/
theorem reach_bulky {filling : Octets} (long : filling.length = 65390) :
    (bulky filling).reach = 65527 ∧ (bulky filling).stripped.reach = 65538 := by
  constructor
  · simp [-List.reduceReplicate, Message.reach, Message.parts, bulky, Wire.questionParts,
      Wire.recordParts, Wire.headParts, Wire.dataParts, hostRecord, longOwner, Wire.writeParts,
      Wire.Part.singles, Function.comp_def, Wire.writePart, Wire.writeLabels, Name.root,
      Wire.remember, Wire.labelsSize, Wire.reference, Wire.labelOctets, Address.Ipv4.octets, long]
  · simp [-List.reduceReplicate, Message.reach, Message.parts, bulky, Message.stripped,
      Message.filterRecords, Record.isIpv6, Record.type, RecordData.type, RecordType.aaaa,
      RecordType.a, Wire.questionParts, Wire.recordParts, Wire.headParts, Wire.dataParts,
      hostRecord, longOwner, Wire.writeParts, Wire.Part.singles, Function.comp_def,
      Wire.writePart, Wire.writeLabels, Name.root, Wire.remember, Wire.labelsSize,
      Wire.labelOctets, Address.Ipv4.octets, long]

/-- The response is what is read where it was written. -/
theorem decode?_bulky {filling raw : Octets} (some : filling ≠ [])
    (fits : (bulky filling).reach ≤ Wire.maxMessage)
    (encoded : (bulky filling).encode? = .some raw) :
    Message.decode? raw = .some (bulky filling) := by
  rw [Message.decode?_of_encode? (proper_bulky some) encoded]
  have complete := ((bulky filling).isComplete_iff.mpr fits).2
  rw [Message.kept_of_isComplete complete]
  rfl

theorem decode?_stripped_bulky {filling octets : Octets} (some : filling ≠ [])
    (fits : (bulky filling).stripped.reach ≤ Wire.maxMessage)
    (written : (bulky filling).stripped.encode? = .some octets) :
    Message.decode? octets = .some (bulky filling).stripped := by
  have proper : (bulky filling).stripped.Proper := (proper_bulky some).filterRecords _
  rw [Message.decode?_of_encode? proper written]
  have complete := ((bulky filling).stripped.isComplete_iff.mpr fits).2
  rw [Message.kept_of_isComplete complete]
  rfl

theorem exists_encode?_of_reach {message : Message} (fits : message.reach ≤ Wire.maxMessage) :
    ∃ octets, message.encode? = some octets :=
  Message.exists_encode?_iff.mpr (message.isComplete_iff.mpr fits).1

/-- A response of moderate size is relayed without its IPv6 record. -/
theorem resolve_conveys_bulky :
    ∃ raw reply message, (bulky [1]).encode? = some raw ∧
      (resolve .plain (onStream raw) Memory.backend anyRequest ((), .fresh)).1 = some reply ∧
      Message.decode? reply = some message ∧ message.Conveys (bulky [1]) := by
  have fits : (bulky [1]).reach ≤ Wire.maxMessage := by decide +kernel
  have strippedFits : (bulky [1]).stripped.reach ≤ Wire.maxMessage := by decide +kernel
  obtain ⟨raw, encoded⟩ := exists_encode?_of_reach fits
  obtain ⟨reply, written⟩ := exists_encode?_of_reach strippedFits
  have decoded := decode?_bulky (by simp) fits encoded
  have answered := upstream_onStream decoded .plain anyRequest
  have resolved := resolve_onStream decoded rfl written .plain Memory.backend anyRequest .fresh
  obtain ⟨message, decodedReply, _, failure | ⟨answer, same, _, conveys, _⟩⟩ :=
    resolve_conveys .plain (onStream raw) Memory.backend anyRequest ((), .fresh) reply resolved
  · have unwritten := failure.2 _ answered
    rw [written] at unwritten
    cases unwritten
  · rw [answered] at same
    cases same
    exact ⟨raw, reply, message, encoded, resolved, decodedReply, conveys.mpr (.inr strippedFits)⟩

/--
A host record is lost from a response that fits, though nothing but its IPv6 record is to be left
out. The reply is not the failure that stands for a response that cannot be relayed.
-/
theorem resolve_drops_host :
    ∃ raw reply message, (bulky (List.replicate 65390 0)).encode? = some raw ∧
      Message.decode? raw = some (bulky (List.replicate 65390 0)) ∧
      (resolve .plain (onStream raw) Memory.backend anyRequest ((), .fresh)).1 = some reply ∧
      anyRequest.message.serverFailure.encode? ≠ some reply ∧
      Message.decode? reply = some message ∧
      ¬ message.Conveys (bulky (List.replicate 65390 0)) ∧ message.header.truncated = true := by
  have long : (List.replicate 65390 (0 : UInt8)).length = 65390 := List.length_replicate
  generalize List.replicate 65390 (0 : UInt8) = filling at long ⊢
  obtain ⟨reach, strippedReach⟩ := reach_bulky long
  have some : filling ≠ [] := by
    rintro rfl
    cases long
  have fits : (bulky filling).reach ≤ Wire.maxMessage := by
    rw [reach]
    decide
  obtain ⟨raw, encoded⟩ := exists_encode?_of_reach fits
  have decoded := decode?_bulky some fits encoded
  have questions : (bulky filling).stripped.questionSection.complete = true := rfl
  obtain ⟨reply, written⟩ := Message.exists_encode?_iff.mpr questions
  have resolved := resolve_onStream decoded rfl written .plain Memory.backend anyRequest .fresh
  have decodedReply : Message.decode? reply = .some (bulky filling).stripped.kept :=
    Message.decode?_of_encode? ((proper_bulky some).filterRecords _) written
  have overflows : ¬ (bulky filling).stripped.reach ≤ Wire.maxMessage := by
    rw [strippedReach]
    decide
  have incomplete : ¬ (bulky filling).stripped.kept.Conveys (bulky filling) :=
    fun conveys => overflows ((Message.conveys_kept_iff questions).mp conveys)
  have marked : (bulky filling).stripped.kept.header.truncated = true := by
    apply truncated_of_not_relayable questions
    rintro (none | small)
    · cases none _ List.mem_cons_self
    · exact overflows small
  refine ⟨raw, reply, _, encoded, decoded, resolved, ?_, decodedReply, incomplete, marked⟩
  intro stated
  have failure := Message.decode?_of_encode? (Message.proper_serverFailure _) stated
  rw [decodedReply] at failure
  have header := congrArg (fun message => message.map fun found => found.header.truncated) failure
  simp only [Option.map_some, marked] at header
  revert header
  decide +kernel

end SplitDns.Query
