import SplitDns.Dns.Wire.Encode
import SplitDns.Dns.Wire.Read

/-!
# Replies

The messages that the proxy makes: an answer without IPv6 records, the answer to a query that
could not be forwarded, and the short answer that sends a client to the stream protocol.
-/

namespace SplitDns.Dns.Message

/-- The message without IPv6 records; `none` when it has none, so that it can be relayed as is. -/
def withoutIpv6? (message : Message) : Option Message :=
  if message.records.any Record.isIpv6 then
    some (message.filterRecords fun record => !record.isIpv6)
  else
    none

/-- The answer to a query that could not be forwarded. -/
def serverFailure (query : Message) : Message where
  header :=
    { id := query.header.id
      response := true
      opcode := query.header.opcode
      authoritative := false
      truncated := false
      recursionDesired := query.header.recursionDesired
      recursionAvailable := true
      authenticData := false
      checkingDisabled := false
      code := 2 }
  questions := query.questions
  answers := []
  authority := []
  additional := []
  edns := none

/-- The largest datagram that the sender of a query takes. -/
def datagramLimit (query : Message) : Nat :=
  (query.edns.elim minPayload fun edns => max minPayload edns.payload).toNat

def markTruncated (message : Message) : Message :=
  { message with header := { message.header with truncated := true } }

/-- The envelope of a query, turned into that of a reply. -/
def emptyReply (query : Message) : Message :=
  { query.envelope with
    header := { query.header with response := true, recursionAvailable := true } }

/--
Cuts a reply that is too long for a datagram down to its envelope. A reply that is no message is
replaced by an empty one made from the query.
-/
def truncated? (query : Message) (reply : Octets) : Option Octets :=
  if reply.length ≤ query.datagramLimit then none
  else
    let short :=
      match Message.decode? reply with
      | some message => message.envelope
      | none => query.emptyReply
    short.markTruncated.encode?

end SplitDns.Dns.Message
