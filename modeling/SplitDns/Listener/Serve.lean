import SplitDns.Dns.Reply
import SplitDns.Exchange.Frame

/-!
# Serving clients

A handler gives the reply to a request, if there is one. Datagrams are served one by one and
their replies are cut to the client's limit; a connection is served frame by frame until it ends
or a frame cannot be read or written.
-/

namespace SplitDns.Listener

open SplitDns.Address
open SplitDns.Dns
open SplitDns.Exchange

structure Request where
  message : Message
  /-- The query as it was received, which is what is forwarded. -/
  raw : Octets
  source : Socket
  protocol : Protocol

abbrev Handler (State : Type) :=
  Request → State → Option Octets × State

def Request.parse? (raw : Octets) (source : Socket) (protocol : Protocol) : Option Request :=
  (Message.decode? raw).map fun message => ⟨message, raw, source, protocol⟩

/-- The datagram that is sent for a reply. -/
def fitDatagram (query : Message) (reply : Octets) : Octets :=
  (query.truncated? reply).getD reply

/-- The datagram that answers a datagram, if any. -/
def serveDatagram {State : Type} (handler : Handler State) (source : Socket) (raw : Octets)
    (state : State) : Option Octets × State :=
  match Request.parse? raw source .udp with
  | none => (none, state)
  | some request =>
      let (reply, state) := handler request state
      (reply.map (fitDatagram request.message), state)

/-- The frame that answers a frame: nothing, octets to send, or a reply that fits no frame. -/
def serveFrame {State : Type} (handler : Handler State) (source : Socket) (raw : Octets)
    (state : State) : Except Failure Octets × State :=
  match Request.parse? raw source .tcp with
  | none => (.ok [], state)
  | some request =>
      match handler request state with
      | (none, state) => (.ok [], state)
      | (some reply, state) => (frame? reply, state)

/--
Serves a connection to its end and gives all octets that are sent on it. A frame that is no
message is skipped.
-/
def serveConnection {State : Type} (handler : Handler State) (source : Socket)
    (stream : Stream) (state : State) : Octets × State :=
  match found : readFrame stream with
  | .frame raw rest =>
      have _shorter := length_readFrame found
      match serveFrame handler source raw state with
      | (.error _, state) => ([], state)
      | (.ok sent, state) =>
          let (others, state) := serveConnection handler source rest state
          (sent ++ others, state)
  | _ => ([], state)
  termination_by stream.octets.length

end SplitDns.Listener
