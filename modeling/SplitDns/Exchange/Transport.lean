import SplitDns.Dns.Wire.Read
import SplitDns.Exchange.Error

/-!
# Forwarding

A transport puts one query to a resolver and changes a state of its own. Forwarding
makes at most two attempts: a datagram first, and one exchange on a stream if that fails, gives
no message or gives a truncated one. The outcome of the stream is final.
-/

namespace SplitDns.Exchange

open SplitDns.Address
open SplitDns.Dns

/-- One exchange with a resolver, over a state such as a script or a network. -/
abbrev Transport (State : Type) :=
  Protocol → Socket → Octets → State → Except Error Octets × State

/-- A reply with the message it holds. -/
structure Answer where
  protocol : Protocol
  raw : Octets
  message : Message

def readAnswer (protocol : Protocol) (resolver : Socket) (raw : Octets) : Except Error Answer :=
  match Message.decode? raw with
  | some message => .ok ⟨protocol, raw, message⟩
  | none => .error (.failure (.undecodable protocol resolver))

/-- One exchange whose reply has to be a message. -/
def attempt {State : Type} (transport : Transport State) (protocol : Protocol)
    (resolver : Socket) (query : Octets) (state : State) : Except Error Answer × State :=
  let (outcome, state) := transport protocol resolver query state
  (outcome.bind (readAnswer protocol resolver), state)

/-- Whether a first attempt settles the matter. -/
def settles : Except Error Answer → Bool
  | .ok answer => !answer.message.header.truncated
  | .error _ => false

/-- A datagram exchange, and one on a stream unless the first settles the matter. -/
def forward {State : Type} (transport : Transport State) (resolver : Socket) (query : Octets)
    (state : State) : Except Error Answer × State :=
  let (first, state) := attempt transport .udp resolver query state
  if settles first then (first, state) else attempt transport .tcp resolver query state

end SplitDns.Exchange
