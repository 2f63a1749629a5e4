import SplitDns.Exchange.Frame
import SplitDns.Exchange.Transport

/-!
# Exchanges over a network

One exchange with a peer, either in datagrams or on a stream. Datagrams arrive in a buffer of
fixed size that is used again for every one of them; those from other places, too short ones and
those with another id are discarded until the wait ends.
-/

namespace SplitDns.Exchange

open SplitDns.Address

/-- The bounds on the phases of an exchange. -/
structure Timeouts where
  dial : Duration
  read : Duration
  write : Duration
  deriving DecidableEq, Repr

def Timeouts.standard : Timeouts :=
  ⟨.ofSeconds 5, .ofSeconds 5, .ofSeconds 5⟩

structure Datagram where
  source : Socket
  octets : Octets

/-- The size of the buffer that datagrams are received into. -/
def bufferSize : Nat := 4096

/-- The longest datagram that a send call takes. -/
def maxDatagram : Nat := 65535

/-- The longest datagram that one packet carries to a peer. -/
def packetRoom : Socket → Nat
  | .v4 _ _ => 65507
  | .v6 _ _ _ => 65527

/-- What comes of a call that a host is given a bounded time for. -/
inductive CallResult where
  | done
  | failed (cause : IoError)
  | late
  deriving DecidableEq

/-- Whether the host has a way to a peer. -/
inductive Link where
  | up
  | down
  deriving DecidableEq

/-- What comes of sending a datagram over a link. -/
def Link.send (link : Link) (peer : Socket) (octets : Octets) : CallResult :=
  if maxDatagram < octets.length then .failed .messageTooLong
  else
    match link with
    | .down => .failed .networkUnreachable
    | .up => if packetRoom peer < octets.length then .failed .messageTooLong else .done

/-- Receives a datagram over what the buffer holds; gives the new buffer and the length. -/
def receive (buffer : Octets) (datagram : Datagram) : Octets × Nat :=
  let received := datagram.octets.take bufferSize
  (received ++ buffer.drop received.length, received.length)

/-- Waits for the answer to a query with the given id octets. -/
def awaitAnswer (resolver : Socket) (id : Octets) (limit : Duration) (buffer : Octets) :
    List (Except IoError Datagram) → Except Error Octets
  | [] => .error (.timeout (.datagram resolver limit))
  | .error cause :: _ => .error (.failure (.receive cause))
  | .ok datagram :: others =>
      let (buffer, length) := receive buffer datagram
      if datagram.source = resolver ∧ headerLength ≤ length ∧ buffer.take 2 = id then
        .ok (buffer.take length)
      else
        awaitAnswer resolver id limit buffer others

/-- What the calls of an exchange in datagrams come to. -/
structure DatagramCalls where
  bind : CallResult
  send : CallResult
  /-- What is received before the wait ends. -/
  received : List (Except IoError Datagram)

/-- An exchange in datagrams, with the datagrams that the host was asked to send. -/
def exchangeBy (calls : DatagramCalls) (limits : Timeouts) (resolver : Socket) (query : Octets) :
    List (Socket × Octets) × Except Error Octets :=
  if query.length < headerLength then ([], .error (.failure .queryTooShort))
  else
    match calls.bind with
    | .failed cause => ([], .error (.failure (.bind cause)))
    | .late => ([], .error (.timeout .bind))
    | .done =>
        match calls.send with
        | .failed cause => ([(resolver, query)], .error (.failure (.send cause)))
        | .late => ([(resolver, query)], .error (.timeout (.datagramSend resolver)))
        | .done =>
            ([(resolver, query)],
              awaitAnswer resolver (query.take 2) limits.read (List.replicate bufferSize 0)
                calls.received)

/-- A datagram exchange; `arrivals` are the datagrams that come in before the wait ends. -/
def exchangeDatagram (link : Link) (limits : Timeouts) (arrivals : List Datagram)
    (resolver : Socket) (query : Octets) : Except Error Octets :=
  (exchangeBy ⟨.done, link.send resolver query, arrivals.map .ok⟩ limits resolver query).2

/-- Takes one reply off a connected stream. -/
def readReply (resolver : Socket) (stream : Stream) : Except Error Octets :=
  match readFrame stream with
  | .frame message _ => .ok message
  | .closed => .error (.failure (.closed resolver))
  | .failed cause => .error (.failure cause)
  | .silent => .error (.timeout (.streamRead resolver))

/-- A stream exchange; `connection` is what the connect call gives. -/
def exchangeStream (connection : Except IoError Stream) (resolver : Socket) (query : Octets) :
    Except Error Octets :=
  match connection with
  | .error cause => .error (.failure (.connect resolver cause))
  | .ok stream =>
      match frame? query with
      | .error cause => .error (.failure cause)
      | .ok _ => readReply resolver stream

/-- A peer: the datagrams it answers with, and its stream unless it takes no connections. -/
structure Peer where
  datagrams : List Datagram
  stream : Option Stream

def Peer.connect (peer : Peer) : Link → Except IoError Stream
  | .down => .error .networkUnreachable
  | .up =>
      match peer.stream with
      | some stream => .ok stream
      | none => .error .connectionRefused

def exchangePeer (link : Link) (limits : Timeouts) (peer : Peer) (protocol : Protocol)
    (resolver : Socket) (query : Octets) : Except Error Octets :=
  match protocol with
  | .udp => exchangeDatagram link limits peer.datagrams resolver query
  | .tcp => exchangeStream (peer.connect link) resolver query

end SplitDns.Exchange
