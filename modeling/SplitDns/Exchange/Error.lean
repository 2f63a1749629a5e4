import SplitDns.Address.Resolver
import SplitDns.Duration
import SplitDns.IoError

/-!
# Failures of an exchange

The two protocols and what can go wrong while a query is put to a resolver or the
listener is set up.
-/

namespace SplitDns.Exchange

open SplitDns.Address
open SplitDns.Text

/-- How one query travels: as a datagram, or in a frame on a stream. -/
inductive Protocol where
  | udp
  | tcp
  deriving DecidableEq, Repr

def Protocol.text : Protocol → String
  | .udp => "udp"
  | .tcp => "tcp"

/-- A wait that ended without result. -/
inductive Wait where
  | scripted
  | bind
  | datagramSend (peer : Socket)
  | datagram (peer : Socket) (limit : Duration)
  | connect (peer : Socket)
  | streamWrite (peer : Socket)
  | streamRead (peer : Socket)
  deriving DecidableEq, Repr

def Wait.message : Wait → String
  | .scripted => "mock exchange timed out"
  | .bind => "UDP socket bind timed out"
  | .datagramSend peer => s!"UDP send to {peer.text} timed out"
  | .datagram peer limit => s!"no UDP response from {peer.text} within {limit.text}"
  | .connect peer => s!"TCP connect to {peer.text} timed out"
  | .streamWrite peer => s!"TCP write to {peer.text} timed out"
  | .streamRead peer => s!"TCP read from {peer.text} timed out"

/-- A step of an exchange that failed. -/
inductive Failure where
  | queryTooShort
  | bind (cause : IoError)
  | send (cause : IoError)
  | receive (cause : IoError)
  | connect (peer : Socket) (cause : IoError)
  | closed (peer : Socket)
  | undecodable (protocol : Protocol) (peer : Socket)
  | frameTooLong (length : Nat)
  | frameTooShort (length : Nat)
  | streamWrite (cause : IoError)
  | streamRead (cause : IoError)
  | listen (protocol : Protocol) (address : Socket) (cause : IoError)
  | scripted (text : String)
  | unscripted (protocol : Protocol)
  deriving DecidableEq, Repr

def Failure.message : Failure → String
  | .queryTooShort => "DNS query too short"
  | .bind cause => s!"failed to bind UDP socket: {cause.message}"
  | .send cause => s!"failed to send DNS query: {cause.message}"
  | .receive cause => s!"failed to receive DNS response: {cause.message}"
  | .connect peer cause => s!"TCP connect to {peer.text} failed: {cause.message}"
  | .closed peer => s!"{peer.text} closed the connection without answering"
  | .undecodable protocol peer => s!"invalid {protocol.text} response from {peer.text}"
  | .frameTooLong length => s!"DNS message of {decimal length} bytes exceeds TCP frame limit"
  | .frameTooShort length => s!"DNS frame of {decimal length} bytes is too short"
  | .streamWrite cause => s!"stream write failed: {cause.message}"
  | .streamRead cause => s!"stream read failed: {cause.message}"
  | .listen .udp address cause =>
      s!"failed to bind UDP listener to {address.text}: {cause.message}"
  | .listen .tcp address cause =>
      s!"failed to bind TCP listener to {address.text}: {cause.message}"
  | .scripted text => text
  | .unscripted protocol => s!"no scripted {protocol.text} reply"

/-- Everything that can go wrong with resolvers. -/
inductive Error where
  | failure (cause : Failure)
  | resolver (cause : ResolverError)
  | timeout (wait : Wait)
  | io (cause : IoError)
  deriving DecidableEq, Repr

namespace Error

def message : Error → String
  | .failure cause => "DNS error: " ++ cause.message
  | .resolver cause => "DNS configuration error: " ++ cause.message
  | .timeout wait => "DNS timeout: " ++ wait.message
  | .io cause => "I/O error: " ++ cause.message

def isTimeout : Error → Bool
  | .timeout _ => true
  | _ => false

end Error

end SplitDns.Exchange
