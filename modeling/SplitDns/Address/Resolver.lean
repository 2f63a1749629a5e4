import SplitDns.Address.Socket
import SplitDns.Text.Blank

/-!
# Resolver addresses

The address of a resolver as an administrator writes it: an IP address, with a port or without
one, where an IPv6 address with a port stands in brackets.
-/

namespace SplitDns.Address

open SplitDns.Text

/-- Why a text is no resolver address. -/
inductive ResolverError where
  | empty
  | badIp (text : String)
  /-- The port after a bracketed address. -/
  | badBracketPort (cause : NumberError)
  | badPort (text : String) (cause : NumberError)
  | unrecognized (text : String)
  deriving DecidableEq, Repr

def ResolverError.message : ResolverError → String
  | .empty => "empty upstream address"
  | .badIp text => s!"invalid IP address '{text}': invalid IP address syntax"
  | .badBracketPort cause => s!"invalid port: {cause.message}"
  | .badPort text cause => s!"invalid port '{text}': {cause.message}"
  | .unrecognized text => s!"cannot parse upstream address '{text}'"

/-- The port of the resolver protocol. -/
def defaultPort : UInt16 := 53

def readIp (text : List Char) : Except ResolverError Ip :=
  match Ip.parse? text with
  | some address => .ok address
  | none => .error (.badIp (String.ofList text))

def readPort (text : List Char) : Except NumberError UInt16 :=
  (readNumber 65535 text).map UInt16.ofNat

/-- What stands after the opening bracket: an address, and a port if a colon follows. -/
def readBracketed (inside after : List Char) : Except ResolverError Socket := do
  let address ← readIp inside
  match after with
  | ':' :: port => return .ofIp (← (readPort port).mapError .badBracketPort) address
  | _ => return .ofIp defaultPort address

/-- An address and a port with a colon between them. -/
def readWithPort (address port : List Char) : Except ResolverError Socket := do
  let address ← readIp address
  let port ← (readPort port).mapError (.badPort (String.ofList port))
  return .ofIp port address

/-- An address without port, or one with a port after its last colon. -/
def readPlain (text : List Char) : Except ResolverError Socket :=
  match Ip.parse? text with
  | some address => .ok (.ofIp defaultPort address)
  | none =>
      match cutLast? ':' text with
      | some (address, port) => readWithPort address port
      | none => .error (.unrecognized (String.ofList text))

/-- A text in brackets, if it begins with one that is closed. -/
def bracketed? : List Char → Option (List Char × List Char)
  | '[' :: rest => cutFirst? ']' rest
  | _ => none

/-- Reads a resolver address; blank space around it does not matter. -/
def readResolver (text : List Char) : Except ResolverError Socket :=
  let text := trim text
  if text.isEmpty then .error .empty
  else
    match Socket.parse? text with
    | some socket => .ok socket
    | none =>
        match bracketed? text with
        | some (inside, after) => readBracketed inside after
        | none => readPlain text

def parseResolver (text : String) : Except ResolverError Socket :=
  readResolver text.toList

end SplitDns.Address
