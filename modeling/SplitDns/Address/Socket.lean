import SplitDns.Address.Ip

/-!
# Socket addresses

An address with a port. An IPv6 address may carry a scope, which is written after a percent sign
inside the brackets unless it is zero.
-/

namespace SplitDns.Address

open SplitDns.Text

inductive Socket where
  | v4 (address : Ipv4) (port : UInt16)
  | v6 (address : Ipv6) (scope : UInt32) (port : UInt16)
  deriving DecidableEq, Repr

namespace Socket

/-- The socket address of an address without scope. -/
def ofIp (port : UInt16) : Ip → Socket
  | .v4 address => .v4 address port
  | .v6 address => .v6 address 0 port

def ip : Socket → Ip
  | .v4 address _ => .v4 address
  | .v6 address _ _ => .v6 address

def port : Socket → UInt16
  | .v4 _ port => port
  | .v6 _ _ port => port

def portText (port : UInt16) : List Char :=
  digitsOf 10 port.toNat

def toText : Socket → List Char
  | .v4 address port => address.toText ++ ':' :: portText port
  | .v6 address scope port =>
      let scopeText := if scope = 0 then [] else '%' :: digitsOf 10 scope.toNat
      '[' :: address.toText ++ scopeText ++ ']' :: ':' :: portText port

def text (socket : Socket) : String :=
  String.ofList socket.toText

def port? (text : List Char) : Option UInt16 :=
  (digits? 65535 text).map UInt16.ofNat

/-- An IPv6 address, with a percent sign and a decimal scope after it or not. -/
def scoped? (text : List Char) : Option (Ipv6 × UInt32) :=
  match cutFirst? '%' text with
  | none => (Ipv6.parse? text).map (·, 0)
  | some (address, scope) => do
      let address ← Ipv6.parse? address
      let scope ← digits? 4294967295 scope
      return (address, UInt32.ofNat scope)

/-- Reads the written form: the port is required and an IPv6 address stands in brackets. -/
def parse? (text : List Char) : Option Socket :=
  match text with
  | '[' :: rest => do
      let (inside, after) ← cutFirst? ']' rest
      let (address, scope) ← scoped? inside
      match after with
      | ':' :: digits => return .v6 address scope (← port? digits)
      | _ => none
  | _ => do
      let (address, digits) ← cutFirst? ':' text
      return .v4 (← Ipv4.parse? address) (← port? digits)

end Socket

end SplitDns.Address
