import SplitDns.Dns.Record

/-!
# Messages

A DNS message: header, questions, three sections of records and the extension record, which is
kept apart from the additional section. The upper bits of the response code belong to the
extension record, so a message without one has a response code below 16.
-/

namespace SplitDns.Dns

structure Question where
  name : Name
  type : UInt16
  dnsClass : UInt16
  deriving DecidableEq

/-- The extension record of a message. -/
structure Edns where
  /-- The upper eight bits of the response code. -/
  extendedCode : UInt8
  version : UInt8
  /-- The bit for security records first, then fifteen reserved bits. -/
  flags : UInt16
  /-- The largest datagram that the sender takes. -/
  payload : UInt16
  options : List (UInt16 × Octets)
  deriving DecidableEq

structure Header where
  id : UInt16
  response : Bool
  opcode : Fin 16
  authoritative : Bool
  truncated : Bool
  recursionDesired : Bool
  recursionAvailable : Bool
  authenticData : Bool
  checkingDisabled : Bool
  /-- The lower four bits of the response code. -/
  code : Fin 16
  deriving DecidableEq

structure Message where
  header : Header
  questions : List Question
  answers : List Record
  authority : List Record
  additional : List Record
  edns : Option Edns
  deriving DecidableEq

/-- The smallest datagram that every client takes. -/
def minPayload : UInt16 := 512

namespace Edns

def secure (edns : Edns) : Bool :=
  edns.flags.toNat / 32768 == 1

/-- The record that stands for the extension in the additional section. -/
def toRecord (edns : Edns) : Record where
  owner := Name.root
  dnsClass := max minPayload edns.payload
  ttl := word32 (word16 edns.extendedCode edns.version) edns.flags
  data := .options edns.options

def ofRecord (record : Record) : Edns where
  extendedCode := highOctet (highHalf record.ttl)
  version := lowOctet (highHalf record.ttl)
  flags := lowHalf record.ttl
  payload := record.dnsClass
  options :=
    match record.data with
    | .options options => options
    | _ => []

end Edns

namespace Message

/-- The whole response code. -/
def responseCode (message : Message) : Nat :=
  (message.edns.elim 0 fun edns => edns.extendedCode.toNat) * 16 + message.header.code.val

/-- The records of all sections, in message order. -/
def records (message : Message) : List Record :=
  message.answers ++ message.authority ++ message.additional

def envelope (message : Message) : Message :=
  { message with answers := [], authority := [], additional := [] }

/-- Keeps the records of every section that pass a test. -/
def filterRecords (keep : Record → Bool) (message : Message) : Message :=
  { message with
    answers := message.answers.filter keep
    authority := message.authority.filter keep
    additional := message.additional.filter keep }

end Message

end SplitDns.Dns
