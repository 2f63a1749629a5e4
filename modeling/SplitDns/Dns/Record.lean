import SplitDns.Address.Ip
import SplitDns.Dns.Name

/-!
# Resource records

The data of a record decides its type. Data that the proxy does not look into is kept as the
octets that were read.
-/

namespace SplitDns.Dns

open SplitDns.Address

/-- Record types with data that consists of one name. -/
inductive HostKind where
  | alias
  | nameServer
  | pointer
  deriving DecidableEq, Repr

namespace RecordType

def a : UInt16 := 1
def ns : UInt16 := 2
def cname : UInt16 := 5
def soa : UInt16 := 6
def ptr : UInt16 := 12
def mx : UInt16 := 15
def txt : UInt16 := 16
def aaaa : UInt16 := 28
def srv : UInt16 := 33
def opt : UInt16 := 41

/-- Types that stand for no data of their own, so that a record cannot hold data of them. -/
def dataless : List UInt16 :=
  [0, 251, 252, 255]

end RecordType

def HostKind.type : HostKind → UInt16
  | .alias => RecordType.cname
  | .nameServer => RecordType.ns
  | .pointer => RecordType.ptr

inductive RecordData where
  /-- A record of the given type without data. -/
  | absent (type : UInt16)
  | ipv4 (address : Ipv4)
  | ipv6 (address : Ipv6)
  | host (kind : HostKind) (name : Name)
  | mail (preference : UInt16) (exchange : Name)
  | authority (primary mailbox : Name) (timers : Octets)
  | service (priority weight port : UInt16) (target : Name)
  | text (strings : List Octets)
  | options (options : List (UInt16 × Octets))
  | raw (type : UInt16) (octets : Octets)
  deriving DecidableEq

def RecordData.type : RecordData → UInt16
  | .absent type => type
  | .ipv4 _ => RecordType.a
  | .ipv6 _ => RecordType.aaaa
  | .host kind _ => kind.type
  | .mail _ _ => RecordType.mx
  | .authority _ _ _ => RecordType.soa
  | .service _ _ _ _ => RecordType.srv
  | .text _ => RecordType.txt
  | .options _ => RecordType.opt
  | .raw type _ => type

structure Record where
  owner : Name
  dnsClass : UInt16
  ttl : UInt32
  data : RecordData
  deriving DecidableEq

namespace Record

def type (record : Record) : UInt16 :=
  record.data.type

def isIpv6 (record : Record) : Bool :=
  record.type == RecordType.aaaa

/-- The address that the record gives its owner. -/
def address? (record : Record) : Option Ip :=
  match record.data with
  | .ipv4 address => some (.v4 address)
  | .ipv6 address => some (.v6 address)
  | _ => none

end Record

end SplitDns.Dns
