import SplitDns.Octets
import SplitDns.Text.Number
import SplitDns.Text.Search

/-!
# IP addresses

IPv4 and IPv6 addresses, their written forms and their order. An IPv6 address is written with
its first longest run of at least two zero groups left out; an address that maps an IPv4 address
ends in that address's dotted form. Reading takes every dotted or grouped form that has exactly
one value.
-/

namespace SplitDns.Address

open SplitDns.Text

structure Ipv4 where
  a : UInt8
  b : UInt8
  c : UInt8
  d : UInt8
  deriving DecidableEq, Repr

/-- Eight groups of sixteen bits. -/
structure Ipv6 where
  groups : List UInt16
  length_groups : groups.length = 8
  deriving DecidableEq, Repr

inductive Ip where
  | v4 (address : Ipv4)
  | v6 (address : Ipv6)
  deriving DecidableEq, Repr

namespace Ipv4

def octets (address : Ipv4) : List UInt8 :=
  [address.a, address.b, address.c, address.d]

def ofOctets? : List UInt8 → Option Ipv4
  | [a, b, c, d] => some ⟨a, b, c, d⟩
  | _ => none

theorem ofOctets?_octets (address : Ipv4) : ofOctets? address.octets = some address := rfl

def toNat (address : Ipv4) : Nat :=
  ((address.a.toNat * 256 + address.b.toNat) * 256 + address.c.toNat) * 256 + address.d.toNat

def toText (address : Ipv4) : List Char :=
  join ['.'] (address.octets.map fun octet => digitsOf 10 octet.toNat)

/-- One to three digits without a leading zero, up to 255. -/
def octet? (text : List Char) : Option UInt8 :=
  if text.length ≤ 3 && (text.length == 1 || text.head? != some '0') then
    (digits? 255 text).map UInt8.ofNat
  else
    none

/-- The dotted form: four octets with points between them. -/
def parse? (text : List Char) : Option Ipv4 :=
  match (split '.' text).mapM octet? with
  | some [a, b, c, d] => some ⟨a, b, c, d⟩
  | _ => none

end Ipv4

namespace Ipv6

def ofGroups? (groups : List UInt16) : Option Ipv6 :=
  if equal : groups.length = 8 then some ⟨groups, equal⟩ else none

/-- Sixteen octets, the high one of each group first. -/
def octets (address : Ipv6) : List UInt8 :=
  address.groups.flatMap octets16

/-- Pairs octets up into groups. -/
def pairUp : List UInt8 → List UInt16
  | high :: low :: rest => word16 high low :: pairUp rest
  | _ => []

def ofOctets? (octets : List UInt8) : Option Ipv6 :=
  if octets.length = 16 then ofGroups? (pairUp octets) else none

def toNat (address : Ipv6) : Nat :=
  address.groups.foldl (fun value group => value * 65536 + group.toNat) 0

def groupText (group : UInt16) : List Char :=
  digitsOf 16 group.toNat

/-- The number of zero groups at the start. -/
def leadingZeros (groups : List UInt16) : Nat :=
  (groups.takeWhile (· == 0)).length

/-- Start and length of the first longest run of zero groups, counted from `start`. -/
def longestZeros (start : Nat) : List UInt16 → Nat × Nat
  | [] => (start, 0)
  | group :: rest =>
      let here := leadingZeros (group :: rest)
      let later := longestZeros (start + 1) rest
      if later.2 ≤ here then (start, here) else later

def joinGroups (groups : List UInt16) : List Char :=
  join [':'] (groups.map groupText)

def toText (address : Ipv6) : List Char :=
  match address.groups with
  | [0, 0, 0, 0, 0, 0xFFFF, high, low] =>
      "::ffff:".toList ++
        Ipv4.toText ⟨highOctet high, lowOctet high, highOctet low, lowOctet low⟩
  | groups =>
      let (start, length) := longestZeros 0 groups
      if 1 < length then
        joinGroups (groups.take start) ++ [':', ':'] ++ joinGroups (groups.drop (start + length))
      else
        joinGroups groups

/-- One to four hexadecimal digits. -/
def group? (text : List Char) : Option UInt16 :=
  if text.isEmpty || 4 < text.length then none
  else
    (text.mapM hexDigit?).map fun digits =>
      UInt16.ofNat (digits.foldl (fun value digit => value * 16 + digit) 0)

/-- A list of groups whose last one may be a dotted address, which stands for two groups. -/
def groupsWithDotted? : List (List Char) → Option (List UInt16)
  | [] => some []
  | [last] =>
      match group? last with
      | some group => some [group]
      | none =>
          (Ipv4.parse? last).map fun dotted => [word16 dotted.a dotted.b, word16 dotted.c dotted.d]
  | part :: parts =>
      (group? part).bind fun group => (groupsWithDotted? parts).map (group :: ·)

/-- The parts of a text before and after its first double colon. -/
def cutDoubleColon? : List Char → Option (List Char × List Char)
  | ':' :: ':' :: rest => some ([], rest)
  | character :: rest =>
      (cutDoubleColon? rest).map fun parts => (character :: parts.1, parts.2)
  | [] => none

/-- The parts between colons; an empty text has none. -/
def colonParts (text : List Char) : List (List Char) :=
  if text.isEmpty then [] else split ':' text

/--
Eight groups between colons, or at most seven with one double colon for the missing zero groups.
The last two groups may be written in dotted form, if they stand at the end of the text.
-/
def parse? (text : List Char) : Option Ipv6 :=
  match cutDoubleColon? text with
  | none => (groupsWithDotted? (colonParts text)).bind ofGroups?
  | some (before, after) =>
      match (colonParts before).mapM group?, groupsWithDotted? (colonParts after) with
      | some front, some back =>
          if front.length + back.length ≤ 7 then
            ofGroups? (front ++ List.replicate (8 - front.length - back.length) 0 ++ back)
          else
            none
      | _, _ => none

end Ipv6

namespace Ip

def isV6 : Ip → Bool
  | .v4 _ => false
  | .v6 _ => true

def toText : Ip → List Char
  | .v4 address => address.toText
  | .v6 address => address.toText

def text (address : Ip) : String :=
  String.ofList address.toText

def parse? (text : List Char) : Option Ip :=
  match Ipv4.parse? text with
  | some address => some (.v4 address)
  | none => (Ipv6.parse? text).map .v6

/-- IPv4 addresses come before IPv6 addresses, each in numeric order. -/
def sortKey : Ip → Nat
  | .v4 address => address.toNat
  | .v6 address => 0x100000000 + address.toNat

end Ip

end SplitDns.Address
