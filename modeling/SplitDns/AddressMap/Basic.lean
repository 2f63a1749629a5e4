import SplitDns.Dns.Name
import SplitDns.SortedMap

/-!
# The address map

Every address that was ever seen for a name, as texts in the order in which they came. Nothing is
ever taken out. Recording looks first and writes only what is new, and the write looks again, so
that two recordings of one pair may run at the same time.
-/

namespace SplitDns

open SplitDns.Dns
open SplitDns.Text

/-- Names with their addresses. -/
abbrev Snapshot := SortedMap (List String)

structure AddressMap where
  snapshot : Snapshot

namespace AddressMap

def empty : AddressMap :=
  ⟨.empty⟩

def trimText (text : String) : String :=
  String.ofList (trim text.toList)

/-- The addresses of a name in normal form. -/
def addresses (map : AddressMap) (name : String) : List String :=
  (map.snapshot.find? name).getD []

/-- Whether a pair is recorded. -/
def knows (map : AddressMap) (name address : String) : Bool :=
  (map.addresses name).contains address

/-- Writes a pair unless it is there; says whether it was new. -/
def push (map : AddressMap) (name address : String) : Bool × AddressMap :=
  if map.knows name address then (false, map)
  else (true, ⟨map.snapshot.put name (map.addresses name ++ [address])⟩)

/-- Records an address for a name, both in normal form. -/
def record (map : AddressMap) (name address : String) : Bool × AddressMap :=
  if map.knows name address then (false, map) else map.push name address

/-- Records an address for a name, both as they come; blank ones are left out. -/
def insert (map : AddressMap) (name address : String) : Bool × AddressMap :=
  let name := normalizeName name
  let address := trimText address
  if name.isEmpty || address.isEmpty then (false, map) else map.record name address

def get (map : AddressMap) (name : String) : List String :=
  map.addresses (normalizeName name)

/-- The number of names. -/
def size (map : AddressMap) : Nat :=
  map.snapshot.size

/-- Records all pairs of a snapshot. -/
def ofSnapshot (snapshot : Snapshot) : AddressMap :=
  snapshot.pairs.foldl
    (fun map pair => pair.2.foldl (fun map address => (map.insert pair.1 address).2) map) empty

end AddressMap

end SplitDns
