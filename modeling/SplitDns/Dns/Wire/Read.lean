import SplitDns.Dns.Message

/-!
# Reading messages

A reader takes a position in the message and gives a value and the position after it. A name may
continue at an earlier place: the place has to lie before the start of the name that refers to
it, and no label read there may begin at or after that start, so reading always ends.
-/

namespace SplitDns.Dns.Wire

open SplitDns.Address

def read8? (message : Array UInt8) (position : Nat) : Option (UInt8 × Nat) :=
  message[position]?.map (·, position + 1)

def read16? (message : Array UInt8) (position : Nat) : Option (UInt16 × Nat) := do
  let high ← message[position]?
  let low ← message[position + 1]?
  return (word16 high low, position + 2)

def read32? (message : Array UInt8) (position : Nat) : Option (UInt32 × Nat) := do
  let (high, position) ← read16? message position
  let (low, position) ← read16? message position
  return (word32 high low, position)

def readOctets? (message : Array UInt8) (count position : Nat) : Option (Octets × Nat) :=
  if position + count ≤ message.size then
    some ((message.extract position (position + count)).toList, position + count)
  else
    none

/--
Reads labels up to a root label or a reference. `start` is where this run of labels began and
`bound` the place that no label may reach.
-/
def readLabels? (message : Array UInt8) (start bound position : Nat) :
    Option (List Octets × Nat) :=
  if bound ≤ position then none
  else if inside : position < message.size then
    let lead := message[position].toNat
    if lead = 0 then some ([], position + 1)
    else if lead < 64 then
      if position + 1 + lead ≤ message.size then
        match readLabels? message start bound (position + 1 + lead) with
        | none => none
        | some (labels, next) =>
            some ((message.extract (position + 1) (position + 1 + lead)).toList :: labels, next)
      else none
    else if lead < 192 then none
    else
      match message[position + 1]? with
      | none => none
      | some low =>
          let target := (lead - 192) * 256 + low.toNat
          if earlier : target < start then
            (readLabels? message target start target).map fun found => (found.1, position + 2)
          else none
  else none
  termination_by (start, message.size - position)

def readName? (message : Array UInt8) (position : Nat) : Option (Name × Nat) := do
  let (labels, next) ← readLabels? message position message.size position
  return (← Name.ofLabels? labels, next)

def readQuestion? (message : Array UInt8) (position : Nat) : Option (Question × Nat) := do
  let (name, position) ← readName? message position
  let (type, position) ← read16? message position
  let (dnsClass, position) ← read16? message position
  return (⟨name, type, dnsClass⟩, position)

/-- Strings, each after an octet with its length, that fill the data. -/
def strings? : Octets → Option (List Octets)
  | [] => some []
  | length :: rest =>
      let string := rest.take length.toNat
      if string.length = length.toNat then
        (strings? (rest.drop length.toNat)).map (string :: ·)
      else none
  termination_by octets => octets.length
  decreasing_by simp only [List.length_drop, List.length_cons]; omega

/-- The code of the option that names the network of a client. -/
def clientNetwork : UInt16 := 8

/--
A client network: a family, the lengths of two prefixes, and as many octets of the address as the
first prefix covers. Octets after them are dropped.
-/
def network? : Octets → Option Octets
  | familyHigh :: familyLow :: source :: rest =>
      let size := (source.toNat + 7) / 8
      let longest := match (word16 familyHigh familyLow).toNat with
        | 1 => 4
        | 2 => 16
        | _ => 0
      if 0 < longest && size ≤ longest && size < rest.length then
        some (familyHigh :: familyLow :: source :: rest.take (size + 1))
      else none
  | _ => none

/-- The data of an option, which for a client network has a form. -/
def optionData? (code : UInt16) (octets : Octets) : Option Octets :=
  if code = clientNetwork then network? octets else some octets

/--
Options, each with a code and a length, in data of `total` octets. Data that ends inside an
option has no options at all; an option longer than the whole data is an error, and so is an odd
octet where a code or a length should be.
-/
def options? (total : Nat) : Octets → Option (Option (List (UInt16 × Octets)))
  | [] => some (some [])
  | [_, _] => some none
  | codeHigh :: codeLow :: lengthHigh :: lengthLow :: rest =>
      let length := (word16 lengthHigh lengthLow).toNat
      let data := rest.take length
      if total < length then none
      else if data.length < length then some none
      else
        match optionData? (word16 codeHigh codeLow) data with
        | none => none
        | some octets =>
            (options? total (rest.drop length)).map fun others =>
              others.map ((word16 codeHigh codeLow, octets) :: ·)
  | _ => none
  termination_by octets => octets.length
  decreasing_by simp only [List.length_drop, List.length_cons]; omega

/-- Data that holds no names. -/
def plainData? (type : UInt16) (octets : Octets) : Option RecordData :=
  if type = RecordType.a then (Ipv4.ofOctets? octets).map .ipv4
  else if type = RecordType.aaaa then (Ipv6.ofOctets? octets).map .ipv6
  else if type = RecordType.txt then (strings? octets).map .text
  else if type = RecordType.opt then
    (options? octets.length octets).map fun options => .options (options.getD [])
  else if type ∈ RecordType.dataless then none
  else some (.raw type octets)

/-- Data of the given type, and the position after the last octet that was read. -/
def readData? (message : Array UInt8) (type : UInt16) (length position : Nat) :
    Option (RecordData × Nat) :=
  let host (kind : HostKind) := (readName? message position).map fun found =>
    (RecordData.host kind found.1, found.2)
  if type = RecordType.cname then host .alias
  else if type = RecordType.ns then host .nameServer
  else if type = RecordType.ptr then host .pointer
  else if type = RecordType.mx then do
    let (preference, position) ← read16? message position
    let (exchange, position) ← readName? message position
    return (.mail preference exchange, position)
  else if type = RecordType.soa then do
    let (primary, position) ← readName? message position
    let (mailbox, position) ← readName? message position
    let (timers, position) ← readOctets? message 20 position
    return (.authority primary mailbox timers, position)
  else if type = RecordType.srv then do
    let (priority, position) ← read16? message position
    let (weight, position) ← read16? message position
    let (port, position) ← read16? message position
    let (target, position) ← readName? message position
    return (.service priority weight port target, position)
  else do
    let (octets, position) ← readOctets? message length position
    return (← plainData? type octets, position)

/--
Reads a record. Its data has to take exactly the stated length; a record of length zero has no
data. An extension record belongs to the root, and its class is a datagram size of at least
`minPayload`.
-/
def readRecord? (message : Array UInt8) (position : Nat) : Option (Record × Nat) := do
  let (owner, position) ← readName? message position
  let (type, position) ← read16? message position
  let (dnsClass, position) ← read16? message position
  let (ttl, position) ← read32? message position
  let (length, position) ← read16? message position
  let stop := position + length.toNat
  if message.size < stop || (type == RecordType.opt && !owner.isRoot) then none
  else
    let dnsClass := if type = RecordType.opt then max minPayload dnsClass else dnsClass
    if length = 0 then
      return (⟨owner, dnsClass, ttl, .absent type⟩, position)
    else
      let (data, next) ← readData? message type length.toNat position
      if next = stop then return (⟨owner, dnsClass, ttl, data⟩, next) else none

/-- Reads a number of items one after the other. -/
def readMany? {Item : Type} (read : Nat → Option (Item × Nat)) :
    (count position : Nat) → Option (List Item × Nat)
  | 0, position => some ([], position)
  | count + 1, position => do
      let (item, position) ← read position
      let (items, position) ← readMany? read count position
      return (item :: items, position)

def bit (word : UInt16) (index : Nat) : Bool :=
  (word.toNat >>> index) % 2 == 1

def fourBits (word : UInt16) (index : Nat) : Fin 16 :=
  ⟨(word.toNat >>> index) % 16, Nat.mod_lt _ (by decide)⟩

/-- The header with the given id and flag word. -/
def headerOf (id flags : UInt16) : Header where
  id := id
  response := bit flags 15
  opcode := fourBits flags 11
  authoritative := bit flags 10
  truncated := bit flags 9
  recursionDesired := bit flags 8
  recursionAvailable := bit flags 7
  authenticData := bit flags 5
  checkingDisabled := bit flags 4
  code := fourBits flags 0

def isExtension (record : Record) : Bool :=
  record.type == RecordType.opt

/-- Takes the extension record out of the additional section; there may be one. -/
def takeExtension? (records : List Record) : Option (List Record × Option Edns) :=
  let others := records.filter fun record => !isExtension record
  match records.filter isExtension with
  | [] => some (others, none)
  | [extension] => some (others, some (Edns.ofRecord extension))
  | _ => none

end Wire

/-- Reads a message. Octets after the last record are ignored. -/
def Message.decode? (octets : Octets) : Option Message := do
  let message := octets.toArray
  let (id, position) ← Wire.read16? message 0
  let (flags, position) ← Wire.read16? message position
  let (questionCount, position) ← Wire.read16? message position
  let (answerCount, position) ← Wire.read16? message position
  let (authorityCount, position) ← Wire.read16? message position
  let (additionalCount, position) ← Wire.read16? message position
  let (questions, position) ←
    Wire.readMany? (Wire.readQuestion? message) questionCount.toNat position
  let (answers, position) ← Wire.readMany? (Wire.readRecord? message) answerCount.toNat position
  let (authority, position) ←
    Wire.readMany? (Wire.readRecord? message) authorityCount.toNat position
  let (additional, _) ←
    Wire.readMany? (Wire.readRecord? message) additionalCount.toNat position
  let (additional, edns) ← Wire.takeExtension? additional
  return ⟨Wire.headerOf id flags, questions, answers, authority, additional, edns⟩

end SplitDns.Dns
