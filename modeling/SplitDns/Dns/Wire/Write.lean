import SplitDns.Dns.Message

/-!
# Writing names, questions and records

A writer gets the place where its octets will stand and the suffixes of names written so far,
and gives the octets and the suffixes after it. A name whose remaining labels were written before
ends in a reference to that place. Names are laid out in full before they are cut back to a
reference, so a writer also says how far it reached.
-/

namespace SplitDns.Dns.Wire

/-- Suffixes of names with the places where they stand. -/
abbrev Suffixes := List (List Octets × Nat)

/-- A reference is a word with its two highest bits set. -/
def reference (place : Nat) : Octets :=
  octets16 (UInt16.ofNat (0xC000 + place % 0x4000))

def labelOctets (label : Octets) : Octets :=
  UInt8.ofNat label.length :: label

/-- The octets of labels without the root that follows them. -/
def labelsSize (labels : List Octets) : Nat :=
  labels.foldr (fun label size => label.length + 1 + size) 0

/-- Remembers a suffix at a place, as long as its name ends where a reference reaches. -/
def remember (suffixes : Suffixes) (labels : List Octets) (place : Nat) : Suffixes :=
  if place + labelsSize labels < 0x3FFF then (labels, place) :: suffixes else suffixes

/-- Writes labels at a place; a suffix that is known becomes a reference. -/
def writeLabels (suffixes : Suffixes) (place : Nat) : List Octets → Octets × Suffixes
  | [] => ([0], suffixes)
  | label :: rest =>
      match suffixes.lookup (label :: rest) with
      | some target => (reference target, suffixes)
      | none =>
          let (octets, suffixes) :=
            writeLabels (remember suffixes (label :: rest) place) (place + label.length + 1) rest
          (labelOctets label ++ octets, suffixes)

/-- Writes labels in full; suffixes that are new are remembered. -/
def writeLabelsInFull (suffixes : Suffixes) (place : Nat) : List Octets → Octets × Suffixes
  | [] => ([0], suffixes)
  | label :: rest =>
      let suffixes :=
        if (suffixes.lookup (label :: rest)).isSome then suffixes
        else remember suffixes (label :: rest) place
      let (octets, suffixes) := writeLabelsInFull suffixes (place + label.length + 1) rest
      (labelOctets label ++ octets, suffixes)

/-- A part of a question or a record. -/
inductive Part where
  /-- Octets in pieces, each of which is written at once. -/
  | pieces (pieces : List Octets)
  | name (labels : List Octets)
  /-- A name without references. -/
  | fullName (labels : List Octets)
  /-- Room for the length of the data that follows. -/
  | gap

def Part.singles (octets : Octets) : Part :=
  .pieces (octets.map fun octet => [octet])

/-- What a writer leaves. -/
structure Written where
  octets : Octets
  suffixes : Suffixes
  /-- The place behind the last octet that was written, if only for a while. -/
  reach : Nat

def writePart (suffixes : Suffixes) (place : Nat) : Part → Written
  | .pieces pieces =>
      let octets := pieces.flatten
      ⟨octets, suffixes, place + octets.length⟩
  | .name labels =>
      let (octets, suffixes) := writeLabels suffixes place labels
      ⟨octets, suffixes, place + max (labelsSize labels) octets.length⟩
  | .fullName labels =>
      let (octets, suffixes) := writeLabelsInFull suffixes place labels
      ⟨octets, suffixes, place + octets.length⟩
  | .gap => ⟨[0, 0], suffixes, place + 2⟩

def writeParts (suffixes : Suffixes) (place : Nat) : List Part → Written
  | [] => ⟨[], suffixes, place⟩
  | part :: rest =>
      let first := writePart suffixes place part
      let others := writeParts first.suffixes (place + first.octets.length) rest
      ⟨first.octets ++ others.octets, others.suffixes, max first.reach others.reach⟩

/-- Cuts octets that come in fours into their groups. -/
def fours : Octets → List Octets
  | first :: second :: third :: fourth :: rest => [first, second, third, fourth] :: fours rest
  | [] => []
  | rest => [rest]

def optionPieces (option : UInt16 × Octets) : List Octets :=
  [octets16 option.1, octets16 (UInt16.ofNat option.2.length), option.2]

/-- The data of a record. The target of a service is written in full and in lower case. -/
def dataParts : RecordData → List Part
  | .absent _ => []
  | .ipv4 address => [.singles address.octets]
  | .ipv6 address => [.pieces (address.groups.map octets16)]
  | .host _ name => [.name name.labels]
  | .mail preference exchange => [.pieces [octets16 preference], .name exchange.labels]
  | .authority primary mailbox timers =>
      [.name primary.labels, .name mailbox.labels, .pieces (fours timers)]
  | .service priority weight port target =>
      [.pieces ([priority, weight, port].map octets16), .fullName target.lowerLabels]
  | .text strings =>
      [.pieces (strings.flatMap fun string => [[UInt8.ofNat string.length], string])]
  | .options options => [.pieces (options.flatMap optionPieces)]
  | .raw _ octets => [.singles octets]

/-- What stands before the data of a record and its length. -/
def headParts (record : Record) : List Part :=
  [.name record.owner.labels,
    .pieces [octets16 record.type, octets16 record.dnsClass, octets32 record.ttl]]

def questionParts (question : Question) : List Part :=
  [.name question.name.labels, .pieces [octets16 question.type, octets16 question.dnsClass]]

def writeQuestion (suffixes : Suffixes) (place : Nat) (question : Question) : Written :=
  writeParts suffixes place (questionParts question)

def recordParts (record : Record) : List Part :=
  headParts record ++ .gap :: dataParts record.data

/-- Writes a record; the length of its data fills the gap before them. -/
def writeRecord (suffixes : Suffixes) (place : Nat) (record : Record) : Written :=
  let head := writeParts suffixes place (headParts record)
  let data := writeParts head.suffixes (place + head.octets.length + 2) (dataParts record.data)
  ⟨head.octets ++ octets16 (UInt16.ofNat data.octets.length) ++ data.octets, data.suffixes,
    max head.reach data.reach⟩

end SplitDns.Dns.Wire
