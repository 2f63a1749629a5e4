import SplitDns.Dns.Wire.Write

/-!
# Writing sections

A section is written item by item. The first item that would pass the end of the longest message
is given up, and the place goes back to where it began. What was written of it stays beyond that
place, where a later section writes over it as far as it needs; an item that is written whole
leaves nothing beyond its end.
-/

namespace SplitDns.Dns.Wire

/-- The longest message. -/
def maxMessage : Nat := 65535

/-- The first pieces that fit into so much room, one after the other. -/
def fitting (room : Nat) : List Octets → List Octets
  | [] => []
  | piece :: rest =>
      if piece.length ≤ room then piece :: fitting (room - piece.length) rest else []

theorem fitting_prefix (room : Nat) (pieces : List Octets) : fitting room pieces <+: pieces := by
  induction pieces generalizing room with
  | nil => exact List.prefix_rfl
  | cons piece rest inductionHypothesis =>
      unfold fitting
      split
      · exact (List.prefix_cons_inj piece).mpr (inductionHypothesis _)
      · exact List.nil_prefix

theorem length_fitting_le (room : Nat) (pieces : List Octets) :
    (fitting room pieces).flatten.length ≤ room := by
  induction pieces generalizing room with
  | nil => simp [fitting]
  | cons piece rest inductionHypothesis =>
      unfold fitting
      split
      next fits =>
        have others := inductionHypothesis (room - piece.length)
        rw [List.flatten_cons, List.length_append]
        omega
      · simp

/-- The pieces in which a part is written, before a name is cut back. -/
def Part.layout : Part → List Octets
  | .pieces octets => octets
  | .name labels => labels.flatMap fun label => [[UInt8.ofNat label.length], label]
  | .fullName labels => labels.flatMap fun label => [[UInt8.ofNat label.length], label]
  | .gap => []

/--
What stands beyond a part of so many octets that was written over `left`. A gap, and a name that
was cut back to a reference, leave nothing beyond them.
-/
def leftBeyond (left : Octets) (size : Nat) : Part → Octets
  | .name labels => if size = labelsSize labels + 1 then left.drop size else []
  | .gap => []
  | _ => left.drop size

/-- What stands in a gap that is not filled yet. -/
def gapOctets (left : Octets) : Octets :=
  (left ++ [0, 0]).take 2

/--
What stands from a place on, where `left` stood before, after parts were written until there was
no more room.
-/
def attempt (left : Octets) (suffixes : Suffixes) (place : Nat) : List Part → Octets
  | [] => left
  | part :: rest =>
      let written := writePart suffixes place part
      if written.reach ≤ maxMessage then
        let octets :=
          match part with
          | .gap => gapOctets left
          | _ => written.octets
        octets ++ attempt (leftBeyond left written.octets.length part) written.suffixes
          (place + written.octets.length) rest
      else
        let octets := (fitting (maxMessage - place) part.layout).flatten
        octets ++ left.drop octets.length

/-- A list of items as far as it was written. -/
structure Section where
  octets : Octets
  suffixes : Suffixes
  count : Nat
  /-- Whether every item was written. -/
  complete : Bool
  /-- What stands beyond the last item. -/
  left : Octets

structure Writer (Item : Type) where
  parts : Item → List Part
  write : Suffixes → Nat → Item → Written

/-- Writes items up to the first one that would pass the end of the longest message. -/
def Writer.writeMany {Item : Type} (writer : Writer Item) (left : Octets) (suffixes : Suffixes)
    (place : Nat) : List Item → Section
  | [] => ⟨[], suffixes, 0, true, left⟩
  | item :: rest =>
      let written := writer.write suffixes place item
      if written.reach ≤ maxMessage then
        let others := writer.writeMany [] written.suffixes (place + written.octets.length) rest
        ⟨written.octets ++ others.octets, others.suffixes, others.count + 1, others.complete,
          others.left⟩
      else
        ⟨[], suffixes, 0, false, attempt left suffixes place (writer.parts item)⟩

def questionWriter : Writer Question :=
  ⟨questionParts, writeQuestion⟩

def recordWriter : Writer Record :=
  ⟨recordParts, writeRecord⟩

/-- Writes records after a section that ends at a place. -/
def Section.followedBy (before : Section) (place : Nat) (records : List Record) : Section :=
  recordWriter.writeMany before.left before.suffixes place records

end SplitDns.Dns.Wire
