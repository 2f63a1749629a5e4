import SplitDns.Dns.Wire.Read

/-!
# Octets held by a message

A message holds octets at a place when they stand there, whatever surrounds them. Every reader of
fixed size is described by what the message holds where it reads, so a composed reader is
described by cutting the held octets in pieces.
-/

namespace SplitDns.Dns.Wire

/-- The octets stand in the message from the place on. -/
def Holds (message : Array UInt8) (place : Nat) (octets : Octets) : Prop :=
  ∃ before after, message = (before ++ octets ++ after).toArray ∧ before.length = place

namespace Holds

variable {message : Array UInt8} {place : Nat}

theorem append {first second : Octets} (held : Holds message place (first ++ second)) :
    Holds message place first ∧ Holds message (place + first.length) second := by
  obtain ⟨before, after, rfl, rfl⟩ := held
  constructor
  · exact ⟨before, second ++ after, by simp, rfl⟩
  · exact ⟨before ++ first, after, by simp, by simp⟩

theorem left {first second : Octets} (held : Holds message place (first ++ second)) :
    Holds message place first :=
  held.append.1

theorem right {first second : Octets} (held : Holds message place (first ++ second)) :
    Holds message (place + first.length) second :=
  held.append.2

theorem tail {octet : UInt8} {rest : Octets} (held : Holds message place (octet :: rest)) :
    Holds message (place + 1) rest :=
  (show Holds message place ([octet] ++ rest) from held).right

theorem size_le {octets : Octets} (held : Holds message place octets) :
    place + octets.length ≤ message.size := by
  obtain ⟨before, after, rfl, rfl⟩ := held
  simp

theorem getElem? {octet : UInt8} {rest : Octets} (held : Holds message place (octet :: rest)) :
    message[place]? = some octet := by
  obtain ⟨before, after, rfl, rfl⟩ := held
  simp

theorem place_lt {octet : UInt8} {rest : Octets} (held : Holds message place (octet :: rest)) :
    place < message.size := by
  have bound := held.size_le
  simp only [List.length_cons] at bound
  omega

theorem getElem {octet : UInt8} {rest : Octets} (held : Holds message place (octet :: rest))
    (inside : place < message.size) : message[place] = octet :=
  Array.getElem_eq_iff.mpr held.getElem?

theorem extract {octets : Octets} (held : Holds message place octets) :
    (message.extract place (place + octets.length)).toList = octets := by
  obtain ⟨before, after, rfl, rfl⟩ := held
  simp

end Holds

variable {message : Array UInt8} {place : Nat}

theorem read16?_of_holds {word : UInt16} (held : Holds message place (octets16 word)) :
    read16? message place = some (word, place + 2) := by
  have high := held.getElem?
  have low := held.tail.getElem?
  simp [read16?, high, low]

theorem read32?_of_holds {word : UInt32} (held : Holds message place (octets32 word)) :
    read32? message place = some (word, place + 4) := by
  have high := read16?_of_holds held.left
  have low := read16?_of_holds held.right
  rw [length_octets16] at low
  simp [read32?, high, low]

theorem readOctets?_of_holds {octets : Octets} (held : Holds message place octets) :
    readOctets? message octets.length place = some (octets, place + octets.length) := by
  rw [readOctets?, if_pos held.size_le, held.extract]

end SplitDns.Dns.Wire
