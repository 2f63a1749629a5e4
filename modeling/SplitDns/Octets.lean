/-!
# Octets and words

Words of sixteen and thirty-two bits as octets, the high octet first, with the laws that reading
takes back what was written.
-/

namespace SplitDns

abbrev Octets := List UInt8

def highOctet (word : UInt16) : UInt8 :=
  UInt8.ofNat (word.toNat / 256)

def lowOctet (word : UInt16) : UInt8 :=
  UInt8.ofNat word.toNat

/-- The word with the given octets. -/
def word16 (high low : UInt8) : UInt16 :=
  UInt16.ofNat (high.toNat * 256 + low.toNat)

/-- The word with the given halves. -/
def word32 (high low : UInt16) : UInt32 :=
  UInt32.ofNat (high.toNat * 65536 + low.toNat)

def highHalf (word : UInt32) : UInt16 :=
  UInt16.ofNat (word.toNat / 65536)

def lowHalf (word : UInt32) : UInt16 :=
  UInt16.ofNat word.toNat

def octets16 (word : UInt16) : Octets :=
  [highOctet word, lowOctet word]

def octets32 (word : UInt32) : Octets :=
  octets16 (highHalf word) ++ octets16 (lowHalf word)

@[simp]
theorem word16_octets (word : UInt16) : word16 (highOctet word) (lowOctet word) = word := by
  apply UInt16.toNat_inj.mp
  have bound := word.toNat_lt
  simp only [word16, highOctet, lowOctet, UInt16.toNat_ofNat', UInt8.toNat_ofNat']
  omega

@[simp]
theorem highOctet_word16 (high low : UInt8) : highOctet (word16 high low) = high := by
  apply UInt8.toNat_inj.mp
  have highBound := high.toNat_lt
  have lowBound := low.toNat_lt
  simp only [word16, highOctet, UInt16.toNat_ofNat', UInt8.toNat_ofNat']
  omega

@[simp]
theorem lowOctet_word16 (high low : UInt8) : lowOctet (word16 high low) = low := by
  apply UInt8.toNat_inj.mp
  have highBound := high.toNat_lt
  have lowBound := low.toNat_lt
  simp only [word16, lowOctet, UInt16.toNat_ofNat', UInt8.toNat_ofNat']
  omega

@[simp]
theorem word32_halves (word : UInt32) : word32 (highHalf word) (lowHalf word) = word := by
  apply UInt32.toNat_inj.mp
  have bound := word.toNat_lt
  simp only [word32, highHalf, lowHalf, UInt16.toNat_ofNat', UInt32.toNat_ofNat']
  omega

@[simp]
theorem highHalf_word32 (high low : UInt16) : highHalf (word32 high low) = high := by
  apply UInt16.toNat_inj.mp
  have highBound := high.toNat_lt
  have lowBound := low.toNat_lt
  simp only [word32, highHalf, UInt32.toNat_ofNat', UInt16.toNat_ofNat']
  omega

@[simp]
theorem lowHalf_word32 (high low : UInt16) : lowHalf (word32 high low) = low := by
  apply UInt16.toNat_inj.mp
  have highBound := high.toNat_lt
  have lowBound := low.toNat_lt
  simp only [word32, lowHalf, UInt32.toNat_ofNat', UInt16.toNat_ofNat']
  omega

@[simp]
theorem length_octets16 (word : UInt16) : (octets16 word).length = 2 := rfl

@[simp]
theorem length_octets32 (word : UInt32) : (octets32 word).length = 4 := rfl

end SplitDns
