import SplitDns.Address.Ip
import SplitDns.Proofs.Outcome
import SplitDns.Proofs.Text.Cutting
import SplitDns.Proofs.Text.Digits
import SplitDns.Proofs.Text.Trimming

/-!
# Written addresses

Addresses are written with digits, points and colons. The dotted form of an address is read back as
the address, so different addresses are written differently; no text with a colon in it is read as
one.
-/

namespace SplitDns.Address

open SplitDns.Text

/-- The characters of written addresses. -/
def IsWritten (character : Char) : Prop :=
  (hexDigit? character).isSome = true ∨ character = '.' ∨ character = ':'

instance : DecidablePred IsWritten :=
  fun _ => inferInstanceAs (Decidable (_ ∨ _ ∨ _))

theorem isBlank_of_isWritten {character : Char} (written : IsWritten character) :
    isBlank character = false := by
  rcases written with digit | rfl | rfl
  · have bounds := hexDigit?_bounds digit
    refine Bool.eq_false_iff.mpr fun blank => ?_
    simp only [isBlank, Bool.or_eq_true, Bool.and_eq_true, decide_eq_true_eq, beq_iff_eq] at blank
    omega
  · rfl
  · rfl

theorem solid_of_isWritten {text : List Char}
    (written : ∀ character ∈ text, IsWritten character) : Solid text :=
  fun character found => isBlank_of_isWritten (written character found)

namespace Ipv4

theorem octet?_digits (octet : UInt8) : octet? (digitsOf 10 octet.toNat) = some octet := by
  have all : ∀ value : Fin 256,
      octet? (digitsOf 10 (UInt8.ofNat value).toNat) = some (UInt8.ofNat value) := by
    decide +kernel
  have here := all ⟨octet.toNat, octet.toNat_lt⟩
  rwa [UInt8.ofNat_toNat] at here

/-- The dotted form is read back. -/
@[simp]
theorem parse?_toText (address : Ipv4) : parse? address.toText = some address := by
  have parts : split '.' address.toText =
      address.octets.map fun octet => digitsOf 10 octet.toNat := by
    apply split_join
    · exact List.cons_ne_nil _ _
    · intro part found
      obtain ⟨octet, _, rfl⟩ := List.mem_map.mp found
      exact not_mem_digitsOf rfl octet.toNat
  rw [parse?, parts]
  simp [octets, octet?_digits]

section

variable {text : List Char} {address : Ipv4}

theorem isSome_of_octet? {part : List Char} {octet : UInt8} (read : octet? part = some octet) :
    ∀ character ∈ part, (hexDigit? character).isSome = true := by
  intro character found
  rw [octet?] at read
  split at read
  · obtain ⟨value, digits, _⟩ := Option.map_eq_some_iff.mp read
    exact hexDigit?_of_isDigit ((digits?_eq_some_iff.mp digits).1.digits character found)
  · cases read

theorem exists_of_parse? (parsed : parse? text = some address) :
    ∃ octets, (split '.' text).mapM octet? = some octets ∧ octets.length = 4 := by
  rw [parse?] at parsed
  split at parsed
  next a b c d read => exact ⟨[a, b, c, d], read, rfl⟩
  next => cases parsed

/-- The dotted form has digits and points only. -/
theorem isSome_of_parse? (parsed : parse? text = some address) {character : Char}
    (found : character ∈ text) : (hexDigit? character).isSome = true ∨ character = '.' := by
  obtain ⟨octets, read, _⟩ := exists_of_parse? parsed
  rcases mem_of_mem_split '.' found with point | ⟨part, inText, inPart⟩
  · exact .inr point
  · obtain ⟨octet, octetRead⟩ := Option.isSome_iff_exists.mp (isSome_of_mapM read part inText)
    exact .inl (isSome_of_octet? octetRead character inPart)

theorem parse?_of_not_mem (free : '.' ∉ text) : parse? text = none := by
  rw [parse?, split_of_not_mem free]
  cases read : octet? text <;> simp [read]

theorem parse?_of_colon (found : ':' ∈ text) : parse? text = none := by
  cases parsed : parse? text with
  | none => rfl
  | some address =>
      rcases isSome_of_parse? parsed found with digit | point
      · cases digit
      · cases point

theorem not_mem_of_parse? (parsed : parse? text = some address) : ':' ∉ text := by
  intro found
  rw [parse?_of_colon found] at parsed
  cases parsed

end

theorem solid_toText (address : Ipv4) : Solid address.toText :=
  solid_of_isWritten fun _ found =>
    (isSome_of_parse? (parse?_toText address) found).imp_right .inl

end Ipv4

theorem Ip.parse?_text_v4 (address : Ipv4) :
    Ip.parse? (Ip.v4 address).text.toList = some (.v4 address) := by
  rw [Ip.parse?, Ip.text, String.toList_ofList, Ip.toText, Ipv4.parse?_toText]

end SplitDns.Address
