/-!
# UTF-8

Texts as octets. Reading is strict, or replaces every malformed part by U+FFFD, where a part is
the longest beginning of a character's encoding that stands there, and at least one octet.
-/

namespace SplitDns.Text

def utf8 (text : String) : ByteArray :=
  text.toUTF8

/-- The text of well-formed octets. -/
def ofUtf8? (octets : ByteArray) : Option String :=
  String.fromUTF8? octets

theorem ofUtf8?_utf8 (text : String) : ofUtf8? (utf8 text) = some text := by
  simp only [ofUtf8?, utf8, String.fromUTF8?, String.toUTF8_eq_toByteArray,
    Option.dite_none_right_eq_some]
  exact ⟨text.isValidUTF8, rfl⟩

/-- The octets that may follow a leading octet as the second one. -/
def secondRange (lead : UInt8) : UInt8 × UInt8 :=
  if lead == 0xE0 then (0xA0, 0xBF)
  else if lead == 0xED then (0x80, 0x9F)
  else if lead == 0xF0 then (0x90, 0xBF)
  else if lead == 0xF4 then (0x80, 0x8F)
  else (0x80, 0xBF)

/-- The number of octets that follow a leading octet, for octets that lead a character. -/
def followers? (lead : UInt8) : Option Nat :=
  if lead < 0x80 then some 0
  else if 0xC2 ≤ lead && lead ≤ 0xDF then some 1
  else if 0xE0 ≤ lead && lead ≤ 0xEF then some 2
  else if 0xF0 ≤ lead && lead ≤ 0xF4 then some 3
  else none

/-- The octets that continue the character led by `lead`, as many as stand there. -/
def continuation (lead : UInt8) (octets : List UInt8) : List UInt8 :=
  match followers? lead with
  | none => []
  | some count =>
      match octets.take count with
      | [] => []
      | second :: others =>
          if (secondRange lead).1 ≤ second && second ≤ (secondRange lead).2 then
            second :: others.takeWhile (fun octet => 0x80 ≤ octet && octet ≤ 0xBF)
          else []

/-- The character with the given encoding. -/
def scalar : List UInt8 → Char
  | [a] => Char.ofNat a.toNat
  | [a, b] => Char.ofNat ((a.toNat - 0xC0) * 64 + (b.toNat - 0x80))
  | [a, b, c] => Char.ofNat (((a.toNat - 0xE0) * 64 + (b.toNat - 0x80)) * 64 + (c.toNat - 0x80))
  | [a, b, c, d] =>
      Char.ofNat ((((a.toNat - 0xF0) * 64 + (b.toNat - 0x80)) * 64 + (c.toNat - 0x80)) * 64 +
        (d.toNat - 0x80))
  | _ => Char.ofNat 0xFFFD

/-- The text of any octets, with U+FFFD for every malformed part. -/
def lossyUtf8 : List UInt8 → List Char
  | [] => []
  | lead :: rest =>
      let others := continuation lead rest
      let character :=
        if followers? lead = some others.length then scalar (lead :: others)
        else Char.ofNat 0xFFFD
      character :: lossyUtf8 (rest.drop others.length)
  termination_by octets => octets.length
  decreasing_by simp only [List.length_drop, List.length_cons]; omega

end SplitDns.Text
