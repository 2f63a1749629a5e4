import SplitDns.Octets
import SplitDns.Text.Blank
import SplitDns.Text.LowerCase

/-!
# Domain names

A name is its list of labels, most specific first. Its wire form takes at most 255 octets and a
label at most 63. The written form escapes every octet that is not plain, so that the points in
it that stand alone are exactly the label ends. `normalizeName` is the form in which names are
compared, recorded and classified.
-/

namespace SplitDns.Dns

open SplitDns.Text

/-- The octets that a list of labels takes on the wire without compression. -/
def wireSize (labels : List Octets) : Nat :=
  labels.foldr (fun label size => label.length + 1 + size) 0 + 1

structure Name where
  labels : List Octets
  label_bounds : ∀ label ∈ labels, 0 < label.length ∧ label.length ≤ 63
  size_le : wireSize labels ≤ 255

instance : DecidableEq Name := fun left right =>
  if equal : left.labels = right.labels then
    isTrue (by cases left; cases right; simp_all)
  else
    isFalse fun same => equal (congrArg Name.labels same)

namespace Name

@[ext]
theorem ext {left right : Name} (equal : left.labels = right.labels) : left = right := by
  cases left
  cases right
  simp_all

/-- The name with the given labels, if they are in bounds. -/
def ofLabels? (labels : List Octets) : Option Name :=
  if bounds : (∀ label ∈ labels, 0 < label.length ∧ label.length ≤ 63) ∧ wireSize labels ≤ 255 then
    some ⟨labels, bounds.1, bounds.2⟩
  else
    none

theorem ofLabels?_labels (name : Name) : ofLabels? name.labels = some name := by
  rw [ofLabels?, dif_pos ⟨name.label_bounds, name.size_le⟩]

theorem labels_of_ofLabels? {labels : List Octets} {name : Name}
    (found : ofLabels? labels = some name) : name.labels = labels := by
  unfold ofLabels? at found
  split at found
  · simp only [Option.some.injEq] at found
    rw [← found]
  · cases found

/-- The name without labels. -/
def root : Name :=
  ⟨[], by simp, by simp [wireSize]⟩

def isRoot (name : Name) : Bool :=
  name.labels.isEmpty

def lowerOctet (octet : UInt8) : UInt8 :=
  if 65 ≤ octet.toNat && octet.toNat ≤ 90 then octet + 32 else octet

/-- The labels with the letters A to Z in lower case. -/
def lowerLabels (name : Name) : List Octets :=
  name.labels.map (·.map lowerOctet)

/-- The name with the letters A to Z in lower case. -/
def lower (name : Name) : Name where
  labels := name.lowerLabels
  label_bounds := by
    intro label found
    obtain ⟨label, inName, rfl⟩ := List.mem_map.mp found
    simpa using name.label_bounds label inName
  size_le := by
    have same : wireSize name.lowerLabels = wireSize name.labels := by
      simp [wireSize, lowerLabels, List.foldr_map]
    rw [same]
    exact name.size_le

def octal (octet : UInt8) : List Char :=
  let digit (value : Nat) : Char := Char.ofNat (48 + value % 8)
  [digit (octet.toNat / 64), digit (octet.toNat / 8), digit octet.toNat]

/--
The written form of one octet. Letters, digits and underscores are plain everywhere, a hyphen is
plain unless it is first in its label, and an asterisk only if it is. Other visible characters
have a backslash before them, and all else is a backslash and three octal digits.
-/
def octetText (first : Bool) (octet : UInt8) : List Char :=
  let character := Char.ofNat octet.toNat
  if character.isAlphanum || character == '_' || (character == '-' && !first) ||
      (character == '*' && first) then
    [character]
  else if 0x21 ≤ octet.toNat && octet.toNat ≤ 0x7E then
    ['\\', character]
  else
    '\\' :: octal octet

def labelText : Octets → List Char
  | [] => []
  | octet :: rest => octetText true octet ++ rest.flatMap (octetText false)

/-- The written form, with a point after every label; the root is a single point. -/
def toText (name : Name) : List Char :=
  if name.labels.isEmpty then ['.'] else name.labels.flatMap fun label => labelText label ++ ['.']

def text (name : Name) : String :=
  String.ofList name.toText

end Name

/-- Removes blank space around a name and all points at its end, and lower-cases A to Z. -/
def normalizeChars (text : List Char) : List Char :=
  asciiLower (dropTrailing (· == '.') (trim text))

def normalizeName (text : String) : String :=
  String.ofList (normalizeChars text.toList)

/-- The normalized written form of a name. -/
def Name.key (name : Name) : String :=
  String.ofList (normalizeChars name.toText)

end SplitDns.Dns
