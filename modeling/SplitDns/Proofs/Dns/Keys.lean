import Mathlib.Data.List.TakeWhile
import SplitDns.Dns.Name
import SplitDns.Proofs.Text.Trimming

/-!
# Keys of names

The written form of a name has visible characters only, so its key is what is left without the
points at the end, in lower case. `normalizeName_key`: a key is in normal form, and is left alone
by everything that normalizes it again.
-/

namespace SplitDns.Dns

open SplitDns.Text

/-- A character of ASCII that leaves a mark. -/
def isVisible (character : Char) : Bool :=
  0x21 ≤ character.toNat && character.toNat ≤ 0x7E

theorem isBlank_of_isVisible {character : Char} (visible : isVisible character = true) :
    isBlank character = false := by
  simp only [isVisible, Bool.and_eq_true, decide_eq_true_eq] at visible
  refine Bool.eq_false_iff.mpr fun blank => ?_
  simp only [isBlank, Bool.or_eq_true, Bool.and_eq_true, decide_eq_true_eq, beq_iff_eq] at blank
  omega

/-! ### Lower case -/

theorem toNat_toLower (character : Char) :
    character.toLower.toNat =
      if 65 ≤ character.toNat ∧ character.toNat ≤ 90 then character.toNat + 32
      else character.toNat := by
  have upper : (character.val ≥ 'A'.val ∧ character.val ≤ 'Z'.val) ↔
      65 ≤ character.toNat ∧ character.toNat ≤ 90 := Iff.rfl
  unfold Char.toLower
  by_cases letter : 65 ≤ character.toNat ∧ character.toNat ≤ 90
  · rw [dif_pos (upper.mpr letter), if_pos letter]
    have sum : (character.val + ('a'.val - 'A'.val)).toNat =
        (character.toNat + 32) % 2 ^ 32 := UInt32.toNat_add _ _
    have bound : (character.toNat + 32) % 2 ^ 32 = character.toNat + 32 :=
      Nat.mod_eq_of_lt (by omega)
    exact sum.trans bound
  · rw [dif_neg (mt upper.mp letter), if_neg letter]

theorem toLower_toLower (character : Char) : character.toLower.toLower = character.toLower := by
  apply Char.toNat_inj.mp
  rw [toNat_toLower character.toLower]
  refine if_neg ?_
  rw [toNat_toLower]
  split <;> omega

theorem isVisible_toLower {character : Char} (visible : isVisible character = true) :
    isVisible character.toLower = true := by
  simp only [isVisible, Bool.and_eq_true, decide_eq_true_eq, toNat_toLower] at visible ⊢
  split <;> omega

theorem toLower_ne_point {character : Char} (other : character ≠ '.') :
    character.toLower ≠ '.' := by
  intro equal
  apply other
  apply Char.toNat_inj.mp
  have code := congrArg Char.toNat equal
  rw [toNat_toLower] at code
  have point : '.'.toNat = 46 := rfl
  rw [point] at code ⊢
  split at code <;> omega

/-! ### Normal forms -/

/-- A text without blank characters at its ends, points at its end and capital letters. -/
structure NormalChars (text : List Char) : Prop where
  trimmed : trim text = text
  last : ∀ character, text.getLast? = some character → character ≠ '.'
  lower : ∀ character ∈ text, character.toLower = character

theorem asciiLower_eq_self {text : List Char}
    (lower : ∀ character ∈ text, character.toLower = character) : asciiLower text = text :=
  (List.map_congr_left lower).trans (List.map_id text)

theorem normalizeChars_of_normal {text : List Char} (normal : NormalChars text) :
    normalizeChars text = text := by
  have noPoint : dropTrailing (· == '.') text = text := by
    apply dropTrailing_eq_self
    intro character last
    exact beq_false_of_ne (normal.last character last)
  rw [normalizeChars, normal.trimmed, noPoint, asciiLower_eq_self normal.lower]

theorem isBlank_toLower (character : Char) : isBlank character.toLower = isBlank character := by
  have code := toNat_toLower character
  split at code
  next capital =>
    have visible : isVisible character = true := by
      simp only [isVisible, Bool.and_eq_true, decide_eq_true_eq]
      omega
    rw [isBlank_of_isVisible visible, isBlank_of_isVisible (isVisible_toLower visible)]
  next => rw [Char.toNat_inj.mp code]

theorem asciiLower_dropTrailing {test : Char → Bool}
    (same : ∀ character, test character.toLower = test character) (text : List Char) :
    asciiLower (dropTrailing test text) = dropTrailing test (asciiLower text) := by
  have sameTest : test ∘ Char.toLower = test := funext same
  rw [asciiLower, asciiLower, dropTrailing, dropTrailing, ← List.map_reverse, List.dropWhile_map,
    sameTest, List.map_reverse]

theorem asciiLower_dropTrailing_points (text : List Char) :
    asciiLower (dropTrailing (· == '.') text) = dropTrailing (· == '.') (asciiLower text) := by
  apply asciiLower_dropTrailing
  intro character
  by_cases point : character = '.'
  · rw [point]
    rfl
  · exact (beq_false_of_ne (toLower_ne_point point)).trans (beq_false_of_ne point).symm

theorem asciiLower_trim (text : List Char) : asciiLower (trim text) = trim (asciiLower text) := by
  have sameTest : isBlank ∘ Char.toLower = isBlank := funext isBlank_toLower
  have left : asciiLower (trimLeft text) = trimLeft (asciiLower text) := by
    rw [asciiLower, asciiLower, trimLeft, trimLeft, List.dropWhile_map, sameTest]
  rw [trim, trim, trimRight, trimRight, asciiLower_dropTrailing isBlank_toLower, left]

/-- Letter case does not matter for what is trimmed. -/
theorem normalizeChars_eq (text : List Char) :
    normalizeChars text = dropTrailing (· == '.') (trim (asciiLower text)) := by
  rw [normalizeChars, asciiLower_dropTrailing_points, asciiLower_trim]

theorem length_normalizeChars_le (text : List Char) :
    (normalizeChars text).length ≤ (trim text).length := by
  rw [normalizeChars, asciiLower, List.length_map]
  exact (isPrefixOf_dropTrailing _ _).length_le

theorem sublist_trim (text : List Char) : (trim text).Sublist text := by
  apply (isPrefixOf_dropTrailing isBlank (trimLeft text)).sublist.trans
  exact List.dropWhile_sublist isBlank

/-- Normalizing shortens a text that has something to trim. -/
theorem trim_eq_of_length_le {text : List Char}
    (kept : text.length ≤ (normalizeChars text).length) : trim text = text :=
  (sublist_trim text).eq_of_length_le (kept.trans (length_normalizeChars_le text))

/-- Only blank characters before the points at the end can stand in the way. -/
theorem normal_normalizeChars_iff {text : List Char} :
    NormalChars (normalizeChars text) ↔
      ∀ last, (normalizeChars text).getLast? = some last → isBlank last = false := by
  constructor
  · intro normal last found
    rw [← normal.trimmed] at found
    exact getLast?_dropTrailing found
  · intro solid
    constructor
    case trimmed =>
      apply trim_eq_self _ solid
      intro character first
      rw [normalizeChars, asciiLower, List.head?_map] at first
      obtain ⟨original, begun, rfl⟩ := Option.map_eq_some_iff.mp first
      obtain ⟨rest, joined⟩ := isPrefixOf_dropTrailing (· == '.') (trim text)
      have kept : (trim text).head? = some original := by
        rw [← joined, List.head?_append, begun, Option.some_or]
      rw [isBlank_toLower]
      exact head?_trim kept
    case last =>
      intro character last
      rw [normalizeChars, asciiLower, List.getLast?_map] at last
      obtain ⟨original, kept, rfl⟩ := Option.map_eq_some_iff.mp last
      have noPoint := getLast?_dropTrailing kept
      exact toLower_ne_point (by simpa using noPoint)
    case lower =>
      intro character found
      obtain ⟨original, _, rfl⟩ := List.mem_map.mp found
      exact toLower_toLower original

theorem normal_normalizeChars {text : List Char}
    (solid : ∀ character ∈ text, isVisible character = true) :
    NormalChars (normalizeChars text) := by
  apply normal_normalizeChars_iff.mpr
  intro last found
  obtain ⟨original, kept, rfl⟩ := List.mem_map.mp (List.mem_of_getLast? found)
  have inTrimmed := (isPrefixOf_dropTrailing (· == '.') (trim text)).subset kept
  have inText := (sublist_trim text).subset inTrimmed
  exact isBlank_of_isVisible (isVisible_toLower (solid original inText))

/-! ### Written forms -/

theorem isVisible_octetText (first : Bool) (octet : UInt8) :
    ∀ character ∈ Name.octetText first octet, isVisible character = true := by
  have all : ∀ first, ∀ value : Fin 256,
      (Name.octetText first (UInt8.ofNat value)).all isVisible = true := by
    decide +kernel
  have here := all first ⟨octet.toNat, octet.toNat_lt⟩
  rw [UInt8.ofNat_toNat] at here
  exact List.all_eq_true.mp here

theorem isVisible_toText (name : Name) :
    ∀ character ∈ name.toText, isVisible character = true := by
  intro character found
  have point : isVisible '.' = true := rfl
  unfold Name.toText at found
  split at found
  next =>
    rw [List.mem_singleton.mp found, point]
  next =>
    obtain ⟨label, _, inLabel⟩ := List.mem_flatMap.mp found
    rcases List.mem_append.mp inLabel with inText | atEnd
    · cases label with
      | nil => cases inText
      | cons octet rest =>
          rcases List.mem_append.mp inText with first | later
          · exact isVisible_octetText true octet character first
          · obtain ⟨other, _, inOther⟩ := List.mem_flatMap.mp later
            exact isVisible_octetText false other character inOther
    · rw [List.mem_singleton.mp atEnd, point]

theorem solid_toText (name : Name) : Solid name.toText :=
  fun character found => isBlank_of_isVisible (isVisible_toText name character found)

@[simp]
theorem normalizeName_key (name : Name) : normalizeName name.key = name.key := by
  have normal : NormalChars (normalizeChars name.toText) :=
    normal_normalizeChars (isVisible_toText name)
  rw [normalizeName, Name.key, String.toList_ofList, normalizeChars_of_normal normal]

/-! ### The key of the root -/

theorem octetText_ne_point (octet : UInt8) :
    ∃ character rest, Name.octetText true octet = character :: rest ∧ character ≠ '.' := by
  have all : ∀ value : Fin 256,
      ((Name.octetText true (UInt8.ofNat value)).head?.any (· != '.')) = true := by
    decide +kernel
  have here := all ⟨octet.toNat, octet.toNat_lt⟩
  rw [UInt8.ofNat_toNat] at here
  cases written : Name.octetText true octet with
  | nil =>
      rw [written] at here
      cases here
  | cons character rest =>
      rw [written] at here
      exact ⟨character, rest, rfl, bne_iff_ne.mp here⟩

theorem dropTrailing_ne_nil {test : Char → Bool} {text : List Char} {character : Char}
    (found : character ∈ text) (fails : test character = false) : dropTrailing test text ≠ [] := by
  intro empty
  rw [dropTrailing, List.reverse_eq_nil_iff, List.dropWhile_eq_nil_iff] at empty
  have passes := empty character (List.mem_reverse.mpr found)
  rw [fails] at passes
  cases passes

/-- The points at the end are label ends, and every label begins with something else. -/
theorem key_eq_empty_iff (name : Name) : name.key = "" ↔ name.isRoot = true := by
  constructor
  · intro empty
    rw [Name.isRoot]
    cases labels : name.labels with
    | nil => rfl
    | cons label others =>
        have bounds := name.label_bounds label (labels ▸ List.mem_cons_self)
        cases label with
        | nil => exact absurd bounds.1 (Nat.lt_irrefl 0)
        | cons octet rest =>
            obtain ⟨character, tail, written, other⟩ := octetText_ne_point octet
            have found : character ∈ name.toText := by
              rw [Name.toText, labels]
              simp [Name.labelText, written]
            have kept : dropTrailing (· == '.') (trim name.toText) ≠ [] := by
              apply dropTrailing_ne_nil ((solid_toText name).trim_eq.symm ▸ found)
              exact beq_false_of_ne other
            rw [Name.key, String.ofList_eq_empty_iff, normalizeChars, asciiLower,
              List.map_eq_nil_iff] at empty
            exact absurd empty kept
  · intro root
    have labels : name.labels = [] := List.isEmpty_iff.mp root
    have written : name.toText = ['.'] := by
      rw [Name.toText, labels]
      rfl
    rw [Name.key, written]
    rfl

end SplitDns.Dns
