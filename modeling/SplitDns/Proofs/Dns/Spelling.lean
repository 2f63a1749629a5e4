import Mathlib.Data.List.TakeWhile
import SplitDns.Proofs.AddressMap.Growth
import SplitDns.Proofs.Dns.Keys

/-!
# How names are spelled

An octet is written as one character, as two with a backslash before, or as a backslash and three
octal digits, and its first two characters tell which. So the octets of a label can be taken off its
written form one by one, whatever follows, and only the end of a label is written as a point that
stands alone. A key has lost the points at its end, one of which may belong to an octet; behind two
equal keys the lost points can be put back in either order.
-/

namespace SplitDns.Dns

open SplitDns.Text

/-! ### Octets -/

/-- The forms in which an octet is written. -/
inductive Spelling (octet : UInt8) : List Char → Prop where
  | plain {character : Char} (code : character.toNat = octet.toNat)
      (noPoint : character ≠ '.') (noBackslash : character ≠ '\\') : Spelling octet [character]
  | visible {character : Char} (code : character.toNat = octet.toNat)
      (noDigit : character.isDigit = false) : Spelling octet ['\\', character]
  | octal {high middle low : Char} (digit : high.isDigit = true)
      (value : 64 * (high.toNat - 48) + 8 * (middle.toNat - 48) + (low.toNat - 48) =
        octet.toNat) : Spelling octet ['\\', high, middle, low]

namespace Spelling

variable {left right : UInt8} {leftText rightText leftRest rightRest : List Char}

/-- An octet is taken off the text that begins with it. -/
theorem eq_of_append_eq (leftSpelled : Spelling left leftText)
    (rightSpelled : Spelling right rightText)
    (same : leftText ++ leftRest = rightText ++ rightRest) :
    left = right ∧ leftRest = rightRest := by
  have octets (codes : left.toNat = right.toNat) : left = right := UInt8.toNat_inj.mp codes
  cases leftSpelled with
  | plain leftCode _ leftOther =>
      cases rightSpelled with
      | plain rightCode _ _ =>
          obtain ⟨rfl, rests⟩ := List.cons.inj same
          exact ⟨octets (leftCode.symm.trans rightCode), rests⟩
      | visible => exact absurd (List.cons.inj same).1 leftOther
      | octal => exact absurd (List.cons.inj same).1 leftOther
  | visible leftCode leftNoDigit =>
      cases rightSpelled with
      | plain _ _ rightOther => exact absurd (List.cons.inj same).1.symm rightOther
      | visible rightCode _ =>
          obtain ⟨rfl, rests⟩ := List.cons.inj (List.cons.inj same).2
          exact ⟨octets (leftCode.symm.trans rightCode), rests⟩
      | octal rightDigit =>
          obtain ⟨rfl, _⟩ := List.cons.inj (List.cons.inj same).2
          exact absurd rightDigit (Bool.eq_false_iff.mp leftNoDigit)
  | octal leftDigit leftValue =>
      cases rightSpelled with
      | plain _ _ rightOther => exact absurd (List.cons.inj same).1.symm rightOther
      | visible _ rightNoDigit =>
          obtain ⟨rfl, _⟩ := List.cons.inj (List.cons.inj same).2
          exact absurd leftDigit (Bool.eq_false_iff.mp rightNoDigit)
      | octal _ rightValue =>
          simp only [List.cons_append, List.nil_append, List.cons.injEq, true_and] at same
          obtain ⟨rfl, rfl, rfl, rests⟩ := same
          exact ⟨octets (leftValue.symm.trans rightValue), rests⟩

theorem ne_nil (spelled : Spelling left leftText) : leftText ≠ [] := by
  cases spelled <;> exact List.cons_ne_nil _ _

/-- No octet is written like the end of a label. -/
theorem append_ne_point (spelled : Spelling left leftText) :
    leftText ++ leftRest ≠ '.' :: rightRest := by
  cases spelled with
  | plain _ noPoint _ => exact fun same => noPoint (List.cons.inj same).1
  | visible => exact fun same => absurd (List.cons.inj same).1 (by decide)
  | octal => exact fun same => absurd (List.cons.inj same).1 (by decide)

end Spelling

namespace Name

theorem toNat_ofNat_toNat (octet : UInt8) : (Char.ofNat octet.toNat).toNat = octet.toNat := by
  have bound := octet.toNat_lt
  have valid : octet.toNat.isValidChar := Or.inl (by omega)
  rw [Char.ofNat, dif_pos valid]
  rfl

theorem spelling_octal (octet : UInt8) : Spelling octet ('\\' :: octal octet) := by
  have bound := octet.toNat_lt
  have digit : ∀ value : Fin 8, (Char.ofNat (48 + value)).toNat = 48 + value ∧
      (Char.ofNat (48 + value)).isDigit = true := by
    decide
  have high := digit ⟨octet.toNat / 64 % 8, Nat.mod_lt _ (by decide)⟩
  have middle := digit ⟨octet.toNat / 8 % 8, Nat.mod_lt _ (by decide)⟩
  have low := digit ⟨octet.toNat % 8, Nat.mod_lt _ (by decide)⟩
  apply Spelling.octal high.2
  rw [high.1, middle.1, low.1]
  simp only
  omega

theorem spelling_octetText (first : Bool) (octet : UInt8) :
    Spelling octet (octetText first octet) := by
  have code := toNat_ofNat_toNat octet
  simp only [octetText]
  split
  next plain =>
    apply Spelling.plain code
    · intro point
      rw [point] at plain
      cases first <;> cases plain
    · intro backslash
      rw [backslash] at plain
      cases first <;> cases plain
  next notPlain =>
    split
    next =>
      apply Spelling.visible code
      simp only [Bool.or_eq_true, not_or, Char.isAlphanum] at notPlain
      exact Bool.eq_false_iff.mpr notPlain.1.1.1.2
    next => exact spelling_octal octet

theorem asciiLower_octetText (first : Bool) (octet : UInt8) :
    asciiLower (octetText first octet) = octetText first (lowerOctet octet) := by
  have all : ∀ first, ∀ value : Fin 256, asciiLower (octetText first (UInt8.ofNat value)) =
      octetText first (lowerOctet (UInt8.ofNat value)) := by
    decide +kernel
  have here := all first ⟨octet.toNat, octet.toNat_lt⟩
  rwa [UInt8.ofNat_toNat] at here

/-! ### Labels -/

theorem flatMap_octetText_inj {left right : Octets} {leftRest rightRest : List Char}
    (same : left.flatMap (octetText false) ++ '.' :: leftRest =
      right.flatMap (octetText false) ++ '.' :: rightRest) :
    left = right ∧ leftRest = rightRest := by
  induction left generalizing right with
  | nil =>
      cases right with
      | nil => exact ⟨rfl, (List.cons.inj same).2⟩
      | cons octet rest =>
          rw [List.flatMap_cons, List.append_assoc] at same
          exact absurd same.symm (spelling_octetText false octet).append_ne_point
  | cons octet rest inductionHypothesis =>
      cases right with
      | nil =>
          rw [List.flatMap_cons, List.append_assoc] at same
          exact absurd same (spelling_octetText false octet).append_ne_point
      | cons other others =>
          rw [List.flatMap_cons, List.flatMap_cons, List.append_assoc, List.append_assoc] at same
          obtain ⟨rfl, later⟩ := (spelling_octetText false octet).eq_of_append_eq
            (spelling_octetText false other) same
          obtain ⟨rfl, rests⟩ := inductionHypothesis later
          exact ⟨rfl, rests⟩

theorem labelText_inj {left right : Octets} {leftRest rightRest : List Char}
    (leftFilled : left ≠ []) (rightFilled : right ≠ [])
    (same : labelText left ++ '.' :: leftRest = labelText right ++ '.' :: rightRest) :
    left = right ∧ leftRest = rightRest := by
  obtain ⟨octet, rest, rfl⟩ := List.exists_cons_of_ne_nil leftFilled
  obtain ⟨other, others, rfl⟩ := List.exists_cons_of_ne_nil rightFilled
  rw [labelText, labelText, List.append_assoc, List.append_assoc] at same
  obtain ⟨rfl, later⟩ := (spelling_octetText true octet).eq_of_append_eq
    (spelling_octetText true other) same
  obtain ⟨rfl, rests⟩ := flatMap_octetText_inj later
  exact ⟨rfl, rests⟩

theorem asciiLower_labelText (label : Octets) :
    asciiLower (labelText label) = labelText (label.map lowerOctet) := by
  cases label with
  | nil => rfl
  | cons octet rest =>
      have others : asciiLower (rest.flatMap (octetText false)) =
          (rest.map lowerOctet).flatMap (octetText false) := by
        rw [asciiLower, List.map_flatMap, List.flatMap_map]
        exact congrArg (fun write => rest.flatMap write) (funext (asciiLower_octetText false))
      rw [labelText, List.map_cons, labelText, ← others, ← asciiLower_octetText]
      exact List.map_append

/-! ### Names -/

/-- Labels with a point after each of them. -/
def labelsText (labels : List Octets) : List Char :=
  labels.flatMap fun label => labelText label ++ ['.']

theorem labelsText_cons (label : Octets) (rest : List Octets) (behind : List Char) :
    labelsText (label :: rest) ++ behind =
      labelText label ++ '.' :: (labelsText rest ++ behind) := by
  simp [labelsText]

/-- Points behind labels do not begin another label. -/
theorem labelText_append_ne_points {label : Octets} (filled : label ≠ []) {rest : List Char}
    (count : Nat) : labelText label ++ rest ≠ List.replicate count '.' := by
  obtain ⟨octet, others, rfl⟩ := List.exists_cons_of_ne_nil filled
  rw [labelText, List.append_assoc]
  cases count with
  | zero => exact List.append_ne_nil_of_left_ne_nil (spelling_octetText true octet).ne_nil _
  | succ count => exact (spelling_octetText true octet).append_ne_point

/-- Labels are told apart by their written forms with any points behind them. -/
theorem labels_eq_of_append_points {left right : List Octets} {leftCount rightCount : Nat}
    (leftFilled : ∀ label ∈ left, label ≠ []) (rightFilled : ∀ label ∈ right, label ≠ [])
    (same : labelsText left ++ List.replicate leftCount '.' =
      labelsText right ++ List.replicate rightCount '.') : left = right := by
  induction left generalizing right with
  | nil =>
      cases right with
      | nil => rfl
      | cons label rest =>
          rw [labelsText_cons] at same
          exact absurd same.symm
            (labelText_append_ne_points (rightFilled label List.mem_cons_self) leftCount)
  | cons label rest inductionHypothesis =>
      cases right with
      | nil =>
          rw [labelsText_cons] at same
          exact absurd same
            (labelText_append_ne_points (leftFilled label List.mem_cons_self) rightCount)
      | cons other others =>
          rw [labelsText_cons, labelsText_cons] at same
          obtain ⟨rfl, later⟩ := labelText_inj (leftFilled label List.mem_cons_self)
            (rightFilled other List.mem_cons_self) same
          have equal := inductionHypothesis
            (fun label found => leftFilled label (List.mem_cons_of_mem _ found))
            (fun label found => rightFilled label (List.mem_cons_of_mem _ found)) later
          exact congrArg _ equal

theorem asciiLower_toText (name : Name) : asciiLower name.toText = name.lower.toText := by
  have each (label : Octets) : asciiLower (labelText label ++ ['.']) =
      labelText (label.map lowerOctet) ++ ['.'] := by
    rw [← asciiLower_labelText]
    exact List.map_append
  simp only [toText, lower, lowerLabels, List.isEmpty_map, List.flatMap_map]
  split
  next => rfl
  next =>
    rw [asciiLower, List.map_flatMap]
    exact congrArg (fun write => name.labels.flatMap write) (funext each)

/-- The root alone is written as a point without a label before it. -/
theorem exists_toText_eq (name : Name) :
    ∃ count, name.toText = labelsText name.labels ++ List.replicate count '.' := by
  unfold toText
  split
  next root =>
    refine ⟨1, ?_⟩
    rw [List.isEmpty_iff.mp root]
    rfl
  next => exact ⟨0, (List.append_nil _).symm⟩

end Name

/-! ### Keys -/

theorem exists_dropTrailing_append_points (text : List Char) :
    ∃ count, text = dropTrailing (· == '.') text ++ List.replicate count '.' := by
  have points : ∀ character ∈ text.reverse.takeWhile (· == '.'), character = '.' := by
    intro character found
    simpa using List.mem_takeWhile_imp (p := (· == '.')) found
  refine ⟨(text.reverse.takeWhile (· == '.')).length, ?_⟩
  calc text = (text.reverse.takeWhile (· == '.') ++ text.reverse.dropWhile (· == '.')).reverse := by
        rw [List.takeWhile_append_dropWhile, List.reverse_reverse]
    _ = dropTrailing (· == '.') text ++ (text.reverse.takeWhile (· == '.')).reverse :=
        List.reverse_append
    _ = _ := by
        rw [List.eq_replicate_of_mem points, List.reverse_replicate, List.length_replicate]

namespace Name

variable {left right : Name}

/-- Nothing in a written form is blank, so only the points at its end are taken off. -/
theorem toList_key (name : Name) :
    name.key.toList = dropTrailing (· == '.') name.lower.toText := by
  rw [key, String.toList_ofList, normalizeChars, (solid_toText name).trim_eq,
    asciiLower_dropTrailing_points, asciiLower_toText]

theorem exists_labelsText_append_points (name : Name) :
    ∃ lost written, labelsText name.lowerLabels ++ List.replicate written '.' =
      name.key.toList ++ List.replicate lost '.' := by
  obtain ⟨written, whole⟩ := exists_toText_eq name.lower
  obtain ⟨lost, kept⟩ := exists_dropTrailing_append_points name.lower.toText
  refine ⟨lost, written, ?_⟩
  rw [toList_key, ← kept, whole]
  rfl

theorem filled_lowerLabels (name : Name) : ∀ label ∈ name.lowerLabels, label ≠ [] := by
  intro label found
  exact List.ne_nil_of_length_pos (name.lower.label_bounds label found).1

theorem lowerLabels_eq_of_key_eq (same : left.key = right.key) :
    left.lowerLabels = right.lowerLabels := by
  obtain ⟨leftLost, leftWritten, leftWhole⟩ := exists_labelsText_append_points left
  obtain ⟨rightLost, rightWritten, rightWhole⟩ := exists_labelsText_append_points right
  -- Both are the common key with the points that either name has lost.
  have whole : labelsText left.lowerLabels ++ List.replicate (leftWritten + rightLost) '.' =
      labelsText right.lowerLabels ++ List.replicate (rightWritten + leftLost) '.' :=
    calc _ = left.key.toList ++ List.replicate (leftLost + rightLost) '.' := by
          rw [← List.replicate_append_replicate, ← List.append_assoc, leftWhole,
            List.append_assoc, List.replicate_append_replicate]
      _ = right.key.toList ++ List.replicate (rightLost + leftLost) '.' := by
          rw [same, Nat.add_comm]
      _ = _ := by
          rw [← List.replicate_append_replicate, ← List.append_assoc, ← rightWhole,
            List.append_assoc, List.replicate_append_replicate]
  exact labels_eq_of_append_points (filled_lowerLabels left) (filled_lowerLabels right) whole

theorem key_eq_of_lowerLabels_eq (same : left.lowerLabels = right.lowerLabels) :
    left.key = right.key := by
  have lowered : left.lower = right.lower := Name.ext same
  apply String.toList_inj.mp
  rw [toList_key, toList_key, lowered]

/--
Two names have one key exactly if their labels differ in the case of ASCII letters only, and a key
is its own normal form. So an address that is recorded under one name is found under another one
exactly if both are the same name.
-/
theorem key_separates_names (left right : Name) :
    (left.key = right.key ↔ left.lowerLabels = right.lowerLabels) ∧
    normalizeName left.key = left.key ∧
    ∀ (map : AddressMap) (address text : String),
      (map.insert left.key address).2.knows right.key text = true ↔
        map.knows right.key text = true ∨
          left.isRoot = false ∧ left.lowerLabels = right.lowerLabels ∧
            text = AddressMap.trimText address ∧ text ≠ "" := by
  have separated : left.key = right.key ↔ left.lowerLabels = right.lowerLabels :=
    ⟨lowerLabels_eq_of_key_eq, key_eq_of_lowerLabels_eq⟩
  refine ⟨separated, normalizeName_key left, ?_⟩
  intro map address text
  have storable : AddressMap.isStorable left.key address = true ↔
      left.isRoot = false ∧ AddressMap.trimText address ≠ "" := by
    rw [AddressMap.isStorable_iff, normalizeName_key, Ne, key_eq_empty_iff, Bool.not_eq_true]
  rw [AddressMap.knows_insert, storable, normalizeName_key, eq_comm (b := left.key), separated]
  constructor
  · rintro (known | ⟨⟨named, filled⟩, sameLabels, rfl⟩)
    · exact .inl known
    · exact .inr ⟨named, sameLabels, rfl, filled⟩
  · rintro (known | ⟨named, sameLabels, rfl, filled⟩)
    · exact .inl known
    · exact .inr ⟨⟨named, filled⟩, sameLabels, rfl⟩

/-- A label that ends in a point loses its point and keeps the escape before it. -/
example : (ofLabels? [[0x41, 0x2E]]).map key = some "a\\" := by decide +kernel

end Name

end SplitDns.Dns
