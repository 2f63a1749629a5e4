import SplitDns.Text.Blank

/-!
# Trimming solid texts

A text without blank space is its own trimmed form, and blank space on both sides of it is all that
trimming takes off.
-/

namespace SplitDns.Text

/-- A text without blank space in it. -/
def Solid (text : List Char) : Prop :=
  ∀ character ∈ text, isBlank character = false

theorem solid_nil : Solid [] :=
  List.forall_mem_nil _

theorem solid_append {front back : List Char} :
    Solid (front ++ back) ↔ Solid front ∧ Solid back :=
  List.forall_mem_append

theorem solid_cons {character : Char} {rest : List Char} :
    Solid (character :: rest) ↔ isBlank character = false ∧ Solid rest :=
  List.forall_mem_cons

theorem Solid.trim_eq {text : List Char} (solid : Solid text) : trim text = text :=
  trim_eq_self (fun character first => solid character (List.mem_of_head? first))
    fun character last => solid character (List.mem_of_getLast? last)

theorem trim_padded {before text after : List Char} (filled : text ≠ []) (solid : Solid text)
    (blankBefore : ∀ character ∈ before, isBlank character = true)
    (blankAfter : ∀ character ∈ after, isBlank character = true) :
    trim (before ++ text ++ after) = text := by
  obtain ⟨first, rest, rfl⟩ := List.exists_cons_of_ne_nil filled
  have left : trimLeft (before ++ first :: rest ++ after) = first :: rest ++ after := by
    rw [trimLeft, List.append_assoc, List.dropWhile_append_of_pos blankBefore, List.cons_append,
      List.dropWhile_cons_of_neg (by simp [solid first List.mem_cons_self])]
  have trimmed : trimRight (first :: rest) = first :: rest :=
    dropTrailing_eq_self fun character last => solid character (List.mem_of_getLast? last)
  have blank : ∀ character ∈ after.reverse, isBlank character = true :=
    fun character found => blankAfter character (List.mem_reverse.mp found)
  rw [trim, left, trimRight, dropTrailing, List.reverse_append,
    List.dropWhile_append_of_pos blank]
  exact trimmed

end SplitDns.Text
