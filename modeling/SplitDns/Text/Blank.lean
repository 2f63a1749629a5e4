/-!
# Blank space

The characters with the Unicode property `White_Space`, the control characters, and trimming.
Trimming is stated on lists of characters; `trim_eq_self` says when it leaves a text alone.
-/

namespace SplitDns.Text

/-- The Unicode property `White_Space`. -/
def isBlank (character : Char) : Bool :=
  let code := character.toNat
  (9 ≤ code && code ≤ 13) || code == 0x20 || code == 0x85 || code == 0xA0 || code == 0x1680 ||
    (0x2000 ≤ code && code ≤ 0x200A) || code == 0x2028 || code == 0x2029 || code == 0x202F ||
    code == 0x205F || code == 0x3000

theorem isBlank_of_isWhitespace {character : Char} (blank : character.isWhitespace = true) :
    isBlank character = true := by
  simp only [Char.isWhitespace, Bool.or_eq_true, decide_eq_true_eq] at blank
  rcases blank with ((rfl | rfl) | rfl) | rfl <;> decide

/-- The general category `Cc`. -/
def isControl (character : Char) : Bool :=
  let code := character.toNat
  code < 0x20 || (0x7F ≤ code && code < 0xA0)

/-- Removes blank characters from the start. -/
def trimLeft (text : List Char) : List Char :=
  text.dropWhile isBlank

/-- Removes characters that pass a test from the end. -/
def dropTrailing (test : Char → Bool) (text : List Char) : List Char :=
  (text.reverse.dropWhile test).reverse

/-- Removes blank characters from the end. -/
def trimRight (text : List Char) : List Char :=
  dropTrailing isBlank text

/-- Removes blank characters from both ends. -/
def trim (text : List Char) : List Char :=
  trimRight (trimLeft text)

@[simp]
theorem trim_nil : trim [] = [] := rfl

theorem dropTrailing_eq_self {test : Char → Bool} {text : List Char}
    (last : ∀ character, text.getLast? = some character → test character = false) :
    dropTrailing test text = text := by
  cases reversed : text.reverse with
  | nil =>
      have empty : text = [] := by simpa using reversed
      simp [dropTrailing, empty]
  | cons head tail =>
      have found : text.getLast? = some head := by
        rw [← List.head?_reverse, reversed]
        rfl
      rw [dropTrailing, reversed, List.dropWhile_cons_of_neg (by simp [last head found]),
        ← reversed, List.reverse_reverse]

theorem trimLeft_eq_self {text : List Char}
    (first : ∀ character, text.head? = some character → isBlank character = false) :
    trimLeft text = text := by
  cases text with
  | nil => rfl
  | cons head tail => exact List.dropWhile_cons_of_neg (by simp [first head rfl])

/-- A text with no blank character at either end is left alone. -/
theorem trim_eq_self {text : List Char}
    (first : ∀ character, text.head? = some character → isBlank character = false)
    (last : ∀ character, text.getLast? = some character → isBlank character = false) :
    trim text = text := by
  rw [trim, trimLeft_eq_self first]
  exact dropTrailing_eq_self last

/-! ### Trimming twice -/

theorem isPrefixOf_dropTrailing (test : Char → Bool) (text : List Char) :
    dropTrailing test text <+: text := by
  rw [dropTrailing, ← List.reverse_suffix, List.reverse_reverse]
  exact List.dropWhile_suffix test

theorem getLast?_dropTrailing {test : Char → Bool} {text : List Char} {character : Char}
    (last : (dropTrailing test text).getLast? = some character) : test character = false := by
  rw [dropTrailing, List.getLast?_reverse] at last
  have kept := List.head?_dropWhile_not test text.reverse
  rw [last] at kept
  simpa using kept

theorem head?_trimLeft {text : List Char} {character : Char}
    (first : (trimLeft text).head? = some character) : isBlank character = false := by
  have kept := List.head?_dropWhile_not isBlank text
  rw [trimLeft] at first
  rw [first] at kept
  simpa using kept

theorem head?_trim {text : List Char} {character : Char}
    (first : (trim text).head? = some character) : isBlank character = false := by
  have cut : trim text <+: trimLeft text := isPrefixOf_dropTrailing isBlank (trimLeft text)
  obtain ⟨rest, joined⟩ := cut
  have begun : (trimLeft text).head? = some character := by
    rw [← joined, List.head?_append, first, Option.some_or]
  exact head?_trimLeft begun

theorem getLast?_trim {text : List Char} {character : Char}
    (last : (trim text).getLast? = some character) : isBlank character = false :=
  getLast?_dropTrailing last

theorem trim_trim (text : List Char) : trim (trim text) = trim text :=
  trim_eq_self (fun _ first => head?_trim first) fun _ last => getLast?_trim last

/-- The words of a text: its longest parts without blank characters. -/
def words : List Char → List (List Char) :=
  fun text => (text.splitOnP isBlank).filter (fun word => !word.isEmpty)

end SplitDns.Text
