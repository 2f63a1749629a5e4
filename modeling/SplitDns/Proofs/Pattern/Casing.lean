import SplitDns.Proofs.Dns.Keys
import SplitDns.Proofs.Pattern.Rereading
import SplitDns.Proofs.Text.Cutting
import SplitDns.Proofs.Text.LowerCase
import SplitDns.Proofs.Text.Searching

/-!
# Routes and letter case

Patterns are in full lower case, and of a name only the letters A to Z are lower-cased. So a pattern
stands in the parts of a name between the characters that full lower case changes, and these parts
are what the routes of a name depend on. `routedAlike_iff_pieces` says when all stores route two
spellings alike.
-/

namespace SplitDns.Pattern

open SplitDns.Dns
open SplitDns.Text

variable {text line pattern part piece : List Char}

/-! ### Patterns that files can hold -/

/-- A text that can be read from a file as a pattern. -/
structure Legible (pattern : List Char) : Prop where
  first : ∃ character, pattern.head? = some character ∧ isBlank character = false ∧
    character ≠ '#'
  last : ∃ character, pattern.getLast? = some character ∧ isBlank character = false
  lower : ∀ character ∈ pattern, IsLower character
  noFeed : '\n' ∉ pattern

theorem Legible.filled (legible : Legible pattern) : pattern ≠ [] := by
  obtain ⟨character, first, _⟩ := legible.first
  rintro rfl
  cases first

theorem Legible.ofLine?_eq (legible : Legible pattern) : ofLine? pattern = some pattern := by
  obtain ⟨first, begins, solid, noSign⟩ := legible.first
  obtain ⟨last, ends, solidEnd⟩ := legible.last
  have trimmed : trim pattern = pattern := by
    apply trim_eq_self
    · intro character found
      rw [begins] at found
      cases found
      exact solid
    · intro character found
      rw [ends] at found
      cases found
      exact solidEnd
  rw [ofLine?, trimmed]
  split
  · exact absurd rfl legible.filled
  · cases begins
    exact absurd rfl noSign
  · exact congrArg some (lowerFrom_eq_self legible.lower [])

theorem Legible.parseChars_eq (legible : Legible pattern) : parseChars pattern = [pattern] :=
  parseChars_of_ofLine? legible.noFeed legible.ofLine?_eq

theorem legible_of_ofLine? (noFeed : '\n' ∉ line) (held : ofLine? line = some pattern) :
    Legible pattern := by
  unfold ofLine? at held
  split at held
  · cases held
  · cases held
  next filled noComment =>
    cases held
    have loweredFilled : lowerCase (trim line) ≠ [] := mt lowerCase_eq_nil_iff.mp filled
    constructor
    case first =>
      have begins := List.head?_eq_some_head loweredFilled
      refine ⟨_, begins, ?_, ?_⟩
      · refine Bool.eq_false_iff.mpr fun blank => ?_
        rw [head?_trim (head?_of_head?_lowerFrom (.inr blank) begins)] at blank
        cases blank
      · intro sign
        rw [sign] at begins
        obtain ⟨rest, comment⟩ :=
          List.head?_eq_some_iff.mp (head?_of_head?_lowerFrom (by decide) begins)
        exact noComment rest comment
    case last =>
      have ends := List.getLast?_eq_some_getLast loweredFilled
      refine ⟨_, ends, Bool.eq_false_iff.mpr fun blank => ?_⟩
      rw [getLast?_trim (getLast?_of_getLast?_lowerFrom (.inr blank) ends)] at blank
      cases blank
    case lower => exact fun _ found => isLower_of_mem_lowerFrom found
    case noFeed =>
      intro found
      exact noFeed ((sublist_trim line).subset (mem_of_mem_lowerFrom (by decide) found))

theorem legible_of_mem_parseChars (found : pattern ∈ parseChars text) : Legible pattern := by
  obtain ⟨line, inLines, held⟩ := mem_parseChars.mp found
  exact legible_of_ofLine? (not_mem_of_mem_lines inLines) held

/-! ### Pieces of a text -/

/-- The text with a line end for every character that lower-casing changes. -/
def masked (text : List Char) : List Char :=
  text.map fun character => if IsLower character then character else '\n'

/-- A part without what no pattern can begin and end with. -/
def bare (part : List Char) : List Char :=
  dropTrailing isBlank (part.dropWhile fun character => isBlank character || character == '#')

/-- The largest patterns that stand in a text. -/
def pieces (text : List Char) : List (List Char) :=
  ((split '\n' (masked text)).map bare).filter (· ≠ [])

theorem masked_eq_self (lower : ∀ character ∈ text, IsLower character) : masked text = text :=
  (List.map_congr_left fun character found => if_pos (lower character found)).trans
    (List.map_id text)

theorem Legible.infix_masked_iff (legible : Legible pattern) (text : List Char) :
    pattern <:+: masked text ↔ pattern <:+: text := by
  constructor
  · intro stands
    obtain ⟨original, inText, shown⟩ := List.infix_map_iff.mp stands
    have lower : ∀ character ∈ original, IsLower character := by
      intro character found
      apply Classical.byContradiction
      intro changed
      apply legible.noFeed
      rw [shown]
      exact List.mem_map.mpr ⟨character, found, if_neg changed⟩
    rw [← masked, masked_eq_self lower] at shown
    rwa [shown]
  · intro stands
    rw [← masked_eq_self legible.lower]
    exact stands.map _

theorem Legible.infix_bare_iff (legible : Legible pattern) (part : List Char) :
    pattern <:+: bare part ↔ pattern <:+: part := by
  obtain ⟨first, begins, solid, noSign⟩ := legible.first
  have kept : (isBlank first || first == '#') = false := by
    rw [solid, beq_false_of_ne noSign]
    rfl
  rw [bare, infix_dropTrailing_iff legible.last, infix_dropWhile_iff ⟨first, begins, kept⟩]

/-- A pattern stands in a text if it stands in a piece of it. -/
theorem Legible.infix_iff_exists_piece (legible : Legible pattern) (text : List Char) :
    pattern <:+: text ↔ ∃ piece ∈ pieces text, pattern <:+: piece := by
  rw [← legible.infix_masked_iff, infix_iff_exists_split legible.noFeed]
  constructor
  · rintro ⟨part, inParts, stands⟩
    rw [← legible.infix_bare_iff] at stands
    refine ⟨bare part, List.mem_filter.mpr ⟨List.mem_map_of_mem inParts, ?_⟩, stands⟩
    refine decide_eq_true fun empty => legible.filled ?_
    rwa [empty, List.infix_nil] at stands
  · rintro ⟨piece, inPieces, stands⟩
    obtain ⟨part, inParts, rfl⟩ := List.mem_map.mp (List.mem_filter.mp inPieces).1
    exact ⟨part, inParts, (legible.infix_bare_iff part).mp stands⟩

theorem legible_of_mem_pieces (found : piece ∈ pieces text) : Legible piece := by
  obtain ⟨mapped, filled⟩ := List.mem_filter.mp found
  obtain ⟨part, inParts, rfl⟩ := List.mem_map.mp mapped
  have filled : bare part ≠ [] := of_decide_eq_true filled
  have front := isPrefixOf_dropTrailing isBlank
    (part.dropWhile fun character => isBlank character || character == '#')
  have noFeed := not_mem_of_mem_split inParts
  have inPart : bare part ⊆ part :=
    List.Subset.trans front.subset (List.dropWhile_sublist _).subset
  have inMasked : part ⊆ masked text :=
    ((infix_iff_exists_split noFeed (masked text)).mpr ⟨part, inParts, List.infix_rfl⟩).subset
  constructor
  case first =>
    obtain ⟨rest, whole⟩ := front
    have begins := List.head?_eq_some_head filled
    have kept := List.head?_dropWhile_not
      (fun character => isBlank character || character == '#') part
    rw [← whole, List.head?_append, ← bare, begins] at kept
    simp only [Option.some_or, Bool.or_eq_false_iff] at kept
    exact ⟨_, begins, kept.1, ne_of_beq_false kept.2⟩
  case last =>
    exact ⟨_, List.getLast?_eq_some_getLast filled,
      getLast?_dropTrailing (List.getLast?_eq_some_getLast filled)⟩
  case lower =>
    intro character inBare
    obtain ⟨original, _, shown⟩ := List.mem_map.mp (inMasked (inPart inBare))
    split at shown
    next lower => exact shown ▸ lower
    next => exact absurd (shown ▸ inPart inBare) noFeed
  case noFeed => exact fun inBare => noFeed (inPart inBare)

theorem infix_of_mem_pieces (found : piece ∈ pieces text) : piece <:+: text :=
  ((legible_of_mem_pieces found).infix_iff_exists_piece text).mpr ⟨piece, found, List.infix_rfl⟩

theorem forall_piece_infix_iff {other : List Char} :
    (∀ piece ∈ pieces text, piece <:+: other) ↔
      ∀ pattern, Legible pattern → pattern <:+: text → pattern <:+: other := by
  constructor
  · intro inOther pattern legible stands
    obtain ⟨piece, found, inPiece⟩ := (legible.infix_iff_exists_piece text).mp stands
    exact inPiece.trans (inOther piece found)
  · intro carried piece found
    exact carried piece (legible_of_mem_pieces found) (infix_of_mem_pieces found)

/-! ### Routes -/

namespace Store

variable {left right : String}

theorem legible_rereadAll {sources : List (String × String)} {readings : List Reading}
    {index : Nat} {pattern : String}
    (found : pattern ∈ ((new sources).rereadAll readings).patterns index) :
    Legible pattern.toList := by
  obtain ⟨text, inText⟩ := exists_parse_of_mem_patterns found
  exact legible_of_mem_parseChars (mem_parse.mp inText)

theorem isFirst_classify_rereadAll (sources : List (String × String)) (readings : List Reading)
    (name : String) :
    (((new sources).rereadAll readings).classify name).IsFirst
      (((new sources).rereadAll readings).Matches name) :=
  isFirst_classify (filled_rereadAll sources readings) name

/--
Every store routes the names alike, whatever was read for its classes and whenever that was; a
reload is one reading for each class.
-/
def RoutedAlike (left right : String) : Prop :=
  ∀ (sources : List (String × String)) (readings : List Reading),
    ((new sources).rereadAll readings).classify left =
      ((new sources).rereadAll readings).classify right

/-- A store with a single pattern tells the names that contain it. -/
theorem classify_single (legible : Legible pattern) (name : String) :
    ((new [("proxied", "patterns")]).rereadAll [⟨0, .ok (String.ofList pattern)⟩]).classify name =
      .proxied 0 ↔ pattern <:+: normalizeChars name.toList := by
  rw [(isFirst_classify_rereadAll _ _ name).eq_proxied_iff]
  have patterns : ((new [("proxied", "patterns")]).rereadAll
      [⟨0, .ok (String.ofList pattern)⟩]).patterns 0 = [String.ofList pattern] := by
    rw [patterns_new_rereadAll]
    change parse (String.ofList pattern) = _
    rw [parse, String.toList_ofList, legible.parseChars_eq]
    rfl
  simp [matches_iff, patterns]

theorem routedAlike_iff_legible : RoutedAlike left right ↔
    ∀ pattern, Legible pattern →
      (pattern <:+: normalizeChars left.toList ↔ pattern <:+: normalizeChars right.toList) := by
  constructor
  · intro alike pattern legible
    rw [← classify_single legible left, ← classify_single legible right, alike]
  · intro same sources readings
    refine ((isFirst_classify_rereadAll sources readings left).congr fun index => ?_).unique
      (isFirst_classify_rereadAll sources readings right)
    rw [matches_iff, matches_iff]
    refine exists_congr fun pattern => and_congr_right fun found => ?_
    exact same pattern.toList (legible_rereadAll found)

/--
Every store routes two names alike if and only if each piece of one in normal form stands in the
other. That is so for names with the same lower-case form of which only the letters A to Z are
capital.
-/
theorem routedAlike_iff_pieces (left right : String) :
    (RoutedAlike left right ↔
      (∀ piece ∈ pieces (normalizeChars left.toList), piece <:+: normalizeChars right.toList) ∧
      ∀ piece ∈ pieces (normalizeChars right.toList), piece <:+: normalizeChars left.toList) ∧
    ((∀ character ∈ left.toList ++ right.toList, IsLower character.toLower) →
      lowerCase left.toList = lowerCase right.toList → RoutedAlike left right) := by
  constructor
  · rw [routedAlike_iff_legible, forall_piece_infix_iff, forall_piece_infix_iff]
    constructor
    · intro same
      exact ⟨fun pattern legible => (same pattern legible).mp,
        fun pattern legible => (same pattern legible).mpr⟩
    · rintro ⟨toRight, toLeft⟩ pattern legible
      exact ⟨toRight pattern legible, toLeft pattern legible⟩
  · intro plain same
    obtain ⟨plainLeft, plainRight⟩ := List.forall_mem_append.mp plain
    rw [lowerCase_eq_asciiLower plainLeft, lowerCase_eq_asciiLower plainRight] at same
    rw [routedAlike_iff_legible, normalizeChars_eq, normalizeChars_eq, same]
    exact fun _ _ => Iff.rfl

/-- Capital letters of ASCII are spelled away, a capital sigma is not. -/
theorem routedAlike_streets : RoutedAlike " STRAßE.Example." " straße.EXAMPLE." ∧
    ¬ RoutedAlike "ΟΔΟΣ.example" "οδος.example" := by
  have all : ((" STRAßE.Example.".toList ++ " straße.EXAMPLE.".toList).all fun character =>
      decide (IsLower character.toLower)) = true := by
    decide +kernel
  constructor
  · apply (routedAlike_iff_pieces _ _).2
    · exact fun character found => of_decide_eq_true (List.all_eq_true.mp all character found)
    · decide +kernel
  · rw [(routedAlike_iff_pieces _ _).1]
    decide +kernel

/-- The file, the name and its spelling with small letters differ in letter case only. -/
theorem umlaut_decides :
    let store := (new [("proxied", "patterns.txt")]).rereadAll [⟨0, .ok "MÜNCHEN\n"⟩]
    lowerCase "MÜNCHEN.example".toList = lowerCase "münchen.example".toList ∧
      store.classify "MÜNCHEN.example" = .direct ∧
      store.classify "münchen.example" = .proxied 0 := by
  decide +kernel

end Store

end SplitDns.Pattern
