import SplitDns.Pattern.Store

/-!
# Routes from patterns

A name is routed to the first class with a pattern that the name in normal form contains, and
directly if there is none. That determines the route, so stores whose classes cover a name alike
route it alike.
-/

namespace SplitDns

namespace Route

variable {Holds Other : Nat → Prop} {route other : Route}

/-- The route leads to the first place that has a property, or nowhere if none has it. -/
def IsFirst (Holds : Nat → Prop) : Route → Prop
  | .direct => ∀ index, ¬ Holds index
  | .proxied index => Holds index ∧ ∀ earlier < index, ¬ Holds earlier

theorem IsFirst.unique (first : route.IsFirst Holds) (second : other.IsFirst Holds) :
    route = other := by
  cases route with
  | direct =>
      cases other with
      | direct => rfl
      | proxied index => exact absurd second.1 (first index)
  | proxied index =>
      cases other with
      | direct => exact absurd first.1 (second index)
      | proxied otherIndex =>
          have notBefore : ¬ otherIndex < index := fun less => first.2 otherIndex less second.1
          have notBehind : ¬ index < otherIndex := fun less => second.2 index less first.1
          have equal : index = otherIndex := by omega
          rw [equal]

theorem IsFirst.eq_proxied_iff (first : route.IsFirst Holds) {index : Nat} :
    route = .proxied index ↔ Holds index ∧ ∀ earlier < index, ¬ Holds earlier := by
  constructor
  · rintro rfl
    exact first
  · intro holds
    have alike : (Route.proxied index).IsFirst Holds := holds
    exact first.unique alike

theorem IsFirst.eq_direct_iff (first : route.IsFirst Holds) :
    route = .direct ↔ ∀ index, ¬ Holds index := by
  constructor
  · rintro rfl
    exact first
  · intro none
    have alike : Route.direct.IsFirst Holds := none
    exact first.unique alike

theorem IsFirst.congr (same : ∀ index, Holds index ↔ Other index) (first : route.IsFirst Holds) :
    route.IsFirst Other := by
  have equal : Holds = Other := funext fun index => propext (same index)
  exact equal ▸ first

end Route

namespace Pattern

open SplitDns.Dns
open SplitDns.Text

/-- The name contains the pattern when it is in normal form. -/
def Covers (pattern name : String) : Prop :=
  containsText (normalizeName name).toList pattern.toList = true

instance (pattern name : String) : Decidable (Covers pattern name) :=
  inferInstanceAs (Decidable (_ = true))

namespace Store

variable {store other : Store} {name : String}

/-- The class at a place has a pattern that covers the name. -/
def Matches (store : Store) (name : String) (index : Nat) : Prop :=
  ∃ pattern ∈ store.patterns index, Covers pattern name

theorem matches_iff {index : Nat} : store.Matches name index ↔
    ∃ pattern ∈ store.patterns index, pattern.toList <:+: normalizeChars name.toList := by
  have chars : (normalizeName name).toList = normalizeChars name.toList := String.toList_ofList
  simp only [Matches, Covers, chars, containsText_iff]

/-- One of the patterns stands in the text. -/
theorem firstMatch?_isSome {text : List Char} {patterns : List String} :
    (firstMatch? text patterns).isSome = true ↔
      ∃ pattern ∈ patterns, containsText text pattern.toList = true :=
  List.find?_isSome

/-- The route that a search for the first class gives. -/
def found : Option (Nat × String) → Route
  | some (index, _) => .proxied index
  | none => .direct

theorem isFirst_found (text : List Char) (classes : List Class) (start : Nat) :
    (found (firstClass? text start classes)).IsFirst fun index =>
      start ≤ index ∧ ∃ pattern ∈ (⟨classes⟩ : Store).patterns (index - start),
        containsText text pattern.toList = true := by
  induction classes generalizing start with
  | nil =>
      rintro index ⟨_, pattern, impossible, _⟩
      cases impossible
  | cons candidate rest inductionHypothesis =>
      cases searched : firstMatch? text candidate.patterns with
      | some pattern =>
          have hit : (firstMatch? text candidate.patterns).isSome = true := by
            rw [searched]
            rfl
          rw [firstClass?, searched]
          refine ⟨⟨Nat.le_refl start, ?_⟩, ?_⟩
          · rw [Nat.sub_self]
            exact firstMatch?_isSome.mp hit
          · intro earlier before
            omega
      | none =>
          rw [firstClass?, searched]
          apply (inductionHypothesis (start + 1)).congr
          intro index
          by_cases here : index = start
          · subst here
            have noMatch : ¬ ∃ pattern ∈ candidate.patterns,
                containsText text pattern.toList = true := by
              rw [← firstMatch?_isSome, searched]
              exact Bool.false_ne_true
            rw [Nat.sub_self]
            refine ⟨fun later => by omega, fun covered => absurd covered.2 noMatch⟩
          · by_cases before : index < start
            · refine ⟨fun later => by omega, fun later => by omega⟩
            · have place : index - start = index - (start + 1) + 1 := by omega
              have shifted : (⟨candidate :: rest⟩ : Store).patterns (index - start) =
                  (⟨rest⟩ : Store).patterns (index - (start + 1)) := by
                rw [place]
                rfl
              rw [shifted]
              refine and_congr_left fun _ => ?_
              omega

/-- A name is routed to the first class that has a pattern for it. -/
theorem isFirst_classify (filled : ∀ index, ∀ pattern ∈ store.patterns index, pattern ≠ "")
    (name : String) : (store.classify name).IsFirst (store.Matches name) := by
  by_cases empty : normalizeChars name.toList = []
  · have direct : store.classify name = .direct := by
      simp [classify, match?, empty]
    rw [direct]
    intro index found
    obtain ⟨pattern, inClass, stands⟩ := matches_iff.mp found
    rw [empty, List.infix_nil] at stands
    exact filled index pattern inClass (String.toList_eq_nil_iff.mp stands)
  · have first := isFirst_found (normalizeChars name.toList) store.classes 0
    have same : found (firstClass? (normalizeChars name.toList) 0 store.classes) =
        store.classify name := by
      simp only [classify, match?, List.isEmpty_iff, if_neg empty]
      cases firstClass? (normalizeChars name.toList) 0 store.classes <;> rfl
    rw [same] at first
    apply first.congr
    intro index
    simp only [Nat.zero_le, true_and, Nat.sub_zero, matches_iff, containsText_iff]

/-- Stores whose classes cover a name alike route it alike. -/
theorem classify_congr (filled : ∀ index, ∀ pattern ∈ store.patterns index, pattern ≠ "")
    (otherFilled : ∀ index, ∀ pattern ∈ other.patterns index, pattern ≠ "")
    (same : ∀ index, store.Matches name index ↔ other.Matches name index) :
    store.classify name = other.classify name :=
  ((isFirst_classify filled name).congr same).unique (isFirst_classify otherFilled name)

end Store

end Pattern

end SplitDns
