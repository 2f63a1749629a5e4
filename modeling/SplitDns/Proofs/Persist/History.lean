import SplitDns.Proofs.Persist.Attempts

/-!
# What the flags say

A history of the scheduler has the signals that it received among what others see of it. A kind
is flagged exactly if a signal of it was received since the last successful attempt to save it
began. From this it follows why an attempt is made, and what a flag means that is left at the end:
`flags_exact` puts all of it together.
-/

namespace SplitDns.Persist

inductive Moment where
  | received (kind : SaveKind)
  | seen (event : Event)
  deriving DecidableEq

/-- How the first attempt to save a kind that ends in a part of a history ends. -/
def firstOutcome (kind : SaveKind) (history : List Moment) : Option Bool :=
  history.findSome? fun
    | .seen (.settled current saved) => if current = kind then some saved else none
    | _ => none

/-- Whether a successful attempt to save a kind begins in a part of a history. -/
def savesIn (kind : SaveKind) : List Moment → Bool
  | [] => false
  | moment :: later =>
      (moment = .seen (.began kind) && firstOutcome kind later = some true) || savesIn kind later

/--
What came after the beginning of the last successful attempt to save a kind, or everything if
there was none.
-/
def sinceSaved (kind : SaveKind) : List Moment → List Moment
  | [] => []
  | moment :: later =>
      if savesIn kind later then sinceSaved kind later
      else if moment = .seen (.began kind) ∧ firstOutcome kind later = some true then later
      else moment :: later

example : sinceSaved .addressMap
    [.received .addressMap, .seen (.began .addressMap), .seen (.settled .addressMap true),
      .received .addressSet, .seen (.began .addressMap), .seen (.settled .addressMap false)] =
    [.seen (.settled .addressMap true), .received .addressSet, .seen (.began .addressMap),
      .seen (.settled .addressMap false)] := by decide

/-- The signals that leave the queue between two states. -/
def Signals.taken (before after : Signals) : List SaveKind :=
  before.waiting.take (before.waiting.length - after.waiting.length)

namespace Machine

/-- What a step adds to the history. -/
def moments (machine : Machine) (events : List Event) (next : Machine) : List Moment :=
  (machine.signals.taken next.signals).map .received ++ events.map .seen

/-- A number of steps with the history that they make. -/
inductive History (machine : Machine) : List Moment → Machine → Prop where
  | refl : History machine [] machine
  | snoc {middle final : Machine} {earlier : List Moment} {events : List Event}
      (history : History machine earlier middle) (step : Step middle events final) :
      History machine (earlier ++ middle.moments events final) final

end Machine

/-! ### Parts of histories -/

section Parts

variable {kind : SaveKind} {earlier later history : List Moment} {moment : Moment}

/-- The moment has to do with saving a kind. -/
def Moment.Concerns (moment : Moment) (kind : SaveKind) : Prop :=
  moment = .received kind ∨ moment = .seen (.began kind) ∨
    ∃ saved, moment = .seen (.settled kind saved)

/-- Nothing in a part of a history has to do with saving a kind. -/
def Unconcerned (kind : SaveKind) (history : List Moment) : Prop :=
  ∀ moment ∈ history, ¬ moment.Concerns kind

theorem firstOutcome_append (kind : SaveKind) (earlier later : List Moment) :
    firstOutcome kind (earlier ++ later) =
      (firstOutcome kind earlier).or (firstOutcome kind later) :=
  List.findSome?_append

theorem firstOutcome_append_iff (unsaved : firstOutcome kind later ≠ some true)
    (earlier : List Moment) :
    firstOutcome kind (earlier ++ later) = some true ↔ firstOutcome kind earlier = some true := by
  rw [firstOutcome_append]
  cases firstOutcome kind earlier <;> simp [unsaved]

theorem firstOutcome_settled (kind : SaveKind) (saved : Bool) (later : List Moment) :
    firstOutcome kind (.seen (.settled kind saved) :: later) = some saved := by
  simp [firstOutcome]

theorem Unconcerned.firstOutcome (unconcerned : Unconcerned kind history) :
    firstOutcome kind history = none := by
  rw [SplitDns.Persist.firstOutcome, List.findSome?_eq_none_iff]
  intro moment found
  have unconcerned := unconcerned moment found
  split
  next current saved =>
    rw [if_neg]
    rintro rfl
    exact unconcerned (.inr (.inr ⟨saved, rfl⟩))
  next => rfl

theorem Unconcerned.received_not_mem (unconcerned : Unconcerned kind history) :
    .received kind ∉ history :=
  fun found => unconcerned _ found (.inl rfl)

theorem Unconcerned.began_not_mem (unconcerned : Unconcerned kind history) :
    .seen (.began kind) ∉ history :=
  fun found => unconcerned _ found (.inr (.inl rfl))

theorem savesIn_of_not_began (unbegun : .seen (.began kind) ∉ history) :
    savesIn kind history = false := by
  induction history with
  | nil => rfl
  | cons moment later inductionHypothesis =>
      rw [List.mem_cons, not_or] at unbegun
      rw [savesIn, decide_eq_false (Ne.symm unbegun.1), Bool.false_and, Bool.false_or]
      exact inductionHypothesis unbegun.2

/-- An attempt succeeds as soon as its outcome comes. -/
theorem savesIn_of_began (saved : firstOutcome kind later = some true) :
    savesIn kind (earlier ++ .seen (.began kind) :: later) = true := by
  induction earlier with
  | nil => simp [savesIn, saved]
  | cons moment earlier inductionHypothesis =>
      rw [List.cons_append, savesIn, inductionHypothesis, Bool.or_true]

/-- What neither makes nor ends a successful attempt adds none. -/
theorem savesIn_append (unsaved : firstOutcome kind later ≠ some true)
    (none : savesIn kind later = false) (earlier : List Moment) :
    savesIn kind (earlier ++ later) = savesIn kind earlier := by
  induction earlier with
  | nil => exact none
  | cons moment earlier inductionHypothesis =>
      rw [List.cons_append, savesIn, savesIn, inductionHypothesis,
        decide_eq_decide.mpr (firstOutcome_append_iff unsaved earlier)]

theorem sinceSaved_of_not_savesIn (none : savesIn kind history = false) :
    sinceSaved kind history = history := by
  cases history with
  | nil => rfl
  | cons moment later =>
      rw [savesIn, Bool.or_eq_false_iff, Bool.and_eq_false_iff, decide_eq_false_iff_not,
        decide_eq_false_iff_not] at none
      rw [sinceSaved, none.2, if_neg Bool.false_ne_true, if_neg]
      rintro ⟨begins, saved⟩
      rcases none.1 with impossible | impossible
      · exact impossible begins
      · exact impossible saved

/-- Moments that add no success come to what counts. -/
theorem sinceSaved_append (unsaved : firstOutcome kind later ≠ some true)
    (none : savesIn kind later = false) (earlier : List Moment) :
    sinceSaved kind (earlier ++ later) = sinceSaved kind earlier ++ later := by
  induction earlier with
  | nil => exact sinceSaved_of_not_savesIn none
  | cons moment earlier inductionHypothesis =>
      rw [List.cons_append, sinceSaved, sinceSaved, savesIn_append unsaved none]
      by_cases saves : savesIn kind earlier = true
      · rw [if_pos saves, if_pos saves]
        exact inductionHypothesis
      · simp only [if_neg saves, firstOutcome_append_iff unsaved]
        split <;> rfl

/-- After a success only what came since the beginning of its attempt counts. -/
theorem sinceSaved_of_began (saved : firstOutcome kind later = some true)
    (none : savesIn kind later = false) (earlier : List Moment) :
    sinceSaved kind (earlier ++ .seen (.began kind) :: later) = later := by
  induction earlier with
  | nil => rw [List.nil_append, sinceSaved, none, if_neg Bool.false_ne_true, if_pos ⟨rfl, saved⟩]
  | cons moment earlier inductionHypothesis =>
      rw [List.cons_append, sinceSaved, savesIn_of_began saved, if_pos rfl]
      exact inductionHypothesis

theorem sinceSaved_suffix (kind : SaveKind) (history : List Moment) :
    sinceSaved kind history <:+ history := by
  induction history with
  | nil => exact List.suffix_rfl
  | cons moment later inductionHypothesis =>
      rw [sinceSaved]
      split
      · exact inductionHypothesis.trans (List.suffix_cons moment later)
      · split
        · exact List.suffix_cons moment later
        · exact List.suffix_rfl

/-- A moment of two parts lies in the first or in the second one. -/
theorem append_eq_append_cons_iff {first second : List Moment} :
    first ++ second = earlier ++ moment :: later ↔
      (∃ rest, first = earlier ++ moment :: rest ∧ later = rest ++ second) ∨
        ∃ rest, second = rest ++ moment :: later ∧ earlier = first ++ rest := by
  rw [List.append_eq_append_iff]
  constructor
  · rintro (⟨rest, rfl, rfl⟩ | ⟨rest, rfl, equal⟩)
    · exact .inr ⟨rest, rfl, rfl⟩
    · cases rest with
      | nil => exact .inr ⟨[], by simpa using equal.symm, by simp⟩
      | cons head rest =>
          obtain ⟨rfl, rfl⟩ := List.cons.inj equal
          exact .inl ⟨rest, rfl, rfl⟩
  · rintro (⟨rest, rfl, rfl⟩ | ⟨rest, rfl, rfl⟩)
    · exact .inr ⟨moment :: rest, rfl, rfl⟩
    · exact .inl ⟨rest, rfl, rfl⟩

end Parts

/-! ### What a step means for a kind -/

namespace Machine

variable {machine middle next final : Machine} {kind : SaveKind} {earlier later : List Moment}
  {events : List Event} {history : List Moment}

theorem taken_self (signals : Signals) : signals.taken signals = [] := by
  rw [Signals.taken, Nat.sub_self, List.take_zero]

theorem taken_send (signals : Signals) (kind : SaveKind) :
    signals.taken (signals.send kind).2 = [] := by
  rw [Signals.taken, waiting_send]
  split <;> simp

theorem taken_of_receive? {signals rest : Signals} {kind : SaveKind}
    (received : signals.receive? = some (kind, rest)) : signals.taken rest = [kind] := by
  rw [Signals.taken, Signals.waiting_of_receive? received]
  simp

/-- An attempt under way goes through the kinds in their order. -/
def InOrder (machine : Machine) : Prop :=
  ∀ kind others last, machine.stage = .saving kind others last →
    ∃ skipped, kinds = skipped ++ kind :: others

theorem inOrder_goOn {others skipped : List SaveKind} (ordered : kinds = skipped ++ others)
    (last : Bool) : (machine.goOn last others).InOrder := by
  intro kind rest isLast saving
  rw [goOn] at saving
  rcases machine.dirty.next_cases last others with ⟨done, _⟩ | ⟨head, after, stage, found⟩
  · rw [done] at saving
    cases last <;> cases saving
  · obtain ⟨_, passed, rfl, _⟩ := found
    rw [stage] at saving
    cases saving
    exact ⟨skipped ++ passed, by rw [ordered, List.append_assoc]⟩

theorem inOrder_step (step : Step machine events next) (ordered : machine.InOrder) :
    next.InOrder := by
  cases step with
  | copy alive => exact ordered
  | drop alive => exact ordered
  | signal kind alive => exact ordered
  | receive waits received => exact ordered
  | fire waits => exact inOrder_goOn (List.nil_append kinds).symm false
  | finish waits alone empty => exact inOrder_goOn (List.nil_append kinds).symm true
  | @settle current others last saved saves =>
      obtain ⟨skipped, equal⟩ := ordered current others last saves
      have further : kinds = (skipped ++ [current]) ++ others := by simp [equal]
      exact inOrder_goOn further last

/-- No kind comes twice in a flush. -/
theorem InOrder.not_mem (ordered : machine.InOrder) {others : List SaveKind} {last : Bool}
    (saving : machine.stage = .saving kind others last) : kind ∉ others := by
  obtain ⟨skipped, equal⟩ := ordered kind others last saving
  have distinct : kinds.Nodup := by decide
  rw [equal] at distinct
  exact (List.nodup_cons.mp (List.nodup_append.mp distinct).2.1).1

/-- What a step does to a kind, with what it adds to the history. -/
inductive Turn (machine : Machine) (kind : SaveKind) (added : List Moment) (next : Machine) :
    Prop where
  | rests (unconcerned : Unconcerned kind added)
      (flag : next.dirty.has kind = machine.dirty.has kind)
      (same : next.IsSaving kind ↔ machine.IsSaving kind)
  | hears (heard : added = [.received kind]) (flag : next.dirty.has kind = true)
      (free : ¬ machine.IsSaving kind) (still : ¬ next.IsSaving kind)
  | begins {before : List Moment} (begun : added = before ++ [.seen (.began kind)])
      (unconcerned : Unconcerned kind before) (flag : machine.dirty.has kind = true)
      (same : next.dirty.has kind = true) (free : ¬ machine.IsSaving kind)
      (saving : next.IsSaving kind)
  | ends {after : List Moment} (saved : Bool)
      (settled : added = .seen (.settled kind saved) :: after)
      (unconcerned : Unconcerned kind after) (saving : machine.IsSaving kind)
      (free : ¬ next.IsSaving kind) (flag : next.dirty.has kind = !saved)

theorem unconcerned_begun {stage : Stage} (unbegun : .began kind ∉ stage.begun) :
    Unconcerned kind (stage.begun.map .seen) := by
  intro moment found
  obtain ⟨event, begun, rfl⟩ := List.mem_map.mp found
  rintro (impossible | began | ⟨saved, settled⟩)
  · cases impossible
  · cases began
    exact unbegun begun
  · cases settled
    exact settled_not_mem_begun saved stage begun

theorem begun_eq_of_mem {stage : Stage} (begun : .began kind ∈ stage.begun) :
    stage.begun = [.began kind] := by
  cases stage with
  | waiting => cases begun
  | ended => cases begun
  | saving current others last =>
      cases List.mem_singleton.mp begun
      rfl

/-- A flush that goes on may begin with the kind. -/
theorem turn_goOn {settled : Machine} {before : List Moment} (unconcerned : Unconcerned kind before)
    (flag : settled.dirty.has kind = machine.dirty.has kind) (free : ¬ machine.IsSaving kind)
    (last : Bool) (others : List SaveKind) :
    Turn machine kind (before ++ (settled.dirty.next last others).begun.map .seen)
      (settled.goOn last others) := by
  by_cases begun : .began kind ∈ (settled.dirty.next last others).begun
  · have flagged := has_of_began begun
    apply Turn.begins
    · rw [begun_eq_of_mem begun]
      rfl
    · exact unconcerned
    · rw [← flag, flagged]
    · exact flagged
    · exact free
    · exact isSaving_goOn begun
  · apply Turn.rests
    · intro moment found
      rcases List.mem_append.mp found with earlier | now
      · exact unconcerned moment earlier
      · exact unconcerned_begun begun moment now
    · exact flag
    · exact iff_of_false (mt began_of_isSaving_goOn begun) free

theorem unconcerned_nil : Unconcerned kind [] :=
  fun _ found => absurd found List.not_mem_nil

/-- Only a kind that is still ahead begins. -/
theorem mem_of_began {dirty : Dirty} {last : Bool} {others : List SaveKind}
    (begun : .began kind ∈ (dirty.next last others).begun) : kind ∈ others := by
  rcases dirty.next_cases last others with ⟨done, _⟩ | ⟨head, rest, saving, _, skipped, rfl, _⟩
  · rw [done] at begun
    cases last <;> cases begun
  · rw [saving] at begun
    cases List.mem_singleton.mp begun
    exact List.mem_append_right _ List.mem_cons_self

/-- A step that takes nothing from the queue adds what others see of it. -/
theorem turn_of_same (same : next.signals = machine.signals)
    (turn : Turn machine kind (events.map .seen) next) :
    Turn machine kind (machine.moments events next) next := by
  rw [moments, same, taken_self]
  exact turn

theorem turn_step (step : Step machine events next) (ordered : machine.InOrder)
    (kind : SaveKind) : Turn machine kind (machine.moments events next) next := by
  have free (waits : machine.stage = .waiting) : ¬ machine.IsSaving kind := by
    rintro ⟨_, _, saving⟩
    rw [waits] at saving
    cases saving
  cases step with
  | copy alive =>
      exact turn_of_same rfl (.rests unconcerned_nil rfl Iff.rfl)
  | drop alive =>
      exact turn_of_same rfl (.rests unconcerned_nil rfl Iff.rfl)
  | signal other alive =>
      rw [moments, send, taken_send]
      refine .rests ?_ rfl Iff.rfl
      intro moment found
      cases List.mem_singleton.mp found
      simp [Moment.Concerns]
  | @receive other rest waits received =>
      rw [moments, taken_of_receive? received]
      by_cases same : kind = other
      · subst same
        refine .hears rfl ?_ (free waits) (free waits)
        rw [Dirty.mark, Dirty.has_set, if_pos rfl]
      · refine .rests ?_ ?_ Iff.rfl
        · intro moment found
          cases List.mem_singleton.mp found
          simpa [Moment.Concerns] using Ne.symm same
        · rw [Dirty.mark, Dirty.has_set, if_neg same]
  | fire waits =>
      exact turn_of_same rfl (turn_goOn unconcerned_nil rfl (free waits) false kinds)
  | finish waits alone empty =>
      exact turn_of_same rfl (turn_goOn unconcerned_nil rfl (free waits) true kinds)
  | @settle current others last saved saves =>
      refine turn_of_same rfl ?_
      by_cases same : kind = current
      · subst same
        have unbegun : .began kind ∉ ((machine.settle kind saved).dirty.next last others).begun :=
          fun begun => ordered.not_mem saves (mem_of_began begun)
        refine .ends saved rfl (unconcerned_begun unbegun) ⟨others, last, saves⟩
          (mt began_of_isSaving_goOn unbegun) ?_
        rw [goOn, has_settle, if_pos rfl]
      · have unconcerned : Unconcerned kind [.seen (.settled current saved)] := by
          intro moment found
          cases List.mem_singleton.mp found
          simpa [Moment.Concerns] using Ne.symm same
        refine turn_goOn unconcerned ?_ ?_ last others
        · rw [has_settle, if_neg same]
        · rintro ⟨_, _, saving⟩
          rw [saves] at saving
          cases saving
          exact same rfl

/-! ### The flag of a kind -/

/-- What a history tells about a kind that the machine has flagged or is just saving. -/
structure Told (history : List Moment) (machine : Machine) (kind : SaveKind) : Prop where
  flag : machine.dirty.has kind = true ↔ .received kind ∈ sinceSaved kind history
  underway : machine.IsSaving kind → machine.dirty.has kind = true ∧
    ∃ earlier later, history = earlier ++ .seen (.began kind) :: later ∧ Unconcerned kind later
  settled : ¬ machine.IsSaving kind → ∀ earlier later,
    history = earlier ++ .seen (.began kind) :: later → firstOutcome kind later ≠ none

theorem told_start (capacity : Nat) (kind : SaveKind) : Told [] (start capacity) kind := by
  constructor
  case flag => cases kind <;> simp [start, Dirty.clean, Dirty.has, sinceSaved]
  case underway =>
    rintro ⟨_, _, saving⟩
    cases saving
  case settled =>
    intro _ earlier later equal
    simp at equal

/-- An attempt that was over is over, whatever comes. -/
theorem Told.settled_append (told : Told history machine kind) {added : List Moment}
    (free : ¬ machine.IsSaving kind) (unbegun : .seen (.began kind) ∉ added)
    {earlier later : List Moment}
    (equal : history ++ added = earlier ++ .seen (.began kind) :: later) :
    firstOutcome kind later ≠ none := by
  rcases append_eq_append_cons_iff.mp equal with ⟨rest, old, rfl⟩ | ⟨rest, rfl, _⟩
  · have ended := told.settled free earlier rest old
    rw [firstOutcome_append]
    cases outcome : firstOutcome kind rest with
    | none => exact absurd outcome ended
    | some saved => simp
  · exact absurd (List.mem_append_right rest List.mem_cons_self) unbegun

theorem told_of_turn {added : List Moment} (told : Told history machine kind)
    (turn : Turn machine kind added next) : Told (history ++ added) next kind := by
  cases turn with
  | rests unconcerned flag same =>
      have outcome := unconcerned.firstOutcome
      constructor
      case flag =>
        rw [sinceSaved_append (by simp [outcome])
            (savesIn_of_not_began unconcerned.began_not_mem),
          List.mem_append, or_iff_left unconcerned.received_not_mem, flag]
        exact told.flag
      case underway =>
        intro saving
        obtain ⟨flagged, earlier, later, equal, quiet⟩ := told.underway (same.mp saving)
        refine ⟨flag.trans flagged, earlier, later ++ added, by simp [equal], ?_⟩
        intro moment found
        rcases List.mem_append.mp found with old | new
        · exact quiet moment old
        · exact unconcerned moment new
      case settled =>
        intro free earlier later
        exact told.settled_append (mt same.mpr free) unconcerned.began_not_mem
  | hears heard flag free still =>
      subst heard
      constructor
      case flag =>
        rw [sinceSaved_append (by simp [firstOutcome]) (by simp [savesIn])]
        simp [flag]
      case underway => exact fun saving => absurd saving still
      case settled =>
        intro _ earlier later
        exact told.settled_append free (by simp)
  | @begins before begun unconcerned flag same free saving =>
      subst begun
      have outcome : firstOutcome kind (before ++ [.seen (.began kind)]) = none := by
        rw [firstOutcome_append, unconcerned.firstOutcome]
        rfl
      have unsaved : savesIn kind (before ++ [.seen (.began kind)]) = false := by
        rw [savesIn_append (by simp [firstOutcome]) (by simp [savesIn, firstOutcome])]
        exact savesIn_of_not_began unconcerned.began_not_mem
      constructor
      case flag =>
        rw [sinceSaved_append (by simp [outcome]) unsaved, List.mem_append, ← told.flag]
        simp [same, flag]
      case underway =>
        exact fun _ => ⟨same, history ++ before, [], by simp, unconcerned_nil⟩
      case settled => exact fun still => absurd saving still
  | @ends after saved settled unconcerned saving free flag =>
      subst settled
      obtain ⟨flagged, earlier, later, rfl, quiet⟩ := told.underway saving
      have unsaved : savesIn kind (.seen (.settled kind saved) :: after) = false := by
        simp [savesIn, savesIn_of_not_began unconcerned.began_not_mem]
      constructor
      case flag =>
        cases saved with
        | false =>
            rw [sinceSaved_append (by simp [firstOutcome_settled]) unsaved, List.mem_append,
              ← told.flag]
            simp [flag, flagged]
        | true =>
            have outcome : firstOutcome kind (later ++ .seen (.settled kind true) :: after) =
                some true := by
              rw [firstOutcome_append, quiet.firstOutcome, firstOutcome_settled]
              rfl
            have unbegun : .seen (.began kind) ∉ later ++ .seen (.settled kind true) :: after := by
              simp [quiet.began_not_mem, unconcerned.began_not_mem]
            rw [List.append_assoc, List.cons_append,
              sinceSaved_of_began outcome (savesIn_of_not_began unbegun)]
            simp [flag, quiet.received_not_mem, unconcerned.received_not_mem]
      case underway => exact fun still => absurd still free
      case settled =>
        intro _ first rest equal
        rcases append_eq_append_cons_iff.mp equal with ⟨rest, _, rfl⟩ | ⟨before, added, _⟩
        · rw [firstOutcome_append, firstOutcome_settled]
          cases firstOutcome kind rest <;> simp
        · have begun : .seen (.began kind) ∈ .seen (.settled kind saved) :: after :=
            added ▸ List.mem_append_right before List.mem_cons_self
          simp [unconcerned.began_not_mem] at begun

theorem Turn.begins_of_mem {added : List Moment} (turn : Turn machine kind added next)
    (begun : .seen (.began kind) ∈ added) :
    ∃ before, added = before ++ [.seen (.began kind)] ∧ Unconcerned kind before ∧
      machine.dirty.has kind = true ∧ ¬ machine.IsSaving kind := by
  cases turn with
  | rests unconcerned flag same => exact absurd begun unconcerned.began_not_mem
  | hears heard flag free still => simp [heard] at begun
  | begins equal unconcerned flag same free saving => exact ⟨_, equal, unconcerned, flag, free⟩
  | ends saved settled unconcerned saving free flag =>
      simp [settled, unconcerned.began_not_mem] at begun

/-- What others see of a history. -/
def seenIn (history : List Moment) : List Event :=
  history.filterMap fun
    | .seen event => some event
    | .received _ => none

theorem seenIn_append_moments (history : List Moment) (events : List Event) :
    seenIn (history ++ machine.moments events next) = seenIn history ++ events := by
  have none (taken : List SaveKind) : seenIn (taken.map .received) = [] := by
    rw [seenIn, List.filterMap_map, List.filterMap_eq_nil_iff]
    exact fun _ _ => rfl
  have all : seenIn (events.map .seen) = events := by
    rw [seenIn, List.filterMap_map]
    exact List.filterMap_some
  rw [seenIn, List.filterMap_append, ← seenIn, ← seenIn, moments]
  congr 1
  rw [seenIn, List.filterMap_append, ← seenIn, ← seenIn, none, all, List.nil_append]

/-- A history is a run in which the received signals are kept. -/
theorem History.run (reached : History machine history final) :
    Run machine (seenIn history) final := by
  induction reached with
  | refl => exact .refl
  | snoc _ step inductionHypothesis =>
      rw [seenIn_append_moments]
      exact inductionHypothesis.snoc step

theorem Run.exists_history (run : Run machine events final) :
    ∃ history, History machine history final ∧ seenIn history = events := by
  induction run with
  | refl => exact ⟨[], .refl, rfl⟩
  | snoc _ step inductionHypothesis =>
      obtain ⟨history, reached, rfl⟩ := inductionHypothesis
      exact ⟨_, reached.snoc step, seenIn_append_moments _ _⟩

theorem inOrder_history (reached : History machine history final) (ordered : machine.InOrder) :
    final.InOrder := by
  induction reached with
  | refl => exact ordered
  | snoc _ step inductionHypothesis => exact inOrder_step step inductionHypothesis

theorem inOrder_start (capacity : Nat) : (start capacity).InOrder := by
  intro _ _ _ saving
  cases saving

theorem told_history {capacity : Nat} (reached : History (start capacity) history final)
    (kind : SaveKind) : Told history final kind := by
  induction reached with
  | refl => exact told_start capacity kind
  | snoc reached step inductionHypothesis =>
      have ordered := inOrder_history reached (inOrder_start capacity)
      exact told_of_turn inductionHypothesis (turn_step step ordered kind)

/-! ### Why an attempt is made -/

/-- What counts lies after every success. -/
theorem received_mem_of_saved (saved : firstOutcome kind later = some true)
    (received : .received kind ∈ sinceSaved kind (earlier ++ .seen (.began kind) :: later)) :
    .received kind ∈ later := by
  induction earlier with
  | nil =>
      rw [List.nil_append, sinceSaved] at received
      split at received
      · exact (sinceSaved_suffix kind later).subset received
      · rwa [if_pos ⟨rfl, saved⟩] at received
  | cons moment earlier inductionHypothesis =>
      rw [List.cons_append, sinceSaved, savesIn_of_began saved, if_pos rfl] at received
      exact inductionHypothesis received

/-- Between two attempts the first one fails, or a signal is received after it succeeds. -/
def Explained (kind : SaveKind) (between : List Moment) : Prop :=
  firstOutcome kind between = some false ∨
    firstOutcome kind between = some true ∧ .received kind ∈ between

theorem Explained.append {between : List Moment} (explained : Explained kind between)
    (more : List Moment) : Explained kind (between ++ more) := by
  rw [Explained, firstOutcome_append, List.mem_append]
  rcases explained with failed | ⟨saved, received⟩
  · exact .inl (by rw [failed, Option.some_or])
  · exact .inr ⟨by rw [saved, Option.some_or], .inl received⟩

/-- An attempt begins only where the attempts before it are explained. -/
theorem Told.explained (told : Told history machine kind) {between : List Moment}
    (flag : machine.dirty.has kind = true) (free : ¬ machine.IsSaving kind)
    (equal : history = earlier ++ .seen (.began kind) :: between) : Explained kind between := by
  cases outcome : firstOutcome kind between with
  | none => exact absurd outcome (told.settled free earlier between equal)
  | some saved =>
      cases saved with
      | false => exact .inl outcome
      | true =>
          have received := told.flag.mp flag
          rw [equal] at received
          exact .inr ⟨outcome, received_mem_of_saved outcome received⟩

theorem explained_history {capacity : Nat} (reached : History (start capacity) history final)
    {between : List Moment}
    (equal : history =
      earlier ++ .seen (.began kind) :: (between ++ .seen (.began kind) :: later)) :
    Explained kind between := by
  induction reached generalizing later with
  | refl => simp at equal
  | @snoc middle final history events reached step inductionHypothesis =>
      have told := told_history reached kind
      have turn := turn_step step (inOrder_history reached (inOrder_start capacity)) kind
      have split : history ++ middle.moments events final =
          (earlier ++ .seen (.began kind) :: between) ++ .seen (.began kind) :: later := by
        rw [equal, List.append_assoc, List.cons_append]
      rcases append_eq_append_cons_iff.mp split with ⟨rest, old, _⟩ | ⟨rest, added, old⟩
      · apply inductionHypothesis
        rw [old, List.append_assoc, List.cons_append]
      · obtain ⟨before, begins, unconcerned, flag, free⟩ :=
          turn.begins_of_mem (added ▸ List.mem_append_right rest List.mem_cons_self)
        rw [begins] at added
        rcases append_eq_append_cons_iff.mp added with ⟨_, impossible, _⟩ | ⟨gap, last, rfl⟩
        · refine absurd ?_ unconcerned.began_not_mem
          rw [impossible]
          exact List.mem_append_right _ List.mem_cons_self
        · have noGap : gap = [] := by
            cases gap with
            | nil => rfl
            | cons head tail => simp at last
          rw [noGap, List.append_nil] at old
          rcases append_eq_append_cons_iff.mp old.symm with ⟨first, here, rfl⟩ | ⟨_, early, _⟩
          · exact (told.explained flag free here).append before
          · refine absurd ?_ unconcerned.began_not_mem
            rw [early]
            exact List.mem_append_right _ List.mem_cons_self

/-! ### Flags that are left -/

/-- The last attempt to save a kind began after the last accepted signal of it and saved nothing. -/
def LeftOver (history : List Moment) (machine : Machine) (kind : SaveKind) : Prop :=
  ∃ earlier later, history = earlier ++ .seen (.began kind) :: later ∧
    .seen (.began kind) ∉ later ∧ .seen (.sent kind true) ∉ later ∧
    (machine.IsSaving kind ∧ firstOutcome kind later = none ∨
      firstOutcome kind later = some false)

/-- In the last flush a flagged kind is still ahead, or its last attempt has not saved it. -/
def Accounts (history : List Moment) (machine : Machine) (kind : SaveKind) : Prop :=
  machine.IsLast → machine.dirty.has kind = true →
    machine.IsPending kind ∨ LeftOver history machine kind

/-- A kind that is ahead in the last flush stays so or begins. -/
theorem accounts_goOn {others : List SaveKind} (before : List Moment)
    (ahead : kind ∈ others) (flagged : machine.dirty.has kind = true) :
    (machine.goOn true others).IsPending kind ∨
      LeftOver (history ++ (before ++ (machine.dirty.next true others).begun.map .seen))
        (machine.goOn true others) kind := by
  rcases began_or_isPending_goOn machine flagged (fun _ => ahead) with begun | pending
  · right
    refine ⟨history ++ before, [], ?_, List.not_mem_nil, List.not_mem_nil, ?_⟩
    · rw [begun_eq_of_mem begun]
      simp
    · exact .inl ⟨isSaving_goOn begun, rfl⟩
  · exact .inl pending

theorem sent_not_mem_begun (stage : Stage) : .sent kind true ∉ stage.begun := by
  cases stage <;> simp [Stage.begun]

theorem LeftOver.append {added : List Moment} (left : LeftOver history machine kind)
    (unbegun : .seen (.began kind) ∉ added) (unsent : .seen (.sent kind true) ∉ added)
    (failed : machine.IsSaving kind → firstOutcome kind added = some false) :
    LeftOver (history ++ added) next kind := by
  obtain ⟨earlier, later, rfl, noneBegun, noneSent, outcome⟩ := left
  refine ⟨earlier, later ++ added, by simp, by simp [noneBegun, unbegun],
    by simp [noneSent, unsent], .inr ?_⟩
  rw [firstOutcome_append]
  rcases outcome with ⟨saving, none⟩ | before
  · rw [none, Option.none_or]
    exact failed saving
  · rw [before, Option.some_or]

theorem accounts_step (step : Step machine events next) (closed : machine.Closed)
    (told : Told history machine kind)
    (accounts : Accounts history machine kind) :
    Accounts (history ++ machine.moments events next) next kind := by
  intro last flagged
  cases step with
  | copy alive =>
      have none := (closed last).1
      omega
  | drop alive =>
      have none := (closed last).1
      omega
  | signal other alive =>
      have none := (closed last).1
      omega
  | receive waits received =>
      rcases last with ended | ⟨_, _, saving⟩
      · exact absurd (waits.symm.trans ended) (by simp)
      · exact absurd (waits.symm.trans saving) (by simp)
  | fire waits => cases (machine.isLast_goOn false kinds).mp last
  | finish waits alone empty =>
      rw [moments, goOn, taken_self]
      exact accounts_goOn [] (mem_kinds kind) flagged
  | @settle current others isLast saved saves =>
      have isLast := (isLast_goOn _ _ _).mp last
      subst isLast
      rw [moments, goOn, settle, taken_self]
      by_cases ahead : kind ∈ others
      · exact accounts_goOn [.seen (.settled current saved)] ahead flagged
      · right
        rw [goOn, has_settle] at flagged
        have left : LeftOver history machine kind := by
          have before : machine.dirty.has kind = true := by
            by_cases same : kind = current
            · subst same
              exact (told.underway ⟨others, true, saves⟩).1
            · rwa [if_neg same] at flagged
          rcases accounts (.inr ⟨current, others, saves⟩) before with ⟨_, pending⟩ | left
          · rw [saves] at pending
            exact absurd (pending.2 rfl) ahead
          · exact left
        have unbegun :
            .began kind ∉ ((machine.settle current saved).dirty.next true others).begun :=
          mt mem_of_began ahead
        apply left.append
        · simpa [settle] using unbegun
        · simpa using sent_not_mem_begun _
        · rintro ⟨_, _, saving⟩
          rw [saves] at saving
          cases saving
          rw [if_pos rfl, Bool.not_eq_true'] at flagged
          rw [flagged]
          exact firstOutcome_settled _ _ _

theorem accounts_history {capacity : Nat} (reached : History (start capacity) history final)
    (kind : SaveKind) : Accounts history final kind := by
  induction reached with
  | refl =>
      rintro (ended | ⟨_, _, saving⟩)
      · cases ended
      · cases saving
  | snoc reached step inductionHypothesis =>
      exact accounts_step step (closed_run reached.run (closed_start capacity))
        (told_history reached kind) inductionHypothesis

/-- The end of an attempt leaves the flags of other kinds alone. -/
theorem has_of_settled {other : SaveKind} {saved : Bool} (step : Step machine events next)
    (settled : .settled other saved ∈ events) (different : kind ≠ other) :
    next.dirty.has kind = machine.dirty.has kind := by
  cases step with
  | copy alive => rfl
  | drop alive => rfl
  | signal current alive => rfl
  | receive waits received => cases settled
  | fire waits => rfl
  | finish waits alone empty => rfl
  | @settle current others last outcome saves =>
      rcases List.mem_cons.mp settled with equal | begun
      · cases equal
        rw [goOn, has_settle, if_neg different]
      · exact absurd begun (settled_not_mem_begun saved _)

/--
The flags say exactly what is owed. A kind is flagged if and only if a signal of it was received
since its last successful attempt began; between two attempts the first one failed or a signal was
received; a failure does not touch the flag of the other kind; and a flag that is left at the end
belongs to a kind whose last attempt, after the last accepted signal of it, failed.
-/
theorem flags_exact (capacity : Nat) (history : List Moment) (machine : Machine)
    (reached : History (start capacity) history machine) (kind : SaveKind) :
    (machine.dirty.has kind = true ↔ .received kind ∈ sinceSaved kind history) ∧
    (∀ earlier between later,
      history = earlier ++ .seen (.began kind) :: (between ++ .seen (.began kind) :: later) →
      firstOutcome kind between = some false ∨
        firstOutcome kind between = some true ∧ .received kind ∈ between) ∧
    (∀ other events next, Step machine events next → .settled other false ∈ events →
      kind ≠ other → next.dirty.has kind = machine.dirty.has kind) ∧
    (machine.stage = .ended → machine.dirty.has kind = true →
      ∃ earlier later, history = earlier ++ .seen (.began kind) :: later ∧
        firstOutcome kind later = some false ∧ .seen (.began kind) ∉ later ∧
        .seen (.sent kind true) ∉ later) := by
  refine ⟨(told_history reached kind).flag, ?_, ?_, ?_⟩
  · intro earlier between later equal
    exact explained_history reached equal
  · intro other events next step settled different
    exact has_of_settled step settled different
  · intro ended flagged
    rcases accounts_history reached kind (.inl ended) flagged with ⟨_, pending⟩ | left
    · rw [ended] at pending
      exact pending.elim
    · obtain ⟨earlier, later, equal, unbegun, unsent, outcome⟩ := left
      refine ⟨earlier, later, equal, ?_, unbegun, unsent⟩
      rcases outcome with ⟨⟨_, _, saving⟩, _⟩ | failed
      · rw [ended] at saving
        cases saving
      · exact failed

/--
Both kinds are signalled; the quiet time ends, the sets are saved and the map is not; then the last
sender leaves, and saving the map fails again.
-/
theorem flags_exact_failing :
    ∃ history machine, History (start 2) history machine ∧ machine.stage = .ended ∧
      machine.dirty.has .addressMap = true ∧ machine.dirty.has .addressSet = false ∧
      .received .addressMap ∈ sinceSaved .addressMap history ∧
      .received .addressSet ∉ sinceSaved .addressSet history ∧
      ∃ earlier later, history = earlier ++ .seen (.began .addressMap) :: later ∧
        firstOutcome .addressMap later = some false ∧ .seen (.began .addressMap) ∉ later ∧
        .seen (.sent .addressMap true) ∉ later := by
  have begun : History (start 2) [] (start 2) := .refl
  have sentSet := begun.snoc (.signal .addressSet (by decide))
  have sentMap := sentSet.snoc (.signal .addressMap (by decide))
  have heardSet := sentMap.snoc (.receive rfl rfl)
  have heardMap := heardSet.snoc (.receive rfl rfl)
  have fired := heardMap.snoc (.fire rfl)
  have savedSet := fired.snoc (.settle true rfl)
  have failedMap := savedSet.snoc (.settle false rfl)
  have dropped := failedMap.snoc (.drop (by decide))
  have finished := dropped.snoc (.finish rfl rfl rfl)
  have settled := finished.snoc (.settle false rfl)
  have ofSet := flags_exact 2 _ _ settled .addressSet
  have ofMap := flags_exact 2 _ _ settled .addressMap
  refine ⟨_, _, settled, rfl, rfl, rfl, ofMap.1.mp rfl, ?_, ofMap.2.2.2 rfl rfl⟩
  exact fun received => absurd (ofSet.1.mpr received) (by decide)

end Machine

end SplitDns.Persist
