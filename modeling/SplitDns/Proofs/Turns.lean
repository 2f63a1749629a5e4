import Mathlib.Data.List.Basic

/-!
# Processes that take turns

Any number of processes share a state, and a schedule of events says whose turn it is. Every
schedule is an interleaving, and so is every beginning of one: what holds after all schedules holds
at every moment. `after_invariant` reduces an invariant to the step of one process among the others,
and `rank_eq_zero_of_turns` says that processes that come nearer to their end with every step reach
it.
-/

namespace SplitDns

/-- Processes and the state that they share. -/
structure Crowd (Process Shared : Type) where
  processes : List Process
  shared : Shared

/-- What an event does: the process at a place takes a step. -/
structure Turns (Event Process Shared : Type) where
  place : Event → Nat
  step : Event → Process → Shared → Process × Shared

/-! ### One process among others -/

section Exchange

variable {Process Value : Type} {value? : Process → Option Value} {before behind : List Process}
  {old new : Process} {values : List Value} {value : Value}

theorem filterMap_exchange (same : value? new = value? old) :
    (before ++ new :: behind).filterMap value? = (before ++ old :: behind).filterMap value? := by
  simp [List.filterMap_cons, same]

/-- A process comes to have a value, and the value is the last of all so far. -/
theorem perm_filterMap_exchange (perm : values.Perm ((before ++ old :: behind).filterMap value?))
    (none : value? old = none) (some : value? new = some value) :
    (values ++ [value]).Perm ((before ++ new :: behind).filterMap value?) := by
  rw [List.filterMap_append, List.filterMap_cons_none none] at perm
  rw [List.filterMap_append, List.filterMap_cons_some some]
  apply (List.perm_append_singleton value values).trans
  exact (perm.cons value).trans List.perm_middle.symm

theorem mem_of_mem_others {process : Process} (member : process ∈ before ++ behind) :
    process ∈ before ++ old :: behind := by
  rcases List.mem_append.mp member with inBefore | inBehind
  · exact List.mem_append_left _ inBefore
  · exact List.mem_append_right _ (List.mem_cons_of_mem _ inBehind)

theorem forall_exchange {Sound Kept : Process → Prop}
    (all : ∀ process ∈ before ++ old :: behind, Sound process)
    (others : ∀ process ∈ before ++ behind, Sound process → Kept process) (here : Kept new) :
    ∀ process ∈ before ++ new :: behind, Kept process := by
  simp only [List.forall_mem_append, List.forall_mem_cons] at all others ⊢
  exact ⟨fun process member => others.1 process member (all.1 process member), here,
    fun process member => others.2 process member (all.2.2 process member)⟩

end Exchange

namespace Turns

variable {Event Process Shared Key : Type} {turns : Turns Event Process Shared}
  {crowd : Crowd Process Shared}

/-- An event for which there is no process changes nothing. -/
def turn (turns : Turns Event Process Shared) (crowd : Crowd Process Shared) (event : Event) :
    Crowd Process Shared :=
  match crowd.processes[turns.place event]? with
  | none => crowd
  | some process =>
      let (process, shared) := turns.step event process crowd.shared
      ⟨crowd.processes.set (turns.place event) process, shared⟩

def after (turns : Turns Event Process Shared) (crowd : Crowd Process Shared)
    (events : List Event) : Crowd Process Shared :=
  events.foldl turns.turn crowd

theorem turn_cases (turns : Turns Event Process Shared) (crowd : Crowd Process Shared)
    (event : Event) :
    crowd.processes.length ≤ turns.place event ∧ turns.turn crowd event = crowd ∨
      ∃ before process behind, before.length = turns.place event ∧
        crowd.processes = before ++ process :: behind ∧
        turns.turn crowd event =
          ⟨before ++ (turns.step event process crowd.shared).1 :: behind,
            (turns.step event process crowd.shared).2⟩ := by
  unfold turn
  cases found : crowd.processes[turns.place event]? with
  | none => exact .inl ⟨List.getElem?_eq_none_iff.mp found, rfl⟩
  | some process =>
      obtain ⟨inside, taken⟩ := List.getElem?_eq_some_iff.mp found
      refine .inr ⟨crowd.processes.take (turns.place event), process,
        crowd.processes.drop (turns.place event + 1), ?_, ?_, ?_⟩
      · exact List.length_take_of_le (Nat.le_of_lt inside)
      · rw [← taken, List.getElem_cons_drop, List.take_append_drop]
      · simp only [List.set_eq_take_cons_drop _ inside]

/-- An invariant has to be kept by the step of any process among any others. -/
theorem after_invariant (Invariant : Crowd Process Shared → Prop)
    (kept : ∀ event before process behind shared,
      Invariant ⟨before ++ process :: behind, shared⟩ →
        Invariant ⟨before ++ (turns.step event process shared).1 :: behind,
          (turns.step event process shared).2⟩)
    (events : List Event) (holds : Invariant crowd) : Invariant (turns.after crowd events) := by
  induction events generalizing crowd with
  | nil => exact holds
  | cons event rest inductionHypothesis =>
      apply inductionHypothesis
      rcases turns.turn_cases crowd event with ⟨_, idle⟩ | ⟨before, process, behind, _, whole, next⟩
      · rw [idle]
        exact holds
      · rw [next]
        apply kept
        rw [← whole]
        exact holds

/-- What no step of a process changes about it. -/
theorem map_after {key : Process → Key}
    (kept : ∀ event process shared, key (turns.step event process shared).1 = key process)
    (events : List Event) :
    (turns.after crowd events).processes.map key = crowd.processes.map key := by
  refine after_invariant (fun other => other.processes.map key = crowd.processes.map key)
    ?_ events rfl
  intro event before process behind shared same
  rw [← same]
  simp [kept]

section Rank

variable {rank : Process → Nat}
  (falls : ∀ event process shared, rank (turns.step event process shared).1 ≤ rank process - 1)

include falls

theorem rank_turn {event : Event} {place : Nat} {process : Process}
    (found : (turns.turn crowd event).processes[place]? = some process) :
    ∃ begun, crowd.processes[place]? = some begun ∧
      rank process ≤ rank begun - if turns.place event = place then 1 else 0 := by
  rcases turns.turn_cases crowd event with
    ⟨outside, idle⟩ | ⟨before, begun, behind, taken, whole, next⟩
  · rw [idle] at found
    have inside : place < crowd.processes.length := (List.getElem?_eq_some_iff.mp found).1
    have other : turns.place event ≠ place := by omega
    exact ⟨process, found, by simp [other]⟩
  · rw [next] at found
    rw [whole, ← taken]
    by_cases here : before.length = place
    · subst here
      simp only [List.getElem?_append_right, Nat.le_refl, Nat.sub_self, List.getElem?_cons_zero,
        Option.some.injEq] at found ⊢
      subst found
      exact ⟨begun, rfl, falls event begun crowd.shared⟩
    · have shifted : ¬ place < before.length → place - before.length ≠ 0 := by omega
      refine ⟨process, ?_, by simp [here]⟩
      rw [← found, List.getElem?_append, List.getElem?_append]
      split
      · rfl
      next behindIt =>
        rw [List.getElem?_cons, List.getElem?_cons, if_neg (shifted behindIt),
          if_neg (shifted behindIt)]

/-- Every turn brings the process whose turn it is nearer to its end. -/
theorem rank_after {events : List Event} {place : Nat} {process : Process}
    (found : (turns.after crowd events).processes[place]? = some process) :
    ∃ begun, crowd.processes[place]? = some begun ∧
      rank process ≤ rank begun - events.countP (turns.place · = place) := by
  induction events generalizing crowd with
  | nil => exact ⟨process, found, Nat.le_refl _⟩
  | cons event rest inductionHypothesis =>
      obtain ⟨middle, inMiddle, later⟩ := inductionHypothesis found
      obtain ⟨begun, atStart, first⟩ := rank_turn falls inMiddle
      refine ⟨begun, atStart, ?_⟩
      simp only [List.countP_cons, decide_eq_true_eq]
      omega

theorem rank_eq_zero_of_turns {Call : Type} {start : Call → Process} {calls : List Call}
    {shared : Shared} {events : List Event} {bound : Nat} (low : ∀ call, rank (start call) ≤ bound)
    (often : ∀ place < calls.length, bound ≤ events.countP (turns.place · = place)) :
    ∀ process ∈ (turns.after ⟨calls.map start, shared⟩ events).processes, rank process = 0 := by
  intro process member
  obtain ⟨place, found⟩ := List.mem_iff_getElem?.mp member
  obtain ⟨begun, atStart, fallen⟩ := rank_after falls found
  rw [List.getElem?_map] at atStart
  obtain ⟨call, asked, rfl⟩ := Option.map_eq_some_iff.mp atStart
  have enough := often place (List.getElem?_eq_some_iff.mp asked).1
  have lowHere := low call
  omega

end Rank

end Turns

end SplitDns
