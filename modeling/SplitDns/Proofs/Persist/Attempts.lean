import SplitDns.Proofs.Persist.Saving

/-!
# Attempts and their outcomes

`attempt_step` says what a step can do to a kind: leave it alone, begin an attempt to save it, or
end one. A kind that is still flagged at the end is one whose last attempt failed.
-/

namespace SplitDns.Persist

/-- How the last attempt to save a kind ended. -/
def lastOutcome (kind : SaveKind) (events : List Event) : Option Bool :=
  (outcomes events).reverse.lookup kind

theorem lastOutcome_append (kind : SaveKind) (earlier later : List Event) :
    lastOutcome kind (earlier ++ later) =
      (lastOutcome kind later).or (lastOutcome kind earlier) := by
  rw [lastOutcome, outcomes_append, List.reverse_append, List.lookup_append]
  rfl

theorem lastOutcome_settled (kind current : SaveKind) (saved : Bool) (stage : Stage) :
    lastOutcome kind (.settled current saved :: stage.begun) =
      if kind = current then some saved else none := by
  rw [lastOutcome, outcomes_settled, List.reverse_singleton]
  cases kind <;> cases current <;> rfl

namespace Machine

variable {machine next middle final : Machine} {kind : SaveKind} {earlier events later : List Event}

theorem isSaving_goOn {last : Bool} {others : List SaveKind}
    (begins : .began kind ∈ (machine.dirty.next last others).begun) :
    (machine.goOn last others).IsSaving kind := by
  rw [IsSaving, goOn]
  cases stage : machine.dirty.next last others with
  | waiting =>
      rw [stage] at begins
      cases begins
  | ended =>
      rw [stage] at begins
      cases begins
  | saving current rest last =>
      rw [stage] at begins
      cases List.mem_singleton.mp begins
      exact ⟨rest, last, rfl⟩

theorem began_of_isSaving_goOn {last : Bool} {others : List SaveKind}
    (saving : (machine.goOn last others).IsSaving kind) :
    .began kind ∈ (machine.dirty.next last others).begun := by
  obtain ⟨rest, isLast, stage⟩ := saving
  rw [goOn] at stage
  simp only at stage
  rw [stage]
  exact List.mem_cons_self

/-- What a step does to the attempts to save a kind. -/
inductive Attempt (machine : Machine) (kind : SaveKind) (events : List Event) (next : Machine) :
    Prop where
  | rests (unbegun : .began kind ∉ events) (unsettled : ∀ saved, .settled kind saved ∉ events)
      (same : next.IsSaving kind ↔ machine.IsSaving kind)
      (flagged : machine.dirty.has kind = true → next.dirty.has kind = true)
  | begins (begun : .began kind ∈ events) (saving : next.IsSaving kind)
  | ends (saved : Bool) (saving : machine.IsSaving kind) (unbegun : .began kind ∉ events)
      (settled : ∀ outcome, .settled kind outcome ∈ events ↔ outcome = saved)
      (free : ¬ next.IsSaving kind) (flag : next.dirty.has kind = !saved)

theorem settled_not_mem_begun (saved : Bool) (stage : Stage) :
    .settled kind saved ∉ stage.begun := by
  cases stage <;> simp [Stage.begun]

theorem attempt_goOn (waits : machine.stage = .waiting) (last : Bool) (others : List SaveKind) :
    Attempt machine kind (machine.dirty.next last others).begun (machine.goOn last others) := by
  by_cases begun : .began kind ∈ (machine.dirty.next last others).begun
  · exact .begins begun (isSaving_goOn begun)
  · refine .rests begun (fun saved => settled_not_mem_begun saved _) ?_ id
    constructor
    · intro saving
      exact absurd (began_of_isSaving_goOn saving) begun
    · rintro ⟨_, _, saving⟩
      rw [waits] at saving
      cases saving

theorem attempt_step (step : Step machine events next) (kind : SaveKind) :
    Attempt machine kind events next := by
  cases step with
  | copy alive => exact .rests (by simp) (by simp) Iff.rfl id
  | drop alive => exact .rests (by simp) (by simp) Iff.rfl id
  | signal other alive => exact .rests (by simp) (by simp) Iff.rfl id
  | receive waits received =>
      refine .rests (by simp) (by simp) Iff.rfl ?_
      intro flagged
      rw [Dirty.mark, Dirty.has_set, flagged]
      split <;> rfl
  | fire waits => exact attempt_goOn waits false kinds
  | finish waits alone empty => exact attempt_goOn waits true kinds
  | @settle current others last saved saves =>
      have settledHere (outcome : Bool) :
          .settled kind outcome ∈
              .settled current saved ::
                ((machine.settle current saved).dirty.next last others).begun ↔
            kind = current ∧ outcome = saved := by
        rw [List.mem_cons, or_iff_left (settled_not_mem_begun outcome _), Event.settled.injEq]
      by_cases begun : .began kind ∈ ((machine.settle current saved).dirty.next last others).begun
      · exact .begins (List.mem_cons_of_mem _ begun) (isSaving_goOn begun)
      · have free : ¬ ((machine.settle current saved).goOn last others).IsSaving kind :=
          mt began_of_isSaving_goOn begun
        have unbegun : .began kind ∉ .settled current saved ::
            ((machine.settle current saved).dirty.next last others).begun := by
          simp [begun]
        by_cases same : kind = current
        · subst same
          refine .ends saved ⟨others, last, saves⟩ unbegun ?_ free ?_
          · intro outcome
            rw [settledHere, and_iff_right rfl]
          · rw [goOn, has_settle, if_pos rfl]
        · refine .rests unbegun ?_ ?_ ?_
          · intro outcome settled
            exact same ((settledHere outcome).mp settled).1
          · constructor
            · exact fun saving => absurd saving free
            · rintro ⟨_, _, saving⟩
              rw [saves] at saving
              cases saving
              exact absurd rfl same
          · intro flagged
            rw [goOn, has_settle, if_neg same, flagged]

/-- A signal stays in the queue until it is received, which flags its kind. -/
theorem waits_or_flagged_step (step : Step machine events next)
    (waits : kind ∈ machine.signals.waiting) :
    kind ∈ next.signals.waiting ∨ next.dirty.has kind = true ∧ next.stage = .waiting := by
  cases step with
  | copy alive => exact .inl waits
  | drop alive => exact .inl waits
  | signal other alive =>
      left
      rw [send, waiting_send]
      split
      · exact List.mem_append_left _ waits
      · exact waits
  | @receive other rest idle received =>
      rw [Signals.waiting_of_receive? received] at waits
      rcases List.mem_cons.mp waits with rfl | later
      · refine .inr ⟨?_, idle⟩
        rw [Dirty.mark, Dirty.has_set, if_pos rfl]
      · exact .inl later
  | fire idle => exact .inl waits
  | finish idle alone empty => exact .inl waits
  | settle saved saves => exact .inl waits

/-! ### Flags that stay -/

/-- A kind that is flagged is tried again, is just being saved, or failed when it was last tried. -/
def IsAccounted (machine : Machine) (kind : SaveKind) (events : List Event) : Prop :=
  machine.dirty.has kind = true →
    machine.IsPending kind ∨ machine.IsSaving kind ∨ lastOutcome kind events = some false

theorem isAccounted_goOn {last : Bool} {others : List SaveKind}
    (ahead : machine.dirty.has kind = true → (last = true → kind ∈ others) ∨
      lastOutcome kind events = some false) :
    (machine.goOn last others).IsAccounted kind events := by
  intro flagged
  rcases ahead flagged with ahead | failed
  · rcases began_or_isPending_goOn machine flagged ahead with begins | pending
    · exact .inr (.inl (isSaving_goOn begins))
    · exact .inl pending
  · exact .inr (.inr failed)

theorem isAccounted_step (step : Step machine events next)
    (accounted : machine.IsAccounted kind earlier) :
    next.IsAccounted kind (earlier ++ events) := by
  cases step with
  | copy alive =>
      rw [List.append_nil]
      exact accounted
  | drop alive =>
      rw [List.append_nil]
      exact accounted
  | signal other alive =>
      intro flagged
      rw [lastOutcome_append]
      exact accounted flagged
  | receive waits received =>
      intro flagged
      refine .inl ⟨flagged, ?_⟩
      rw [waits]
      trivial
  | fire waits => exact isAccounted_goOn fun _ => .inl fun _ => mem_kinds kind
  | finish waits alone empty => exact isAccounted_goOn fun _ => .inl fun _ => mem_kinds kind
  | @settle current others last saved saves =>
      apply isAccounted_goOn
      intro flagged
      rw [lastOutcome_append, lastOutcome_settled]
      rw [has_settle] at flagged
      by_cases same : kind = current
      · rw [if_pos same] at flagged ⊢
        right
        simpa using flagged
      · rw [if_neg same] at flagged ⊢
        rcases accounted flagged with ⟨_, stage⟩ | ⟨_, _, saving⟩ | failed
        · rw [saves] at stage
          exact .inl stage.2
        · rw [saves] at saving
          cases saving
          exact absurd rfl same
        · exact .inr failed

theorem isAccounted_run (capacity : Nat) (run : Run (start capacity) events final)
    (kind : SaveKind) : final.IsAccounted kind events := by
  induction run with
  | refl =>
      intro flagged
      cases kind <;> cases flagged
  | snoc _ step inductionHypothesis => exact isAccounted_step step inductionHypothesis

/-- A flag that is left at the end belongs to a kind whose last attempt failed. -/
theorem lastOutcome_of_flagged {capacity : Nat} (run : Run (start capacity) events final)
    (ended : final.stage = .ended) (flagged : final.dirty.has kind = true) :
    lastOutcome kind events = some false := by
  rcases isAccounted_run capacity run kind flagged with ⟨_, stage⟩ | ⟨_, _, saving⟩ | failed
  · rw [ended] at stage
    exact stage.elim
  · rw [ended] at saving
    cases saving
  · exact failed

end Machine

end SplitDns.Persist
