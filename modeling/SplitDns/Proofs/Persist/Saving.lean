import SplitDns.Persist.Script
import SplitDns.Persist.Service
import SplitDns.Proofs.Persist.Machine

/-!
# Which signals lead to a save

A kind is owed while a signal of it waits, or while it is flagged and the flush under way does not
try it already. What is owed is tried before the scheduler ends. A kind that is not owed is tried
only if a later signal is accepted or an attempt fails, so a signal that is dropped from a queue
without its kind may be lost for good: `began_iff` is the exact condition.
-/

namespace SplitDns.Persist

theorem waiting_send (signals : Signals) (kind : SaveKind) :
    (signals.send kind).2.waiting =
      if (signals.send kind).1 then signals.waiting ++ [kind] else signals.waiting := by
  unfold Signals.send
  split <;> rfl

namespace Machine

variable {machine next middle final : Machine} {kind : SaveKind} {earlier events later : List Event}

/-! ### The last flush -/

/-- No signal can come any more. -/
def IsLast (machine : Machine) : Prop :=
  machine.stage = .ended ∨ ∃ kind others, machine.stage = .saving kind others true

/-- In the last flush nobody is left to signal, and no signal waits. -/
def Closed (machine : Machine) : Prop :=
  machine.IsLast → machine.senders = 0 ∧ machine.signals.waiting = []

theorem isLast_goOn (machine : Machine) (last : Bool) (others : List SaveKind) :
    (machine.goOn last others).IsLast ↔ last = true := by
  rw [IsLast, goOn]
  rcases machine.dirty.next_cases last others with ⟨done, _⟩ | ⟨kind, rest, saving, _⟩
  · rw [done]
    cases last <;> simp
  · rw [saving]
    simp

theorem closed_start (capacity : Nat) : (start capacity).Closed := by
  rintro (ended | ⟨kind, others, saving⟩)
  · cases ended
  · cases saving

theorem closed_step (step : Step machine events next) (closed : machine.Closed) :
    next.Closed := by
  cases step with
  | copy alive =>
      intro last
      have none := (closed last).1
      omega
  | drop alive =>
      intro last
      have none := (closed last).1
      omega
  | signal kind alive =>
      intro last
      have none := (closed last).1
      omega
  | receive waits received =>
      rintro (ended | ⟨kind, others, saving⟩)
      · exact absurd (waits.symm.trans ended) (by simp)
      · exact absurd (waits.symm.trans saving) (by simp)
  | fire waits =>
      intro last
      cases (machine.isLast_goOn false kinds).mp last
  | finish waits alone empty => exact fun _ => ⟨alone, empty⟩
  | settle saved saves =>
      intro last
      have same := (isLast_goOn _ _ _).mp last
      subst same
      exact closed (.inr ⟨_, _, saves⟩)

theorem closed_run (run : Run machine events final) (closed : machine.Closed) :
    final.Closed := by
  induction run with
  | refl => exact closed
  | snoc _ step inductionHypothesis => exact closed_step step inductionHypothesis

/-! ### What is owed -/

/-- A flagged kind that is tried again before the end. -/
def IsPending (machine : Machine) (kind : SaveKind) : Prop :=
  machine.dirty.has kind = true ∧
    match machine.stage with
    | .waiting => True
    | .saving current others last => current ≠ kind ∧ (last = true → kind ∈ others)
    | .ended => False

def IsOwed (machine : Machine) (kind : SaveKind) : Prop :=
  kind ∈ machine.signals.waiting ∨ machine.IsPending kind

/-- A flush goes on to a flagged kind in its time. -/
theorem began_or_isPending_goOn (machine : Machine) {last : Bool} {others : List SaveKind}
    (flagged : machine.dirty.has kind = true) (ahead : last = true → kind ∈ others) :
    .began kind ∈ (machine.dirty.next last others).begun ∨
      (machine.goOn last others).IsPending kind := by
  rw [IsPending, goOn]
  rcases machine.dirty.next_cases last others with ⟨done, clear⟩ | ⟨head, rest, saving, found⟩
  · rw [done]
    cases last with
    | false => exact .inr ⟨flagged, trivial⟩
    | true =>
        rw [clear kind (ahead rfl)] at flagged
        cases flagged
  · obtain ⟨_, skipped, rfl, clear⟩ := found
    rw [saving]
    by_cases same : head = kind
    · subst same
      exact .inl List.mem_cons_self
    · refine .inr ⟨flagged, same, ?_⟩
      intro isLast
      rcases List.mem_append.mp (ahead isLast) with inSkipped | later
      · rw [clear kind inSkipped] at flagged
        cases flagged
      · rcases List.mem_cons.mp later with equal | inRest
        · exact absurd equal.symm same
        · exact inRest

theorem began_or_isOwed_goOn (machine : Machine) {last : Bool} {others : List SaveKind}
    (flagged : machine.dirty.has kind = true) (ahead : last = true → kind ∈ others) :
    .began kind ∈ (machine.dirty.next last others).begun ∨
      (machine.goOn last others).IsOwed kind :=
  (began_or_isPending_goOn machine flagged ahead).imp id .inr

theorem began_or_isOwed_step (step : Step machine events next) (owed : machine.IsOwed kind) :
    .began kind ∈ events ∨ next.IsOwed kind := by
  cases step with
  | copy alive => exact .inr owed
  | drop alive => exact .inr owed
  | signal other alive =>
      right
      rcases owed with waits | pending
      · left
        rw [send, waiting_send]
        split
        · exact List.mem_append_left _ waits
        · exact waits
      · exact .inr pending
  | @receive other rest waits received =>
      right
      rcases owed with inQueue | pending
      · rw [Signals.waiting_of_receive? received] at inQueue
        rcases List.mem_cons.mp inQueue with rfl | later
        · refine .inr ⟨?_, ?_⟩
          · rw [Dirty.mark, Dirty.has_set, if_pos rfl]
          · rw [waits]
            trivial
        · exact .inl later
      · refine .inr ⟨?_, ?_⟩
        · rw [Dirty.mark, Dirty.has_set, pending.1]
          split <;> rfl
        · rw [waits]
          trivial
  | fire waits =>
      rcases owed with inQueue | pending
      · exact .inr (.inl inQueue)
      · exact began_or_isOwed_goOn machine pending.1 fun _ => mem_kinds kind
  | finish waits alone empty =>
      rcases owed with inQueue | pending
      · rw [empty] at inQueue
        cases inQueue
      · exact began_or_isOwed_goOn machine pending.1 fun _ => mem_kinds kind
  | @settle current others last saved saves =>
      rcases owed with inQueue | pending
      · exact .inr (.inl inQueue)
      · obtain ⟨flagged, stage⟩ := pending
        rw [saves] at stage
        have flaggedStill : (machine.settle current saved).dirty.has kind = true := by
          rw [has_settle, if_neg (Ne.symm stage.1)]
          exact flagged
        exact (began_or_isOwed_goOn _ flaggedStill stage.2).imp (List.mem_cons_of_mem _) id

theorem began_or_isOwed_run (run : Run machine events final) (owed : machine.IsOwed kind) :
    .began kind ∈ events ∨ final.IsOwed kind := by
  induction run with
  | refl => exact .inr owed
  | snoc _ step inductionHypothesis =>
      rcases inductionHypothesis with begins | stays
      · exact .inl (List.mem_append_left _ begins)
      · rcases began_or_isOwed_step step stays with begins | stays
        · exact .inl (List.mem_append_right _ begins)
        · exact .inr stays

/-- Nothing is owed when the scheduler has ended. -/
theorem not_isOwed_of_ended (closed : machine.Closed) (ended : machine.stage = .ended) :
    ¬ machine.IsOwed kind := by
  rintro (inQueue | ⟨_, stage⟩)
  · rw [(closed (.inl ended)).2] at inQueue
    cases inQueue
  · rw [ended] at stage
    exact stage

/-- What is owed is tried before the scheduler ends. -/
theorem began_of_isOwed (run : Run machine events final) (closed : machine.Closed)
    (ended : final.stage = .ended) (owed : machine.IsOwed kind) : .began kind ∈ events := by
  rcases began_or_isOwed_run run owed with begins | stays
  · exact begins
  · exact absurd stays (not_isOwed_of_ended (closed_run run closed) ended)

/-! ### What is not owed -/

/-- A kind that is in nobody's hands, or just in those of an attempt. -/
def IsQuiet (machine : Machine) (kind : SaveKind) : Prop :=
  kind ∉ machine.signals.waiting ∧
    (machine.dirty.has kind = true → ∃ others last, machine.stage = .saving kind others last)

theorem has_of_began {dirty : Dirty} {last : Bool} {others : List SaveKind}
    (begins : .began kind ∈ (dirty.next last others).begun) : dirty.has kind = true := by
  rcases dirty.next_cases last others with ⟨done, _⟩ | ⟨head, rest, saving, flagged, _⟩
  · rw [done] at begins
    cases last <;> cases begins
  · rw [saving] at begins
    cases List.mem_singleton.mp begins
    exact flagged

theorem isQuiet_goOn (machine : Machine) {last : Bool} {others : List SaveKind}
    (unqueued : kind ∉ machine.signals.waiting) (clear : machine.dirty.has kind = false) :
    (machine.goOn last others).IsQuiet kind ∧
      .began kind ∉ (machine.dirty.next last others).begun := by
  refine ⟨⟨unqueued, ?_⟩, ?_⟩
  · intro flagged
    exact absurd flagged (by simp [goOn, clear])
  · intro begins
    have flagged := has_of_began begins
    rw [clear] at flagged
    cases flagged

/-- An attempt has to fail, or a signal to be accepted, before a quiet kind is tried again. -/
theorem isQuiet_step (step : Step machine events next) (quiet : machine.IsQuiet kind)
    (unsent : .sent kind true ∉ events) (unfailed : .settled kind false ∉ events) :
    next.IsQuiet kind ∧ .began kind ∉ events := by
  obtain ⟨unqueued, handled⟩ := quiet
  have clear (waits : machine.stage = .waiting) : machine.dirty.has kind = false := by
    refine Bool.eq_false_iff.mpr fun flagged => ?_
    obtain ⟨_, _, saving⟩ := handled flagged
    rw [waits] at saving
    cases saving
  cases step with
  | copy alive => exact ⟨⟨unqueued, handled⟩, List.not_mem_nil⟩
  | drop alive => exact ⟨⟨unqueued, handled⟩, List.not_mem_nil⟩
  | signal other alive =>
      refine ⟨⟨?_, handled⟩, by simp⟩
      rw [send, waiting_send]
      split
      next accepted =>
        rw [List.mem_append, List.mem_singleton]
        rintro (old | rfl)
        · exact unqueued old
        · exact unsent (by simp [send, accepted])
      next => exact unqueued
  | @receive other rest waits received =>
      rw [Signals.waiting_of_receive? received, List.mem_cons, not_or] at unqueued
      refine ⟨⟨unqueued.2, ?_⟩, List.not_mem_nil⟩
      rw [Dirty.mark, Dirty.has_set, if_neg unqueued.1]
      exact handled
  | fire waits => exact isQuiet_goOn machine unqueued (clear waits)
  | finish waits alone empty => exact isQuiet_goOn machine unqueued (clear waits)
  | @settle current others last saved saves =>
      have cleared : (machine.settle current saved).dirty.has kind = false := by
        rw [has_settle]
        by_cases same : kind = current
        · subst same
          cases saved with
          | false => exact absurd List.mem_cons_self unfailed
          | true => rw [if_pos rfl, Bool.not_true]
        · rw [if_neg same]
          refine Bool.eq_false_iff.mpr fun flagged => ?_
          obtain ⟨_, _, saving⟩ := handled flagged
          rw [saves] at saving
          cases saving
          exact same rfl
      obtain ⟨quietAfter, unbegun⟩ :
          ((machine.settle current saved).goOn last others).IsQuiet kind ∧ _ :=
        isQuiet_goOn _ unqueued cleared
      refine ⟨quietAfter, ?_⟩
      intro begins
      rcases List.mem_cons.mp begins with equal | later
      · cases equal
      · exact unbegun later

theorem isQuiet_run (run : Run machine events final) (quiet : machine.IsQuiet kind)
    (unsent : .sent kind true ∉ events) (unfailed : .settled kind false ∉ events) :
    final.IsQuiet kind ∧ .began kind ∉ events := by
  induction run with
  | refl => exact ⟨quiet, List.not_mem_nil⟩
  | snoc _ step inductionHypothesis =>
      rw [List.mem_append, not_or] at unsent unfailed ⊢
      obtain ⟨quietBefore, notBefore⟩ := inductionHypothesis unsent.1 unfailed.1
      obtain ⟨quietAfter, notThen⟩ := isQuiet_step step quietBefore unsent.2 unfailed.2
      exact ⟨quietAfter, notBefore, notThen⟩

/-! ### Attempts that fail -/

/-- An attempt of the last flush was begun in a run that began before that flush. -/
theorem began_of_last (run : Run machine events final) (open_ : ¬ machine.IsLast)
    {others : List SaveKind} (saving : final.stage = .saving kind others true) :
    .began kind ∈ events := by
  have begins {stage : Stage} (saving : stage = .saving kind others true) :
      .began kind ∈ stage.begun := by
    rw [saving]
    exact List.mem_cons_self
  induction run with
  | refl => exact absurd (.inr ⟨_, _, saving⟩) open_
  | snoc run step inductionHypothesis =>
      rw [List.mem_append]
      cases step with
      | copy alive => exact .inl (inductionHypothesis saving)
      | drop alive => exact .inl (inductionHypothesis saving)
      | signal other alive => exact .inl (inductionHypothesis saving)
      | receive waits received => exact .inl (inductionHypothesis saving)
      | fire waits => exact .inr (begins saving)
      | finish waits alone empty => exact .inr (begins saving)
      | settle saved saves => exact .inr (List.mem_cons_of_mem _ (begins saving))

theorem began_of_failed (run : Run machine events final) (closed : machine.Closed)
    (open_ : ¬ machine.IsLast) (ended : final.stage = .ended)
    (failed : .settled kind false ∈ events) : .began kind ∈ events := by
  obtain ⟨before, after, earlier, now, later, begun, step, here, rest, rfl⟩ :=
    run.exists_step_of_mem failed
  rw [List.mem_append, List.mem_append]
  have closedAfter := closed_step step (closed_run begun closed)
  have none (stage : Stage) : .settled kind false ∉ stage.begun := by
    cases stage <;> simp [Stage.begun]
  cases step with
  | copy alive => cases here
  | drop alive => cases here
  | signal other alive => cases List.mem_singleton.mp here
  | receive waits received => cases here
  | fire waits => exact absurd here (none _)
  | finish waits alone empty => exact absurd here (none _)
  | @settle current others last saved saves =>
      rcases List.mem_cons.mp here with equal | later
      · cases equal
        cases last with
        | true => exact .inl (began_of_last begun open_ saves)
        | false =>
            have flagged : (before.settle kind false).dirty.has kind = true := by
              rw [has_settle, if_pos rfl, Bool.not_false]
            rcases began_or_isPending_goOn _ flagged
                (fun impossible => absurd impossible Bool.false_ne_true) with begins | pending
            · exact .inr (.inl (List.mem_cons_of_mem _ begins))
            · exact .inr (.inr (began_of_isOwed rest closedAfter ended (.inr pending)))
      · exact absurd later (none _)

theorem isOwed_send (accepted : (machine.send kind).1 = true) :
    (machine.send kind).2.IsOwed kind := by
  left
  rw [send] at accepted ⊢
  rw [waiting_send, if_pos accepted]
  exact List.mem_append_right _ List.mem_cons_self

theorem began_of_sent (run : Run machine events final) (closed : machine.Closed)
    (ended : final.stage = .ended) (sent : .sent kind true ∈ events) : .began kind ∈ events := by
  obtain ⟨before, after, earlier, now, later, begun, step, here, rest, rfl⟩ :=
    run.exists_step_of_mem sent
  rw [List.mem_append, List.mem_append]
  have closedAfter := closed_step step (closed_run begun closed)
  have none (stage : Stage) : .sent kind true ∉ stage.begun := by
    cases stage <;> simp [Stage.begun]
  cases step with
  | copy alive => cases here
  | drop alive => cases here
  | receive waits received => cases here
  | fire waits => exact absurd here (none _)
  | finish waits alone empty => exact absurd here (none _)
  | settle saved saves =>
      rcases List.mem_cons.mp here with equal | later
      · cases equal
      · exact absurd later (none _)
  | signal other alive =>
      have equal := List.mem_singleton.mp here
      simp only [Event.sent.injEq] at equal
      obtain ⟨rfl, accepted⟩ := equal
      exact .inr (.inr (began_of_isOwed rest closedAfter ended (isOwed_send accepted.symm)))

/-! ### The fate of a signal -/

def IsSaving (machine : Machine) (kind : SaveKind) : Prop :=
  ∃ others last, machine.stage = .saving kind others last

theorem not_isLast_of_senders (closed : machine.Closed) (alive : 0 < machine.senders) :
    ¬ machine.IsLast := by
  intro last
  have none := (closed last).1
  omega

/-- A flagged kind that is not just being saved is tried again. -/
theorem isPending_of_free (open_ : ¬ machine.IsLast) (flagged : machine.dirty.has kind = true)
    (free : ¬ machine.IsSaving kind) : machine.IsPending kind := by
  refine ⟨flagged, ?_⟩
  cases stage : machine.stage with
  | waiting => trivial
  | ended => exact open_ (.inl stage)
  | saving current others last =>
      constructor
      · rintro rfl
        exact free ⟨others, last, stage⟩
      · rintro rfl
        exact absurd (.inr ⟨current, others, stage⟩) open_

/--
A kind is tried after a signal of it exactly if the signal is accepted, or another one waits
already, or the kind is flagged and not just being saved, or an attempt fails later, or a later
signal is accepted.
-/
theorem began_iff (capacity : Nat) (earlier later : List Event) (machine final : Machine)
    (kind : SaveKind) (reached : Run (start capacity) earlier machine)
    (alive : 0 < machine.senders) (run : Run (machine.send kind).2 later final)
    (ended : final.stage = .ended) :
    .began kind ∈ later ↔
      (machine.send kind).1 = true ∨ kind ∈ machine.signals.waiting ∨
        (machine.dirty.has kind = true ∧ ¬ machine.IsSaving kind) ∨
        .settled kind false ∈ later ∨ .sent kind true ∈ later := by
  have closed := closed_run reached (closed_start capacity)
  have closedSent := closed_step (.signal kind alive) closed
  have open_ := not_isLast_of_senders closed alive
  constructor
  · intro begins
    apply Classical.byContradiction
    intro lost
    simp only [not_or, not_and, Classical.not_not] at lost
    obtain ⟨dropped, unqueued, handled, unfailed, unsent⟩ := lost
    have quiet : (machine.send kind).2.IsQuiet kind := by
      refine ⟨?_, handled⟩
      rw [send] at dropped ⊢
      rw [waiting_send, if_neg dropped]
      exact unqueued
    exact (isQuiet_run run quiet unsent unfailed).2 begins
  · rintro (accepted | inQueue | ⟨flagged, free⟩ | failed | sent)
    · exact began_of_isOwed run closedSent ended (isOwed_send accepted)
    · rcases began_or_isOwed_step (.signal kind alive) (.inl inQueue) with begins | owed
      · cases List.mem_singleton.mp begins
      · exact began_of_isOwed run closedSent ended owed
    · exact began_of_isOwed run closedSent ended (.inr (isPending_of_free open_ flagged free))
    · exact began_of_failed run closedSent open_ ended failed
    · exact began_of_sent run closedSent ended sent

/-- A signal that is accepted just before the last sender leaves. -/
theorem began_iff_accepted :
    ∃ later final, Run ((start 1).send .addressMap).2 later final ∧ final.stage = .ended ∧
      .began .addressMap ∈ later := by
  have dropped : Run ((start 1).send .addressMap).2 _ _ := .single (.drop (by decide))
  have received := dropped.snoc (.receive rfl rfl)
  have finished := received.snoc (.finish rfl rfl rfl)
  have settled := finished.snoc (.settle true rfl)
  have begins := (began_iff 1 [] _ (start 1) _ .addressMap .refl (by decide) settled rfl).mpr
    (.inl rfl)
  exact ⟨_, _, settled, rfl, begins⟩

/--
A signal that finds the queue full of the other kind. It is dropped, and nothing tries to save its
kind before the scheduler ends, neither step by step nor in the timed service.
-/
theorem dropped_signal_unsaved :
    (∃ machine later final, Run (start 1) [.sent .addressSet true] machine ∧
      0 < machine.senders ∧ (machine.send .addressMap).1 = false ∧
      Run (machine.send .addressMap).2 later final ∧ final.stage = .ended ∧
      .began .addressMap ∉ later) ∧
    (((((Service.start ⟨10000, 2000, by decide⟩ 1 (⟨[], []⟩ : Script)).send .addressSet).2.send
        .addressMap).2.dropSenders.run ⟨10000, 2000, by decide⟩ Script.target 0).state.attempts =
      [⟨0, .addressSet, true⟩]) := by
  constructor
  · have sent : Run (start 1) _ _ := .single (.signal .addressSet (by decide))
    have dropped : Run (((start 1).send .addressSet).2.send .addressMap).2 _ _ :=
      .single (.drop (by decide))
    have received := dropped.snoc (.receive rfl rfl)
    have finished := received.snoc (.finish rfl rfl rfl)
    have settled := finished.snoc (.settle true rfl)
    exact ⟨_, _, _, sent, by decide, rfl, settled, rfl, by decide⟩
  · rfl

end Machine

end SplitDns.Persist
