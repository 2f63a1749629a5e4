import SplitDns.Proofs.Persist.Timeline

/-!
# No save waits for long

Every signal puts the flush after quiet time off, but the ticks go on. A received signal sets a
flag, and as long as no flush tries to save its kind, the tick that comes next is one that was
ahead when the signal came, and the flush after quiet time is set to the time of the last signal.
Time passes neither of them.
-/

namespace SplitDns.Persist

/-- A signal of this kind was received at this time, and saving the kind was not tried since. -/
def Timeline.Pending (timeline : Timeline) (kind : SaveKind) (time : Nat) : Prop :=
  ∃ earlier later, timeline = earlier ++ (time, .received kind) :: later ∧
    ∀ stamp saved, (stamp, .attempted kind saved) ∉ later

/-- What is pending was so before, or was received just now; and nothing new has tried it. -/
theorem Timeline.Pending.of_append {earlier deeds : Timeline} {kind : SaveKind} {time : Nat}
    (pending : Pending (earlier ++ deeds) kind time) :
    (earlier.Pending kind time ∧ ∀ stamp saved, (stamp, .attempted kind saved) ∉ deeds) ∨
      (time, .received kind) ∈ deeds := by
  obtain ⟨before, after, same, untried⟩ := pending
  rcases List.append_eq_append_iff.mp same with ⟨between, rfl, cut⟩ | ⟨between, rfl, cut⟩
  · right
    rw [cut]
    exact List.mem_append_right _ (List.mem_cons_self ..)
  · rcases List.cons_eq_append_iff.mp cut with ⟨rfl, found⟩ | ⟨rest, rfl, rfl⟩
    · right
      rw [found]
      exact List.mem_cons_self ..
    · refine .inl ⟨⟨before, rest, rfl, ?_⟩, ?_⟩
      · intro stamp saved tried
        exact untried stamp saved (List.mem_append_left _ tried)
      · intro stamp saved tried
        exact untried stamp saved (List.mem_append_right _ tried)

variable {State : Type}

/-! ### What a flush tries -/

namespace Dirty

variable {kind other : SaveKind} {dirty : Dirty}

theorem has_flushKind (target : Target State) (dirty : Dirty) (different : other ≠ kind)
    (state : State) :
    (dirty.flushKind target kind state).1.has other = dirty.has other := by
  unfold flushKind
  split
  · rw [has_set, if_neg different]
  · rfl

theorem exists_attempt_flushKind (target : Target State) (flagged : dirty.has kind = true)
    (state : Logged State) :
    ∃ saved, (kind, saved) ∈ (dirty.flushKind (logged target) kind state).2.2 := by
  rw [flushKind, if_pos flagged]
  exact ⟨(target kind state.1).1, List.mem_append_right _ (List.mem_singleton_self _)⟩

theorem mem_log_flushKind {target : Target State} {attempt : SaveKind × Bool}
    {state : Logged State}
    (tried : attempt ∈ state.2) :
    attempt ∈ (dirty.flushKind (logged target) kind state).2.2 := by
  unfold flushKind
  split
  · exact List.mem_append_left _ tried
  · exact tried

/-- A flush tries to save every flagged kind. -/
theorem exists_attempt_flush (target : Target State) (flagged : dirty.has kind = true)
    (state : Logged State) :
    ∃ saved, (kind, saved) ∈ (dirty.flush (logged target) state).2.2 := by
  cases kind with
  | addressSet =>
      obtain ⟨saved, tried⟩ := exists_attempt_flushKind target flagged state
      exact ⟨saved, mem_log_flushKind tried⟩
  | addressMap =>
      have different : SaveKind.addressMap ≠ .addressSet := by decide
      have unchanged := has_flushKind (logged target) dirty different state
      exact exists_attempt_flushKind target (unchanged.trans flagged) _

end Dirty

namespace Service

variable {timing : Timing} {service final : Service State} {timeline deeds : Timeline}
variable {kind : SaveKind} {time : Nat}

theorem exists_mem_flushed (target : Target State)
    (flagged : service.scheduler.dirty.has kind = true) :
    ∃ saved, (service.now, .attempted kind saved) ∈ service.flushed target := by
  obtain ⟨saved, tried⟩ := Dirty.exists_attempt_flush target flagged (service.state, [])
  exact ⟨saved, List.mem_map.mpr ⟨(kind, saved), tried, rfl⟩⟩

theorem received_notMem_flushed (target : Target State) :
    (time, .received kind) ∉ service.flushed target := by
  intro received
  obtain ⟨attempt, -, same⟩ := List.mem_map.mp received
  cases same

end Service

/-! ### The timers and what is pending -/

/-- Both timers lie only so far ahead as what is pending allows. -/
structure Scheduler.Owes (timing : Timing) (scheduler : Scheduler) (timeline : Timeline)
    (kind : SaveKind) (time : Nat) : Prop where
  flagged : scheduler.dirty.has kind = true
  tick : scheduler.tick ≤ time + timing.interval
  batch : ∃ last other, (last, .received other) ∈ timeline ∧
    scheduler.batch = some (last + timing.quiet)

namespace Service

variable {timing : Timing} {service final : Service State} {timeline deeds : Timeline}
variable {kind : SaveKind} {time : Nat}

structure Prompt (timing : Timing) (service : Service State) (timeline : Timeline) : Prop where
  punctual : service.Punctual
  tick : service.isDone = false → service.scheduler.tick ≤ service.now + timing.interval
  owes : ∀ kind time, timeline.Pending kind time →
    service.isDone = false ∧ service.scheduler.Owes timing timeline kind time

theorem prompt_start (timing : Timing) (capacity : Nat) (state : State) :
    Prompt timing (start timing capacity state) [] := by
  refine ⟨punctual_start timing capacity state, fun _ => Nat.le_refl _, ?_⟩
  rintro kind time ⟨earlier, later, impossible, -⟩
  cases List.append_ne_nil_of_right_ne_nil earlier (List.cons_ne_nil _ _) impossible.symm

/-- A flush leaves nothing pending. -/
theorem Prompt.not_pending_flushed (prompt : Prompt timing service timeline)
    (target : Target State) :
    ¬ Timeline.Pending (timeline ++ service.flushed target) kind time := by
  intro pending
  rcases pending.of_append with ⟨pending, untried⟩ | received
  · have owes := (prompt.owes kind time pending).2
    obtain ⟨saved, tried⟩ := exists_mem_flushed target owes.flagged
    exact untried _ _ tried
  · exact received_notMem_flushed target received

theorem Prompt.owes_receive (prompt : Prompt timing service timeline)
    (works : service.isDone = false) {fresh : SaveKind}
    (pending : Timeline.Pending (timeline ++ [(service.now, .received fresh)]) kind time) :
    (service.scheduler.receive timing service.now fresh).Owes timing
      (timeline ++ [(service.now, .received fresh)]) kind time := by
  have latest : (service.now, .received fresh) ∈
      timeline ++ [(service.now, .received fresh)] :=
    List.mem_append_right _ (List.mem_singleton_self _)
  rcases pending.of_append with ⟨before, -⟩ | now
  · have owes := (prompt.owes kind time before).2
    refine ⟨?_, owes.tick, service.now, fresh, latest, rfl⟩
    change (service.scheduler.dirty.set fresh true).has kind = true
    rw [Dirty.has_set, owes.flagged, ite_self]
  · cases List.mem_singleton.mp now
    refine ⟨?_, prompt.tick works, service.now, kind, latest, rfl⟩
    change (service.scheduler.dirty.set kind true).has kind = true
    rw [Dirty.has_set, if_pos rfl]

theorem Prompt.move (prompt : Prompt timing service timeline)
    (move : Move timing service deeds final) : Prompt timing final (timeline ++ deeds) := by
  have punctual := prompt.punctual.move move
  cases move with
  | copy alive =>
      rw [List.append_nil]
      exact ⟨punctual, prompt.tick, prompt.owes⟩
  | drop alive =>
      rw [List.append_nil]
      exact ⟨punctual, prompt.tick, prompt.owes⟩
  | send kind alive =>
      rw [List.append_nil]
      exact ⟨punctual, prompt.tick, prompt.owes⟩
  | receive works received =>
      exact ⟨punctual, prompt.tick, fun _ _ pending => ⟨works, prompt.owes_receive works pending⟩⟩
  -- Nothing is owed after a flush, so the timers may be set anew.
  | batch target works armed due =>
      refine ⟨punctual, prompt.tick, fun _ _ pending => ?_⟩
      cases prompt.not_pending_flushed target pending
  | tick target works due =>
      refine ⟨punctual, fun _ => Nat.le_refl _, fun _ _ pending => ?_⟩
      cases prompt.not_pending_flushed target pending
  | finish target works alone empty =>
      refine ⟨punctual, fun impossible => ?_, fun _ _ pending => ?_⟩
      · cases impossible
      · cases prompt.not_pending_flushed target pending
  | wait onward idle =>
      rw [List.append_nil]
      refine ⟨punctual, fun works => ?_, prompt.owes⟩
      exact Nat.le_trans (prompt.tick works) (Nat.add_le_add_right onward _)

theorem prompt_course {capacity : Nat} {state : State}
    (course : Course timing (start timing capacity state) timeline final) :
    Prompt timing final timeline := by
  generalize same : start timing capacity state = first at course
  induction course with
  | refl =>
      subst same
      exact prompt_start timing capacity state
  | snoc _ move inductionHypothesis => exact inductionHypothesis.move move

theorem Prompt.now_le (prompt : Prompt timing final timeline)
    (pending : timeline.Pending kind time) :
    final.now ≤ time + timing.interval ∧
      ∀ silence, time ≤ silence →
        (∀ stamp other, (stamp, .received other) ∈ timeline → stamp ≤ silence) →
        final.now ≤ silence + timing.quiet := by
  obtain ⟨works, owes⟩ := prompt.owes kind time pending
  obtain ⟨last, other, received, armed⟩ := owes.batch
  refine ⟨Nat.le_trans (prompt.punctual.tick works) owes.tick, ?_⟩
  intro silence _ silent
  calc final.now ≤ last + timing.quiet := prompt.punctual.batch works _ armed
    _ ≤ silence + timing.quiet := Nat.add_le_add_right (silent last other received) _

/--
A save is not put off for long, however dense the signals: while a received signal waits for an
attempt to save its kind, no more than the time between two ticks passes after it, and no more than
the quiet time after the time from which on no signal at all was received.
-/
theorem now_le_of_pending {capacity : Nat} {state : State}
    (course : Course timing (start timing capacity state) timeline final)
    (pending : timeline.Pending kind time) :
    final.now ≤ time + timing.interval ∧
      ∀ silence, time ≤ silence →
        (∀ stamp other, (stamp, .received other) ∈ timeline → stamp ≤ silence) →
        final.now ≤ silence + timing.quiet :=
  (prompt_course course).now_le pending

/-- The second signal puts the flush after quiet time off to the very time of the tick. -/
theorem now_le_of_pending_until_tick :
    let timing : Timing := ⟨3, 2, by decide⟩
    let timeline : Timeline := [(0, .received .addressSet), (1, .received .addressMap)]
    let final : Service Unit := ⟨3, 1, .new 8, ⟨⟨true, true⟩, some 3, 3⟩, false, ()⟩
    Course timing (start timing 8 ()) timeline final ∧ timeline.Pending .addressSet 0 ∧
      final.now ≤ 0 + 3 ∧ final.now ≤ 1 + 2 := by
  intro timing timeline final
  have early : Course timing (start timing 8 ()) [(0, .received .addressSet)]
      ⟨0, 1, .new 8, ⟨⟨true, false⟩, some 2, 3⟩, false, ()⟩ :=
    .trans (.single (.send .addressSet (by decide))) (.single (.receive rfl rfl))
  have passes : Course timing (start timing 8 ()) [(0, .received .addressSet)]
      ⟨1, 1, .new 8, ⟨⟨true, false⟩, some 2, 3⟩, false, ()⟩ :=
    early.snoc (.wait (by decide) fun _ => ⟨rfl, by decide, by rintro _ ⟨⟩; decide⟩)
  have late : Course timing (start timing 8 ()) timeline
      ⟨1, 1, .new 8, ⟨⟨true, true⟩, some 3, 3⟩, false, ()⟩ :=
    passes.trans (.trans (.single (.send .addressMap (by decide))) (.single (.receive rfl rfl)))
  have ends : Course timing (start timing 8 ()) timeline final :=
    late.snoc (.wait (by decide) fun _ => ⟨rfl, by decide, by rintro _ ⟨⟩; decide⟩)
  have pending : timeline.Pending .addressSet 0 :=
    ⟨[], [(1, .received .addressMap)], rfl, by simp⟩
  obtain ⟨beforeTick, beforeQuiet⟩ := now_le_of_pending ends pending
  refine ⟨ends, pending, beforeTick, beforeQuiet 1 (by decide) ?_⟩
  intro stamp other received
  simp only [timeline, List.mem_cons, Prod.mk.injEq, List.not_mem_nil, or_false] at received
  omega

/-! ### The service that runs -/

/--
Whatever is done with a service that obeys its timers in order, no save is put off for long on the
course that it takes with the attempts that it makes.
-/
theorem exists_prompt_timeline (timing : Timing) (target : Nat → Target State)
    (operations : List Operation) (capacity : Nat) (state : State) :
    let final := (start timing capacity state).performAll timing target operations
    ∃ timeline, Course timing (start timing capacity state) timeline final ∧
      timeline.attempts = (start timing capacity state).attempts timing target operations ∧
      ∀ kind time, timeline.Pending kind time →
        final.now ≤ time + timing.interval ∧
          ∀ silence, time ≤ silence →
            (∀ stamp other, (stamp, .received other) ∈ timeline → stamp ≤ silence) →
            final.now ≤ silence + timing.quiet := by
  obtain ⟨timeline, course, attempted⟩ := exists_course timing target operations capacity state
  exact ⟨timeline, course, attempted, fun _ _ => (prompt_course course).now_le⟩

/--
A service that runs for longer than the time between two ticks tries to save every kind that a
signal waited for when it went on.
-/
theorem exists_attempt_of_waiting (timing : Timing) (target : Nat → Target State)
    (operations : List Operation) (capacity : Nat) (state : State) {milliseconds : Nat}
    (longer : timing.interval < milliseconds) :
    let service := (start timing capacity state).performAll timing target operations
    service.isDone = false → ∀ kind ∈ service.signals.waiting,
      ∃ saved, (kind, saved) ∈ service.attempts timing target [.run milliseconds] := by
  intro service works kind waits
  obtain ⟨before, course, _⟩ := exists_course timing target operations capacity state
  have punctual := (punctual_start timing capacity state).course course
  let logging : Service (Logged State) := { service with state := (service.state, []) }
  have punctualThen : logging.Punctual := ⟨punctual.tick, punctual.batch⟩
  obtain ⟨later, runs, logs⟩ := exists_course_run timing works punctualThen target milliseconds
  have tries : later.attempts = service.attempts timing target [.run milliseconds] := logs
  refine Classical.byContradiction fun untried => ?_
  have pending : Timeline.Pending
      (before ++ ((service.signals.waiting.map fun kind => (service.now, .received kind)) ++ later))
      kind service.now := by
    obtain ⟨first, rest, cut⟩ := List.append_of_mem waits
    refine ⟨before ++ first.map fun kind => (service.now, .received kind),
      (rest.map fun kind => (service.now, .received kind)) ++ later, ?_, ?_⟩
    · rw [cut, List.map_append, List.map_cons]
      simp only [List.append_assoc, List.cons_append]
    · intro stamp saved tried
      rcases List.mem_append.mp tried with received | attempted
      · obtain ⟨other, _, same⟩ := List.mem_map.mp received
        cases same
      · apply untried
        rw [← tries]
        exact ⟨saved, Timeline.mem_attempts.mpr ⟨stamp, attempted⟩⟩
  have bound := ((prompt_course (course.trans runs)).now_le pending).1
  have now : (logging.run timing (loggedAt target) milliseconds).withoutLog.now =
      service.now + milliseconds :=
    now_run timing (loggedAt target) milliseconds logging
  omega

end Service

end SplitDns.Persist
