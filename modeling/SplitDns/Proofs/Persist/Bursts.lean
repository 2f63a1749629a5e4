import Mathlib.Data.List.Chain
import SplitDns.Proofs.Persist.Delay

/-!
# Bursts of signals

Every signal of a burst puts the flush after quiet time off, so that one flush comes for all of
them: when the quiet time after the last one ends, or before, when nobody is left to signal. The
invariant is `Phase`: nothing was received yet, or the flush is set to the end of the quiet time
after the last signal, or everything is saved and no further flush finds a flag.
-/

namespace SplitDns.Persist

/-! ### Signals and attempts of a timeline -/

namespace Timeline

/-- The received signals with their times. -/
def received (timeline : Timeline) : List (Nat × SaveKind) :=
  timeline.filterMap fun stamped => match stamped.2 with
    | .received kind => some (stamped.1, kind)
    | .attempted _ _ => none

/-- The attempts with their times. -/
def tried (timeline : Timeline) : List (Nat × SaveKind) :=
  timeline.filterMap fun stamped => match stamped.2 with
    | .attempted kind _ => some (stamped.1, kind)
    | .received _ => none

/-- No attempt fails. -/
def Saves (timeline : Timeline) : Prop :=
  ∀ time kind, (time, .attempted kind false) ∉ timeline

variable {earlier later : Timeline}

@[simp]
theorem received_append : received (earlier ++ later) = earlier.received ++ later.received :=
  List.filterMap_append

@[simp]
theorem tried_append : tried (earlier ++ later) = earlier.tried ++ later.tried :=
  List.filterMap_append

theorem saves_append : Saves (earlier ++ later) ↔ earlier.Saves ∧ later.Saves := by
  simp only [Saves, List.mem_append, not_or]
  exact ⟨fun saves => ⟨fun time kind => (saves time kind).1, fun time kind => (saves time kind).2⟩,
    fun saves time kind => ⟨saves.1 time kind, saves.2 time kind⟩⟩

/-- Without failures the attempts are those that the times tell of, all successful. -/
theorem Saves.attempts_eq {timeline : Timeline} (saves : timeline.Saves) :
    timeline.attempts = timeline.tried.map fun attempt => (attempt.2, true) := by
  induction timeline with
  | nil => rfl
  | cons stamped rest inductionHypothesis =>
      have savesRest : Saves rest := fun time kind failed =>
        saves time kind (List.mem_cons_of_mem _ failed)
      obtain ⟨time, deed⟩ := stamped
      cases deed with
      | received kind => exact inductionHypothesis savesRest
      | attempted kind saved =>
          cases saved with
          | false => exact absurd List.mem_cons_self (saves time kind)
          | true => exact congrArg ((kind, true) :: ·) (inductionHypothesis savesRest)

theorem received_attempts (now : Nat) (attempts : List (SaveKind × Bool)) :
    received (attempts.map fun attempt => (now, .attempted attempt.1 attempt.2)) = [] := by
  rw [received, List.filterMap_map]
  exact List.filterMap_eq_nil_iff.mpr fun _ _ => rfl

theorem tried_attempts (now : Nat) (attempts : List (SaveKind × Bool)) :
    tried (attempts.map fun attempt => (now, .attempted attempt.1 attempt.2)) =
      attempts.map fun attempt => (now, attempt.1) := by
  rw [tried, List.filterMap_map]
  exact congrFun List.filterMap_eq_map attempts

end Timeline

/-- One save of every kind among the signals, all of them at one time. -/
def savesOf (signals : List (Nat × SaveKind)) (moment : Nat) : List (Nat × SaveKind) :=
  (kinds.filter fun kind => signals.any (·.2 == kind)).map fun kind => (moment, kind)

/-! ### Bursts and ticks -/

/-- The times of the ticks. -/
def Timing.Ticks (timing : Timing) (time : Nat) : Prop :=
  ∃ count, 0 < count ∧ time = count * timing.interval

theorem Timing.Ticks.interval_le {timing : Timing} {time : Nat} (ticks : timing.Ticks time) :
    timing.interval ≤ time := by
  obtain ⟨count, positive, rfl⟩ := ticks
  exact Nat.le_mul_of_pos_left timing.interval positive

/--
Signals at times so close that no quiet time ends between them, and with no tick from the first
one to the end of the quiet time after the last one.
-/
structure IsBurst (timing : Timing) (first last : Nat) (times : List Nat) : Prop where
  head : times.head? = some first
  getLast : times.getLast? = some last
  close : times.IsChain fun one next => one ≤ next ∧ next < one + timing.quiet
  tickless : ∀ time, timing.Ticks time → first ≤ time → last + timing.quiet < time

theorem IsBurst.bounds {timing : Timing} {first last time : Nat} {times : List Nat}
    (burst : IsBurst timing first last times) (found : time ∈ times) :
    first ≤ time ∧ time ≤ last := by
  have ascending : times.Pairwise (· ≤ ·) :=
    (burst.close.imp fun _ _ close => close.1).pairwise
  constructor
  · obtain ⟨rest, rfl⟩ := List.head?_eq_some_iff.mp burst.head
    rcases List.mem_cons.mp found with rfl | later
    · exact Nat.le_refl _
    · exact List.rel_of_pairwise_cons ascending later
  · obtain ⟨rest, rfl⟩ := List.getLast?_eq_some_iff.mp burst.getLast
    rcases List.mem_append.mp found with earlier | same
    · exact (List.pairwise_append.mp ascending).2.2 time earlier last List.mem_cons_self
    · exact Nat.le_of_eq (List.mem_singleton.mp same)

/-! ### A flush without failures -/

namespace Dirty

variable {State : Type}

theorem flushKind_saving (target : Target State) (kind : SaveKind) (dirty : Dirty)
    (state : Logged State)
    (saves : (kind, false) ∉ (dirty.flushKind (logged target) kind state).2.2) :
    (dirty.flushKind (logged target) kind state).1 = dirty.set kind false ∧
      (dirty.flushKind (logged target) kind state).2.2 =
        state.2 ++ if dirty.has kind then [(kind, true)] else [] := by
  unfold flushKind at saves ⊢
  cases flagged : dirty.has kind with
  | true =>
      simp only [flagged, if_true, logged, List.mem_append, List.mem_singleton, not_or,
        Prod.mk.injEq, true_and] at saves ⊢
      have saved : (target kind state.1).1 = true := Bool.of_not_eq_false (Ne.symm saves.2)
      rw [saved]
      exact ⟨rfl, rfl⟩
  | false =>
      rw [if_neg (by decide), if_neg (by decide), List.append_nil]
      refine ⟨?_, rfl⟩
      cases kind <;> cases dirty <;> cases flagged <;> rfl

/-- A flush without failures tries exactly what is flagged and clears all flags. -/
theorem flush_saving (target : Target State) (dirty : Dirty) (state : State)
    (saves : ∀ kind, (kind, false) ∉ (dirty.flush (logged target) (state, [])).2.2) :
    (dirty.flush (logged target) (state, [])).1 = .clean ∧
      (dirty.flush (logged target) (state, [])).2.2 =
        (kinds.filter dirty.has).map fun kind => (kind, true) := by
  let middle := dirty.flushKind (logged target) .addressSet (state, [])
  have first := flushKind_saving target .addressSet dirty (state, [])
    fun tried => saves .addressSet (mem_log_flushKind tried)
  have second := flushKind_saving target .addressMap middle.1 middle.2 (saves .addressMap)
  change (middle.1.flushKind (logged target) .addressMap middle.2).1 = _ ∧
    (middle.1.flushKind (logged target) .addressMap middle.2).2.2 = _
  rw [second.1, second.2, first.1, first.2]
  refine ⟨rfl, ?_⟩
  rcases dirty with ⟨_ | _, _ | _⟩ <;> rfl

end Dirty

namespace Service

variable {State : Type} {timing : Timing} {origin service final : Service State}
variable {timeline deeds : Timeline}

theorem flushed_saving (target : Target State) (saves : (service.flushed target).Saves) :
    (service.scheduler.dirty.flush target service.state).1 = .clean ∧
      (service.flushed target).received = [] ∧
      (service.flushed target).tried =
        (kinds.filter service.scheduler.dirty.has).map fun kind => (service.now, kind) := by
  have saved : ∀ kind, (kind, false) ∉
      (service.scheduler.dirty.flush (logged target) (service.state, [])).2.2 :=
    fun kind tried => saves service.now kind (List.mem_map.mpr ⟨(kind, false), tried, rfl⟩)
  obtain ⟨clean, attempts⟩ := Dirty.flush_saving target _ service.state saved
  refine ⟨?_, Timeline.received_attempts _ _, ?_⟩
  · rw [← dirty_flush_logged, clean]
  · rw [flushed, Timeline.tried_attempts]
    change List.map _ (service.scheduler.dirty.flush (logged target) (service.state, [])).2.2 = _
    rw [attempts, List.map_map]
    rfl

/-! ### The ticks are on the beat -/

structure OnBeat (timing : Timing) (service : Service State) : Prop where
  punctual : service.Punctual
  tick : timing.Ticks service.scheduler.tick

theorem onBeat_start (timing : Timing) (capacity : Nat) (state : State) :
    OnBeat timing (start timing capacity state) := by
  refine ⟨punctual_start timing capacity state, 1, Nat.one_pos, ?_⟩
  rw [Nat.one_mul]
  exact Nat.zero_add _

theorem OnBeat.move (onBeat : OnBeat timing service) (move : Move timing service deeds final) :
    OnBeat timing final := by
  have punctual := onBeat.punctual.move move
  cases move with
  | tick target works due =>
      obtain ⟨count, positive, beat⟩ := onBeat.tick
      have now : service.now = service.scheduler.tick :=
        Nat.le_antisymm (onBeat.punctual.tick works) due
      refine ⟨punctual, count + 1, Nat.succ_pos count, ?_⟩
      change service.now + timing.interval = _
      rw [now, beat, Nat.succ_mul]
  | _ => exact ⟨punctual, onBeat.tick⟩

theorem OnBeat.course (onBeat : OnBeat timing service)
    (course : Course timing service timeline final) : OnBeat timing final := by
  induction course with
  | refl => exact onBeat
  | snoc _ move inductionHypothesis => exact inductionHypothesis.move move

/-! ### Phases of a burst -/

/-- At a time on the way, nobody was left to signal. -/
def Abandoned (timing : Timing) (origin : Service State) (timeline : Timeline)
    (final : Service State) (moment : Nat) : Prop :=
  ∃ middle earlier later, Course timing origin earlier middle ∧ Course timing middle later final ∧
    timeline = earlier ++ later ∧ middle.now = moment ∧ middle.senders = 0

theorem Abandoned.snoc {moment : Nat} (abandoned : Abandoned timing origin timeline service moment)
    (move : Move timing service deeds final) :
    Abandoned timing origin (timeline ++ deeds) final moment := by
  obtain ⟨middle, earlier, later, course, onward, rfl, now, alone⟩ := abandoned
  exact ⟨middle, earlier, later ++ deeds, course, onward.snoc move, List.append_assoc _ _ _, now,
    alone⟩

/-- Only a sender can be copied, so nobody signals again. -/
theorem senders_eq_zero_of_course (course : Course timing service timeline final)
    (alone : service.senders = 0) : final.senders = 0 := by
  induction course with
  | refl => exact alone
  | snoc _ move inductionHypothesis =>
      cases move with
      | copy alive | drop alive => exact absurd inductionHypothesis alive
      | _ => exact inductionHypothesis

theorem Abandoned.senders_eq_zero {moment : Nat}
    (abandoned : Abandoned timing origin timeline final moment) : final.senders = 0 := by
  obtain ⟨_, _, _, _, course, _, _, alone⟩ := abandoned
  exact senders_eq_zero_of_course course alone

/-- Where a service that was clean at first stands in a burst of signals. -/
inductive Phase (timing : Timing) (origin : Service State) (timeline : Timeline)
    (service : Service State) : Prop where
  | resting (unsignalled : timeline.received = []) (clean : service.scheduler.dirty = .clean)
      (untried : timeline.tried = [])
  | pending {earlier : List (Nat × SaveKind)} {last : Nat} {latest : SaveKind}
      (signalled : timeline.received = earlier ++ [(last, latest)])
      (works : service.isDone = false)
      (armed : service.scheduler.batch = some (last + timing.quiet))
      (flags : ∀ kind, service.scheduler.dirty.has kind = timeline.received.any (·.2 == kind))
      (passed : last ≤ service.now) (untried : timeline.tried = [])
  | saved {earlier : List (Nat × SaveKind)} {last moment : Nat} {latest : SaveKind}
      (signalled : timeline.received = earlier ++ [(last, latest)])
      (clean : service.scheduler.dirty = .clean)
      (tried : timeline.tried = savesOf timeline.received moment)
      (fromLast : last ≤ moment) (untilQuiet : moment ≤ last + timing.quiet)
      (passed : moment ≤ service.now)
      (early : moment = last + timing.quiet ∨ Abandoned timing origin timeline service moment)
      (working : service.isDone = false → moment = last + timing.quiet)

namespace Phase

/-- Senders that come and go, signals that wait and time that passes change nothing. -/
theorem rest (phase : Phase timing origin timeline service) (move : Move timing service [] final)
    (scheduler : final.scheduler = service.scheduler) (stage : final.isDone = service.isDone)
    (onward : service.now ≤ final.now) : Phase timing origin (timeline ++ []) final := by
  cases phase with
  | resting unsignalled clean untried =>
      rw [← scheduler] at clean
      rw [List.append_nil]
      exact .resting unsignalled clean untried
  | pending signalled works armed flags passed untried =>
      rw [← scheduler] at armed flags
      rw [← stage] at works
      rw [List.append_nil]
      exact .pending signalled works armed flags (Nat.le_trans passed onward) untried
  | saved signalled clean tried fromLast untilQuiet passed early working =>
      have earlyOn := early.imp_right fun abandoned => abandoned.snoc move
      rw [← scheduler] at clean
      rw [← stage] at working
      rw [List.append_nil] at earlyOn ⊢
      exact .saved signalled clean tried fromLast untilQuiet (Nat.le_trans passed onward) earlyOn
        working

/-- The flags are those of the signals so far, and one more comes. -/
theorem pending_receive
    (flags : ∀ kind, service.scheduler.dirty.has kind = timeline.received.any (·.2 == kind))
    (untried : timeline.tried = []) (works : service.isDone = false) (kind : SaveKind)
    (signals : Signals) :
    Phase timing origin (timeline ++ [(service.now, .received kind)])
      { service with
        signals := signals
        scheduler := service.scheduler.receive timing service.now kind } := by
  refine .pending Timeline.received_append works rfl ?_ (Nat.le_refl _) ?_
  · intro other
    change (service.scheduler.dirty.set kind true).has other = _
    have latest : Timeline.received [(service.now, .received kind)] = [(service.now, kind)] := rfl
    rw [Dirty.has_set, flags, Timeline.received_append, List.any_append, latest,
      List.any_cons, List.any_nil, Bool.or_false]
    split
    next same => rw [same, beq_self_eq_true, Bool.or_true]
    next other => rw [beq_false_of_ne (Ne.symm other), Bool.or_false]
  · rw [Timeline.tried_append, untried]
    rfl

/-- A signal puts the flush off, if the one before it is not saved yet. -/
theorem receive (phase : Phase timing origin timeline service) (works : service.isDone = false)
    (kind : SaveKind) (signals : Signals)
    (close : ∀ last latest, timeline.received.getLast? = some (last, latest) →
      service.now < last + timing.quiet) :
    Phase timing origin (timeline ++ [(service.now, .received kind)])
      { service with
        signals := signals
        scheduler := service.scheduler.receive timing service.now kind } := by
  cases phase with
  | resting unsignalled clean untried =>
      refine pending_receive ?_ untried works kind signals
      intro other
      rw [clean, unsignalled]
      cases other <;> rfl
  | pending _ _ _ flags _ untried => exact pending_receive flags untried works kind signals
  | saved signalled _ _ _ _ passed _ working =>
      have latest := close _ _ (List.getLast?_eq_some_iff.mpr ⟨_, signalled⟩)
      have moment := working works
      omega

/-- A flush saves what is pending, and finds no flag otherwise. -/
theorem flush (phase : Phase timing origin timeline service)
    (course : Course timing origin timeline service) (punctual : service.Punctual)
    (works : service.isDone = false) {target : Target State}
    (saves : (service.flushed target).Saves)
    (move : Move timing service (service.flushed target) final)
    (dirty : final.scheduler.dirty =
      (service.scheduler.dirty.flush target service.state).1)
    (same : final.now = service.now)
    (onTime : ∀ last latest, (last, latest) ∈ timeline.received → last ≤ service.now →
      service.scheduler.batch = some (last + timing.quiet) →
      service.now = last + timing.quiet ∨ final.isDone = true ∧ service.senders = 0) :
    Phase timing origin (timeline ++ service.flushed target) final := by
  obtain ⟨clean, unsignalled, tries⟩ := flushed_saving target saves
  rw [← dirty] at clean
  have received : Timeline.received (timeline ++ service.flushed target) = timeline.received := by
    rw [Timeline.received_append, unsignalled, List.append_nil]
  have triedNone (before : service.scheduler.dirty = .clean) :
      Timeline.tried (timeline ++ service.flushed target) = timeline.tried := by
    rw [Timeline.tried_append, tries, before]
    exact List.append_nil _
  cases phase with
  | resting none before untried =>
      exact .resting (received.trans none) clean ((triedNone before).trans untried)
  | @pending earlier last latest signalled _ armed flags passed untried =>
      have latestReceived : (last, latest) ∈ timeline.received := by
        rw [signalled]
        exact List.mem_append_right _ List.mem_cons_self
      have cause := onTime last latest latestReceived passed armed
      refine .saved (received.trans signalled) clean ?_ passed (punctual.batch works _ armed)
        (Nat.le_of_eq same.symm) ?_ ?_
      · rw [Timeline.tried_append, untried, tries, received, savesOf, List.nil_append,
          funext flags]
      · exact cause.imp_right fun alone =>
          ⟨service, timeline, _, course, .single move, rfl, rfl, alone.2⟩
      · intro working
        refine cause.resolve_right fun alone => ?_
        rw [working] at alone
        cases alone.1
  | saved signalled before tried fromLast untilQuiet passed early working =>
      rw [← received] at signalled tried
      rw [← same] at passed
      refine .saved signalled clean ((triedNone before).trans tried) fromLast untilQuiet passed
        (early.imp_right fun abandoned => abandoned.snoc move) fun _ => working works

end Phase

theorem phase_course {first last : Nat} {times : List Nat} (burst : IsBurst timing first last times)
    (onBeat : OnBeat timing origin) (clean : origin.scheduler.dirty = .clean)
    (course : Course timing origin timeline final) (saves : timeline.Saves)
    (within : timeline.received.map Prod.fst <+: times) : Phase timing origin timeline final := by
  induction course with
  | refl => exact .resting rfl clean rfl
  | @snoc middle final earlier deeds course move inductionHypothesis =>
      obtain ⟨savesEarlier, savesNow⟩ := Timeline.saves_append.mp saves
      rw [Timeline.received_append, List.map_append] at within
      have phase := inductionHypothesis savesEarlier ((List.prefix_append _ _).trans within)
      have beat := onBeat.course course
      cases move with
      | copy alive => exact phase.rest (.copy alive) rfl rfl (Nat.le_refl _)
      | drop alive => exact phase.rest (.drop alive) rfl rfl (Nat.le_refl _)
      | send kind alive => exact phase.rest (.send kind alive) rfl rfl (Nat.le_refl _)
      | @receive kind rest works received =>
          refine phase.receive works kind rest ?_
          intro last latest signalled
          obtain ⟨before, signals⟩ := List.getLast?_eq_some_iff.mp signalled
          have near := burst.close.prefix within
          rw [signals, List.map_append, List.append_assoc] at near
          exact (List.isChain_append_cons_cons.mp near).2.1.2
      | batch target works armed due =>
          refine phase.flush course beat.punctual works savesNow (.batch target works armed due)
            rfl rfl ?_
          intro last latest _ _ set
          cases armed.symm.trans set
          exact .inl (Nat.le_antisymm (beat.punctual.batch works _ set) due)
      | tick target works due =>
          refine phase.flush course beat.punctual works savesNow (.tick target works due) rfl rfl ?_
          intro latest kind received passed armed
          -- A tick would fall into the burst.
          have found : latest ∈ times :=
            within.subset (List.mem_append_left _ (List.mem_map_of_mem received))
          have bounds := burst.bounds found
          have now : middle.now = middle.scheduler.tick :=
            Nat.le_antisymm (beat.punctual.tick works) due
          have later := burst.tickless _ beat.tick (by omega)
          have quiet := beat.punctual.batch works _ armed
          omega
      | finish target works alone empty =>
          exact phase.flush course beat.punctual works savesNow (.finish target works alone empty)
            rfl rfl fun _ _ _ _ _ => .inr ⟨rfl, alone⟩
      | wait onward idle => exact phase.rest (.wait onward idle) rfl rfl onward

theorem OnBeat.burst_cases {first last : Nat} (onBeat : OnBeat timing origin)
    (clean : origin.scheduler.dirty = .clean) (course : Course timing origin timeline final)
    (burst : IsBurst timing first last (timeline.received.map Prod.fst))
    (saves : timeline.Saves) :
    (timeline.tried = [] ∧ final.isDone = false ∧ final.now ≤ last + timing.quiet) ∨
      ∃ moment, timeline.tried = savesOf timeline.received moment ∧
        last ≤ moment ∧ moment ≤ last + timing.quiet ∧ moment ≤ final.now ∧
        (moment = last + timing.quiet ∨ Abandoned timing origin timeline final moment) := by
  have latest {earlier : List (Nat × SaveKind)} {time : Nat} {kind : SaveKind}
      (signalled : timeline.received = earlier ++ [(time, kind)]) : time = last := by
    have ends := burst.getLast
    rw [signalled, List.map_append] at ends
    exact Option.some.inj (List.getLast?_concat.symm.trans ends)
  cases phase_course burst onBeat clean course saves (List.prefix_refl _) with
  | resting unsignalled =>
      have ends := burst.getLast
      rw [unsignalled] at ends
      cases ends
  | pending signalled works armed _ _ untried =>
      rw [latest signalled] at armed
      exact .inl ⟨untried, works, (onBeat.course course).punctual.batch works _ armed⟩
  | saved signalled _ tried fromLast untilQuiet passed early =>
      rw [latest signalled] at fromLast untilQuiet early
      exact .inr ⟨_, tried, fromLast, untilQuiet, passed, early⟩

/--
A burst that comes to a clean service is saved once: until the quiet time after its last signal
ends nothing is tried, then every kind that occurs is saved at the same time, and no flush tries
anything after that. Only when nobody is left to signal, this happens earlier, but not before the
last signal.
-/
theorem tried_of_burst {capacity : Nat} {state : State} {before : Timeline} {first last : Nat}
    (started : Course timing (start timing capacity state) before origin)
    (clean : origin.scheduler.dirty = .clean) (course : Course timing origin timeline final)
    (burst : IsBurst timing first last (timeline.received.map Prod.fst))
    (saves : timeline.Saves) :
    (timeline.tried = [] ∧ final.isDone = false ∧ final.now ≤ last + timing.quiet) ∨
      ∃ moment, timeline.tried = savesOf timeline.received moment ∧
        last ≤ moment ∧ moment ≤ last + timing.quiet ∧ moment ≤ final.now ∧
        (moment = last + timing.quiet ∨ Abandoned timing origin timeline final moment) :=
  ((onBeat_start timing capacity state).course started).burst_cases clean course burst saves

/-- Signals of both kinds, one after the other within the quiet time, lead to one save of each. -/
theorem tried_of_burst_both :
    let timing : Timing := ⟨10, 2, by decide⟩
    let timeline : Timeline := [(0, .received .addressMap), (1, .received .addressSet),
      (3, .attempted .addressSet true), (3, .attempted .addressMap true)]
    let final : Service Unit := ⟨5, 1, .new 8, ⟨.clean, none, 10⟩, false, ()⟩
    Course timing (start timing 8 ()) timeline final ∧
      IsBurst timing 0 1 (timeline.received.map Prod.fst) ∧ timeline.Saves ∧
      timeline.tried = savesOf timeline.received 3 := by
  intro timing timeline final
  have first : Course timing (start timing 8 ()) [(0, .received .addressMap)]
      ⟨0, 1, .new 8, ⟨⟨false, true⟩, some 2, 10⟩, false, ()⟩ :=
    .trans (.single (.send .addressMap (by decide))) (.single (.receive rfl rfl))
  have passes : Course timing (start timing 8 ()) [(0, .received .addressMap)]
      ⟨1, 1, .new 8, ⟨⟨false, true⟩, some 2, 10⟩, false, ()⟩ :=
    first.snoc (.wait (by decide) fun _ => ⟨rfl, by decide, by rintro _ ⟨⟩; decide⟩)
  have second : Course timing (start timing 8 ())
      [(0, .received .addressMap), (1, .received .addressSet)]
      ⟨1, 1, .new 8, ⟨⟨true, true⟩, some 3, 10⟩, false, ()⟩ :=
    passes.trans (.trans (.single (.send .addressSet (by decide))) (.single (.receive rfl rfl)))
  have quiet : Course timing (start timing 8 ())
      [(0, .received .addressMap), (1, .received .addressSet)]
      ⟨3, 1, .new 8, ⟨⟨true, true⟩, some 3, 10⟩, false, ()⟩ :=
    second.snoc (.wait (by decide) fun _ => ⟨rfl, by decide, by rintro _ ⟨⟩; decide⟩)
  have fires : Course timing (start timing 8 ()) timeline
      ⟨3, 1, .new 8, ⟨.clean, none, 10⟩, false, ()⟩ :=
    quiet.trans (.single (.batch (fun _ state => (true, state)) rfl rfl (by decide)))
  have ends : Course timing (start timing 8 ()) timeline final :=
    fires.snoc (.wait (by decide) fun _ => ⟨rfl, by decide, by rintro _ ⟨⟩⟩)
  have burst : IsBurst timing 0 1 (timeline.received.map Prod.fst) :=
    ⟨rfl, rfl, by decide, fun _ ticks _ => Nat.lt_of_lt_of_le (by decide) ticks.interval_le⟩
  have saves : timeline.Saves := by
    intro time kind failed
    simp [timeline] at failed
  refine ⟨ends, burst, saves, ?_⟩
  rcases tried_of_burst .refl rfl ends burst saves with
    ⟨_, _, early⟩ | ⟨moment, tried, _, _, _, onTime | abandoned⟩
  · exact absurd early (by decide)
  · rw [tried, onTime]
    rfl
  · exact absurd abandoned.senders_eq_zero (by decide)

/-- The last sender leaves before the quiet time ends, and the save comes at once. -/
theorem tried_early_of_abandoned :
    let timing : Timing := ⟨10, 2, by decide⟩
    let timeline : Timeline := [(0, .received .addressMap), (1, .attempted .addressMap true)]
    let final : Service Unit := ⟨3, 0, .new 8, ⟨.clean, some 2, 10⟩, true, ()⟩
    Course timing (start timing 8 ()) timeline final ∧
      IsBurst timing 0 0 (timeline.received.map Prod.fst) ∧ timeline.Saves ∧
      0 + timing.quiet < final.now ∧
      timeline.tried ≠ savesOf timeline.received (0 + timing.quiet) := by
  intro timing timeline final
  have first : Course timing (start timing 8 ()) [(0, .received .addressMap)]
      ⟨0, 1, .new 8, ⟨⟨false, true⟩, some 2, 10⟩, false, ()⟩ :=
    .trans (.single (.send .addressMap (by decide))) (.single (.receive rfl rfl))
  have leaves : Course timing (start timing 8 ()) [(0, .received .addressMap)]
      ⟨1, 0, .new 8, ⟨⟨false, true⟩, some 2, 10⟩, false, ()⟩ :=
    (first.snoc (.wait (by decide) fun _ => ⟨rfl, by decide, by rintro _ ⟨⟩; decide⟩)).trans
      (.single (.drop (by decide)))
  have finishes : Course timing (start timing 8 ()) timeline
      ⟨1, 0, .new 8, ⟨.clean, some 2, 10⟩, true, ()⟩ :=
    leaves.trans (.single (.finish (fun _ state => (true, state)) rfl rfl rfl))
  have ends : Course timing (start timing 8 ()) timeline final :=
    finishes.snoc (.wait (by decide) fun impossible => nomatch impossible)
  have burst : IsBurst timing 0 0 (timeline.received.map Prod.fst) :=
    ⟨rfl, rfl, by decide, fun _ ticks _ => Nat.lt_of_lt_of_le (by decide) ticks.interval_le⟩
  have saves : timeline.Saves := by
    intro time kind failed
    simp [timeline] at failed
  exact ⟨ends, burst, saves, by decide, by decide⟩

/-! ### The service that runs -/

/--
Whatever is done with a service that is clean, if what it receives is a burst and no attempt of it
fails, it tries nothing while the quiet time lasts, and saves every kind that occurs once after
that.
-/
theorem exists_burst_timeline (timing : Timing) (target : Nat → Target State)
    (before operations : List Operation) (capacity : Nat) (state : State) :
    let origin := (start timing capacity state).performAll timing target before
    let final := origin.performAll timing target operations
    origin.scheduler.dirty = .clean →
    (∀ kind, (kind, false) ∉ origin.attempts timing target operations) →
    ∃ timeline, Course timing origin timeline final ∧
      timeline.attempts = origin.attempts timing target operations ∧
      ∀ first last, IsBurst timing first last (timeline.received.map Prod.fst) →
        (origin.attempts timing target operations = [] ∧ final.isDone = false ∧
          final.now ≤ last + timing.quiet) ∨
        ∃ moment, timeline.tried = savesOf timeline.received moment ∧
          origin.attempts timing target operations =
            (kinds.filter fun kind => timeline.received.any (·.2 == kind)).map
              (fun kind => (kind, true)) ∧
          last ≤ moment ∧ moment ≤ last + timing.quiet ∧ moment ≤ final.now ∧
          (moment = last + timing.quiet ∨ Abandoned timing origin timeline final moment) := by
  intro origin final clean noFailure
  obtain ⟨earlier, started, _⟩ := exists_course timing target before capacity state
  have onBeat := (onBeat_start timing capacity state).course started
  obtain ⟨timeline, course, attempted⟩ :=
    exists_course_performAll timing target operations onBeat.punctual
  have saves : timeline.Saves := by
    intro time kind failed
    apply noFailure kind
    rw [← attempted]
    exact Timeline.mem_attempts.mpr ⟨time, failed⟩
  refine ⟨timeline, course, attempted, ?_⟩
  intro first last burst
  rcases onBeat.burst_cases clean course burst saves with
    ⟨untried, works, early⟩ | ⟨moment, tried, fromLast, untilQuiet, passed, cause⟩
  · refine .inl ⟨?_, works, early⟩
    rw [← attempted]
    rw [saves.attempts_eq, untried]
    rfl
  · refine .inr ⟨moment, tried, ?_, fromLast, untilQuiet, passed, cause⟩
    rw [← attempted]
    rw [saves.attempts_eq, tried, savesOf, List.map_map]
    rfl

end Service

end SplitDns.Persist
