import Mathlib.Data.List.Nodup
import SplitDns.Proofs.AddressMap.Accumulating
import SplitDns.Proofs.Query.Observing
import SplitDns.Proofs.Turns

/-!
# Insertions at the same time

An insertion looks whether its pair is there, and writes it later if it was not; between the two,
and before the signal for a new pair, any other insertions may run. What it saw may be out of date
when it writes, so the write looks again. Whatever the schedule, the map grows by each pair that is
new once, and exactly one insertion is told so and raises the signal.
-/

namespace SplitDns.AddressMap

open SplitDns.Address
open SplitDns.Dns
open SplitDns.Persist

/-- How far an insertion has come. -/
inductive Stage where
  | asked
  /-- The pair was not there when the insertion looked. -/
  | absent
  /-- The pair was written, and its signal is still to be raised. -/
  | news
  | returned (new : Bool)
  deriving DecidableEq

/-- An insertion of a pair as it comes. -/
structure Insertion where
  name : String
  address : String
  stage : Stage

/-- What insertions share. -/
structure Board where
  map : AddressMap
  signals : Signals
  /-- The pairs for which a signal was raised, in order. -/
  raised : List (String × String)

namespace Insertion

def call (insertion : Insertion) : String × String :=
  (insertion.name, insertion.address)

/-- The pair as it is recorded. -/
def pair (insertion : Insertion) : String × String :=
  (normalizeName insertion.name, trimText insertion.address)

def storable (insertion : Insertion) : Bool :=
  isStorable insertion.name insertion.address

def look (insertion : Insertion) (map : AddressMap) : Stage :=
  if insertion.storable && !map.knows insertion.pair.1 insertion.pair.2 then .absent
  else .returned false

def step (insertion : Insertion) (board : Board) : Insertion × Board :=
  match insertion.stage with
  | .asked => ({ insertion with stage := insertion.look board.map }, board)
  | .absent =>
      let (new, map) := board.map.push insertion.pair.1 insertion.pair.2
      ({ insertion with stage := if new then .news else .returned false },
        { board with map := map })
  | .news =>
      ({ insertion with stage := .returned true },
        { board with
          signals := (board.signals.send .addressMap).2
          raised := board.raised ++ [insertion.pair] })
  | .returned _ => (insertion, board)

theorem step_asked (name address : String) (board : Board) :
    step ⟨name, address, .asked⟩ board =
      (⟨name, address, look ⟨name, address, .asked⟩ board.map⟩, board) := rfl

theorem step_absent_of_knows {name address : String} {board : Board}
    (known : board.map.knows (normalizeName name) (trimText address) = true) :
    step ⟨name, address, .absent⟩ board = (⟨name, address, .returned false⟩, board) := by
  simp only [step, pair, push_of_knows known]
  rfl

theorem step_absent_of_not_knows {name address : String} {board : Board}
    (new : board.map.knows (normalizeName name) (trimText address) = false) :
    step ⟨name, address, .absent⟩ board =
      (⟨name, address, .news⟩,
        { board with map := (board.map.push (normalizeName name) (trimText address)).2 }) := by
  simp only [step, pair, push_of_not_knows new]
  rfl

theorem step_news (name address : String) (board : Board) :
    step ⟨name, address, .news⟩ board =
      (⟨name, address, .returned true⟩,
        { board with
          signals := (board.signals.send .addressMap).2
          raised := board.raised ++ [(normalizeName name, trimText address)] }) := rfl

theorem step_returned (name address : String) (new : Bool) (board : Board) :
    step ⟨name, address, .returned new⟩ board = (⟨name, address, .returned new⟩, board) := rfl

theorem look_cases (insertion : Insertion) (map : AddressMap) :
    insertion.look map = .absent ∧ insertion.storable = true ∨
      insertion.look map = .returned false ∧
        (insertion.storable = true → map.knows insertion.pair.1 insertion.pair.2 = true) := by
  unfold look
  split
  next missing => exact .inl ⟨rfl, (Bool.and_eq_true _ _ ▸ missing).1⟩
  next there =>
    refine .inr ⟨rfl, fun storable => ?_⟩
    simpa [storable] using there

/-- The pair that an insertion has written. -/
def written? (insertion : Insertion) : Option (String × String) :=
  if insertion.stage = .news ∨ insertion.stage = .returned true then some insertion.pair else none

/-- The pair that an insertion has raised a signal for. -/
def raised? (insertion : Insertion) : Option (String × String) :=
  if insertion.stage = .returned true then some insertion.pair else none

def HasReturned (insertion : Insertion) : Prop :=
  ∃ new, insertion.stage = .returned new

/-- The steps that an insertion has to take at most. -/
def stepsLeft (insertion : Insertion) : Nat :=
  match insertion.stage with
  | .asked => 3
  | .absent => 2
  | .news => 1
  | .returned _ => 0

theorem stepsLeft_step (insertion : Insertion) (board : Board) :
    (insertion.step board).1.stepsLeft ≤ insertion.stepsLeft - 1 := by
  obtain ⟨name, address, stage⟩ := insertion
  cases stage with
  | asked =>
      rw [step_asked]
      rcases look_cases ⟨name, address, .asked⟩ board.map with ⟨looked, _⟩ | ⟨looked, _⟩
      · rw [looked]
        exact Nat.le_refl 2
      · rw [looked]
        exact Nat.zero_le 2
  | absent =>
      by_cases known : board.map.knows (normalizeName name) (trimText address) = true
      · rw [step_absent_of_knows known]
        exact Nat.zero_le 1
      · rw [step_absent_of_not_knows (Bool.not_eq_true _ ▸ known)]
        exact Nat.le_refl 1
  | news => exact Nat.le_refl 0
  | returned new => exact Nat.le_refl 0

theorem call_step (insertion : Insertion) (board : Board) :
    (insertion.step board).1.call = insertion.call := by
  have moved : ∃ stage, (insertion.step board).1 = { insertion with stage := stage } := by
    unfold step
    split <;> exact ⟨_, rfl⟩
  obtain ⟨stage, same⟩ := moved
  rw [same]
  rfl

theorem hasReturned_of_stepsLeft {insertion : Insertion} (none : insertion.stepsLeft = 0) :
    insertion.HasReturned := by
  obtain ⟨name, address, stage⟩ := insertion
  cases stage with
  | returned new => exact ⟨new, rfl⟩
  | asked => cases none
  | absent => cases none
  | news => cases none

end Insertion

/-- A schedule says which insertion takes the next step. -/
def insertionTurns : Turns Nat Insertion Board where
  place := id
  step _ := Insertion.step

/-- Insertions that were asked for, none of them begun. -/
def contention (map : AddressMap) (signals : Signals) (calls : List (String × String)) :
    Crowd Insertion Board :=
  ⟨calls.map fun call => ⟨call.1, call.2, .asked⟩, ⟨map, signals, []⟩⟩

variable {map : AddressMap} {signals : Signals} {calls : List (String × String)}
  {insertion : Insertion} {board : Board} {crowd : Crowd Insertion Board} {name text : String}

/-! ### One insertion without interruption -/

def Insertion.run (insertion : Insertion) (board : Board) : Insertion × Board :=
  let looked := insertion.step board
  let written := looked.1.step looked.2
  written.1.step written.2

/-- An insertion that nobody interrupts is an insertion into the map with a signal for news. -/
theorem run_asked (name address : String) (board : Board) :
    let ran := Insertion.run ⟨name, address, .asked⟩ board
    ran.1.stage = .returned (board.map.insert name address).1 ∧
      ran.2.map = (board.map.insert name address).2 ∧
      ran.2.signals =
        if (board.map.insert name address).1 then (board.signals.send .addressMap).2
        else board.signals := by
  rw [insert_eq]
  by_cases storable : isStorable name address = true
  · cases known : board.map.knows (normalizeName name) (trimText address) with
    | true =>
        simp [Insertion.run, Insertion.step, Insertion.look, Insertion.storable, Insertion.pair,
          storable, known, push_of_knows]
    | false =>
        simp [Insertion.run, Insertion.step, Insertion.look, Insertion.storable, Insertion.pair,
          storable, known, push_of_not_knows]
  · simp [Insertion.run, Insertion.step, Insertion.look, Insertion.storable, storable]

/-- This is what a query does that records an address. -/
theorem run_eq_record {Sets : Type} (name : String) (address : Ipv4)
    (knowledge : Query.Knowledge Sets) (raised : List (String × String)) :
    let ran := Insertion.run ⟨name, (Ip.v4 address).text, .asked⟩
      ⟨knowledge.map, knowledge.signals, raised⟩
    ran.1.stage = .returned (knowledge.record name address).1 ∧
      ran.2.map = (knowledge.record name address).2.map ∧
      ran.2.signals = (knowledge.record name address).2.signals := by
  intro ran
  obtain ⟨stage, map, signals⟩ :=
    run_asked name (Ip.v4 address).text ⟨knowledge.map, knowledge.signals, raised⟩
  rw [stage, map, signals, Query.Knowledge.record_eq]
  generalize knowledge.map.insert name (Ip.v4 address).text = outcome
  cases outcome.1 <;> exact ⟨rfl, rfl, rfl⟩

/-! ### Steps among others -/

/-- What is true of an insertion while others run. -/
def Insertion.Sound (insertion : Insertion) (map : AddressMap) : Prop :=
  match insertion.stage with
  | .asked => True
  | .returned false =>
      insertion.storable = true → map.knows insertion.pair.1 insertion.pair.2 = true
  | _ => insertion.storable = true

/-- What was written and signalled so far is the doing of the insertions, each time of one. -/
structure Accounted (map : AddressMap) (signals : Signals) (crowd : Crowd Insertion Board) :
    Prop where
  tidy : crowd.shared.map.Tidy
  written : ∃ fresh, map.GrowsBy crowd.shared.map fresh ∧
    fresh.Perm (crowd.processes.filterMap Insertion.written?)
  raised : crowd.shared.raised.Perm (crowd.processes.filterMap Insertion.raised?)
  sent : crowd.shared.signals =
    crowd.shared.raised.foldl (fun signals _ => (signals.send .addressMap).2) signals
  sound : ∀ insertion ∈ crowd.processes, insertion.Sound crowd.shared.map

theorem Insertion.Sound.push (sound : insertion.Sound map) (name text : String) :
    insertion.Sound (map.push name text).2 := by
  obtain ⟨owner, address, stage⟩ := insertion
  rcases stage with _ | _ | _ | _ | _
  case returned.false =>
    intro storable
    exact knows_push.mpr (.inl (sound storable))
  all_goals exact sound

namespace Accounted

variable {before behind : List Insertion} {next : Insertion}

/-- An insertion that only comes to know something. -/
theorem learn (accounted : Accounted map signals ⟨before ++ insertion :: behind, board⟩)
    (written : next.written? = insertion.written?) (raised : next.raised? = insertion.raised?)
    (sound : next.Sound board.map) :
    Accounted map signals ⟨before ++ next :: behind, board⟩ where
  tidy := accounted.tidy
  written := by
    rw [filterMap_exchange written]
    exact accounted.written
  raised := by
    rw [filterMap_exchange raised]
    exact accounted.raised
  sent := accounted.sent
  sound := forall_exchange accounted.sound (fun _ _ => id) sound

/-- An insertion that does not find its pair writes it. -/
theorem write (accounted : Accounted map signals ⟨before ++ ⟨name, text, .absent⟩ :: behind, board⟩)
    (new : board.map.knows (normalizeName name) (trimText text) = false) :
    Accounted map signals ⟨before ++ ⟨name, text, .news⟩ :: behind,
      { board with map := (board.map.push (normalizeName name) (trimText text)).2 }⟩ where
  tidy := accounted.tidy.push _ _
  written := by
    obtain ⟨fresh, grows, perm⟩ := accounted.written
    exact ⟨_, grows.push new, perm_filterMap_exchange perm rfl rfl⟩
  raised := by
    have same : Insertion.raised? ⟨name, text, .news⟩ = Insertion.raised? ⟨name, text, .absent⟩ :=
      rfl
    rw [filterMap_exchange same]
    exact accounted.raised
  sent := accounted.sent
  sound := by
    apply forall_exchange accounted.sound (fun _ _ sound => sound.push _ _)
    exact accounted.sound ⟨name, text, .absent⟩ (by simp)

/-- The insertion that has written a pair raises the signal for it. -/
theorem raise (accounted : Accounted map signals ⟨before ++ ⟨name, text, .news⟩ :: behind, board⟩) :
    Accounted map signals ⟨before ++ ⟨name, text, .returned true⟩ :: behind,
      { board with
        signals := (board.signals.send .addressMap).2
        raised := board.raised ++ [(normalizeName name, trimText text)] }⟩ where
  tidy := accounted.tidy
  written := by
    have same : Insertion.written? ⟨name, text, .returned true⟩ =
        Insertion.written? ⟨name, text, .news⟩ := rfl
    rw [filterMap_exchange same]
    exact accounted.written
  raised := perm_filterMap_exchange accounted.raised rfl rfl
  sent := by
    rw [List.foldl_append, ← accounted.sent]
    rfl
  sound := by
    apply forall_exchange accounted.sound (fun _ _ => id)
    exact accounted.sound ⟨name, text, .news⟩ (by simp)

theorem step (accounted : Accounted map signals ⟨before ++ insertion :: behind, board⟩) :
    Accounted map signals ⟨before ++ (insertion.step board).1 :: behind,
      (insertion.step board).2⟩ := by
  obtain ⟨name, text, stage⟩ := insertion
  cases stage with
  | asked =>
      rw [Insertion.step_asked]
      rcases Insertion.look_cases ⟨name, text, .asked⟩ board.map with
        ⟨looked, storable⟩ | ⟨looked, known⟩
      · rw [looked]
        exact accounted.learn rfl rfl storable
      · rw [looked]
        exact accounted.learn rfl rfl known
  | absent =>
      by_cases known : board.map.knows (normalizeName name) (trimText text) = true
      · rw [Insertion.step_absent_of_knows known]
        exact accounted.learn rfl rfl fun _ => known
      · rw [Bool.not_eq_true] at known
        rw [Insertion.step_absent_of_not_knows known]
        exact accounted.write known
  | news =>
      rw [Insertion.step_news]
      exact accounted.raise
  | returned new =>
      rw [Insertion.step_returned]
      exact accounted

theorem initial (tidy : map.Tidy) (signals : Signals) (calls : List (String × String)) :
    Accounted map signals (contention map signals calls) where
  tidy := tidy
  written := by
    refine ⟨[], .refl map, ?_⟩
    simp [contention, List.filterMap_map, Function.comp_def, Insertion.written?]
  raised := by
    simp [contention, List.filterMap_map, Function.comp_def, Insertion.raised?]
  sent := rfl
  sound := by
    intro insertion member
    obtain ⟨call, _, rfl⟩ := List.mem_map.mp member
    trivial

theorem after (tidy : map.Tidy) (signals : Signals) (calls : List (String × String))
    (schedule : List Nat) :
    Accounted map signals (insertionTurns.after (contention map signals calls) schedule) := by
  apply Turns.after_invariant (Accounted map signals)
  · intro event before insertion behind board accounted
    exact accounted.step
  · exact initial tidy signals calls

/-- What is written is signalled as soon as all have returned. -/
theorem raised_perm (accounted : Accounted map signals crowd)
    (returned : ∀ insertion ∈ crowd.processes, insertion.HasReturned) :
    crowd.shared.raised.Perm (crowd.processes.filterMap Insertion.written?) := by
  have same : crowd.processes.filterMap Insertion.written? =
      crowd.processes.filterMap Insertion.raised? := by
    apply List.filterMap_congr
    intro insertion member
    obtain ⟨new, stage⟩ := returned insertion member
    simp [Insertion.written?, Insertion.raised?, stage]
  rw [same]
  exact accounted.raised

theorem storable_of_written (accounted : Accounted map signals crowd)
    (member : insertion ∈ crowd.processes) (written : insertion.written? = some (name, text)) :
    insertion.storable = true ∧ insertion.pair = (name, text) := by
  have sound := accounted.sound insertion member
  obtain ⟨owner, address, stage⟩ := insertion
  rcases stage with _ | _ | _ | _ | _
  case news => exact ⟨sound, Option.some.inj written⟩
  case returned.true => exact ⟨sound, Option.some.inj written⟩
  all_goals cases written

theorem knows_or_written (accounted : Accounted map signals crowd)
    (member : insertion ∈ crowd.processes) (returned : insertion.HasReturned)
    (storable : insertion.storable = true) :
    crowd.shared.map.knows insertion.pair.1 insertion.pair.2 = true := by
  obtain ⟨fresh, grows, perm⟩ := accounted.written
  have sound := accounted.sound insertion member
  obtain ⟨owner, address, stage⟩ := insertion
  obtain ⟨new, rfl⟩ := returned
  cases new with
  | false => exact sound storable
  | true =>
      apply grows.knows_iff.mpr
      exact .inr (perm.mem_iff.mpr (List.mem_filterMap.mpr ⟨_, member, rfl⟩))

/-- When all have returned, the map knows what it knew and what they were asked to insert. -/
theorem knows_iff_of_returned (accounted : Accounted map signals crowd)
    (returned : ∀ insertion ∈ crowd.processes, insertion.HasReturned) :
    crowd.shared.map.knows name text = true ↔
      map.knows name text = true ∨
        ∃ insertion ∈ crowd.processes, insertion.storable = true ∧
          insertion.pair = (name, text) := by
  constructor
  · intro known
    obtain ⟨fresh, grows, perm⟩ := accounted.written
    rcases grows.knows_iff.mp known with old | isFresh
    · exact .inl old
    · obtain ⟨insertion, member, written⟩ := List.mem_filterMap.mp (perm.mem_iff.mp isFresh)
      exact .inr ⟨insertion, member, accounted.storable_of_written member written⟩
  · rintro (old | ⟨insertion, member, storable, same⟩)
    · obtain ⟨fresh, grows, _⟩ := accounted.written
      exact grows.knows_iff.mpr (.inl old)
    · have known := accounted.knows_or_written member (returned insertion member) storable
      rw [same] at known
      exact known

/-- For a pair that is new one signal is raised, for any other none. -/
theorem count_raised (accounted : Accounted map signals crowd)
    (returned : ∀ insertion ∈ crowd.processes, insertion.HasReturned) :
    crowd.shared.raised.count (name, text) =
      if crowd.shared.map.knows name text = true ∧ map.knows name text = false then 1 else 0 := by
  obtain ⟨fresh, grows, perm⟩ := accounted.written
  have samePairs : crowd.shared.raised.Perm fresh :=
    (accounted.raised_perm returned).trans perm.symm
  rw [samePairs.count_eq, grows.nodup.count]
  simp only [grows.mem_iff]

theorem countP_returned (accounted : Accounted map signals crowd) :
    crowd.processes.countP
        (fun insertion => insertion.pair = (name, text) ∧ insertion.stage = .returned true) =
      crowd.shared.raised.count (name, text) := by
  rw [accounted.raised.count_eq, List.count_filterMap]
  apply List.countP_congr
  intro insertion _
  simp [Insertion.raised?, and_comm]

theorem nodup_raised (accounted : Accounted map signals crowd) : crowd.shared.raised.Nodup := by
  obtain ⟨fresh, grows, perm⟩ := accounted.written
  apply List.nodup_iff_count_le_one.mpr
  intro pair
  calc crowd.shared.raised.count pair
      = crowd.processes.countP (fun insertion => insertion.raised? == some pair) := by
        rw [accounted.raised.count_eq, List.count_filterMap]
    _ ≤ crowd.processes.countP (fun insertion => insertion.written? == some pair) := by
        apply List.countP_mono_left
        intro insertion _ raised
        simp only [Insertion.raised?, Insertion.written?, beq_iff_eq] at raised ⊢
        split at raised
        next returned => rwa [if_pos (.inr returned)]
        next => cases raised
    _ = fresh.count pair := by
        rw [perm.count_eq, List.count_filterMap]
    _ ≤ 1 := List.nodup_iff_count_le_one.mp grows.nodup pair

end Accounted

/-- An insertion has returned after three steps at most. -/
theorem hasReturned_of_turns {schedule : List Nat}
    (often : ∀ place < calls.length, 3 ≤ schedule.count place) :
    ∀ insertion ∈ (insertionTurns.after (contention map signals calls) schedule).processes,
      insertion.HasReturned := by
  intro insertion member
  apply Insertion.hasReturned_of_stepsLeft
  refine Turns.rank_eq_zero_of_turns ?_ ?_ often insertion member
  · exact fun _ => Insertion.stepsLeft_step
  · exact fun _ => Nat.le_refl 3

theorem calls_after (map : AddressMap) (signals : Signals) (calls : List (String × String))
    (schedule : List Nat) :
    (insertionTurns.after (contention map signals calls) schedule).processes.map Insertion.call =
      calls := by
  rw [Turns.map_after fun _ => Insertion.call_step, contention, List.map_map]
  exact List.map_id calls

/--
Whatever map was built from a snapshot and earlier insertions, and however the steps of more
insertions interleave: at every moment no list has an address twice, nothing is lost, and no signal
is raised twice for a pair. When all have returned, which takes three turns each, the map has gained
just the pairs they are about, and for every pair gained exactly one of them has returned that it
was new and raised a signal, for no other pair any.
-/
theorem contention_accumulates (saved : Snapshot) (earlier calls : List (String × String))
    (signals : Signals) (schedule : List Nat) :
    let map := ((ofSnapshot saved).insertEach earlier).2
    let crowd := insertionTurns.after (contention map signals calls) schedule
    crowd.processes.map Insertion.call = calls ∧
    crowd.shared.map.Tidy ∧ crowd.shared.raised.Nodup ∧
    (∀ name, map.addresses name <+: crowd.shared.map.addresses name) ∧
    crowd.shared.signals =
      crowd.shared.raised.foldl (fun signals _ => (signals.send .addressMap).2) signals ∧
    ((∀ place < calls.length, 3 ≤ schedule.count place) →
      ∀ insertion ∈ crowd.processes, insertion.HasReturned) ∧
    ((∀ insertion ∈ crowd.processes, insertion.HasReturned) →
      (∀ name text, crowd.shared.map.knows name text = true ↔
        map.knows name text = true ∨
          ∃ call ∈ calls, normalizeName call.1 ≠ "" ∧ trimText call.2 ≠ "" ∧
            name = normalizeName call.1 ∧ text = trimText call.2) ∧
      ∀ name text,
        crowd.processes.countP (fun insertion =>
          insertion.pair = (name, text) ∧ insertion.stage = .returned true) =
            crowd.shared.raised.count (name, text) ∧
        crowd.shared.raised.count (name, text) =
          if crowd.shared.map.knows name text = true ∧ map.knows name text = false then 1
          else 0) := by
  intro map crowd
  have tidy : map.Tidy := (tidy_ofSnapshot saved).insertEach earlier
  have accounted : Accounted map signals crowd := .after tidy signals calls schedule
  have asked : crowd.processes.map Insertion.call = calls := calls_after map signals calls schedule
  refine ⟨asked, accounted.tidy, accounted.nodup_raised, ?_, accounted.sent,
    hasReturned_of_turns, ?_⟩
  · intro name
    obtain ⟨fresh, grows, _⟩ := accounted.written
    rw [grows.addresses]
    exact List.prefix_append _ _
  · intro returned
    refine ⟨?_, fun name text => ⟨accounted.countP_returned, accounted.count_raised returned⟩⟩
    intro name text
    rw [accounted.knows_iff_of_returned returned, ← asked]
    apply or_congr_right
    constructor
    · rintro ⟨insertion, member, storable, same⟩
      obtain ⟨named, filled⟩ := isStorable_iff.mp storable
      obtain ⟨rfl, rfl⟩ := Prod.mk.inj same
      exact ⟨insertion.call, List.mem_map_of_mem member, named, filled, rfl, rfl⟩
    · rintro ⟨_, inCalls, named, filled, rfl, rfl⟩
      obtain ⟨insertion, member, rfl⟩ := List.mem_map.mp inCalls
      exact ⟨insertion, member, isStorable_iff.mpr ⟨named, filled⟩, rfl⟩

/-- Two spellings of one pair, a pair that is there already, and a blank address. -/
def rivals : List (String × String) :=
  [("a.example", "192.0.2.1"), ("A.Example.", " 192.0.2.1"), ("b.example", "192.0.2.2"),
    ("a.example", " ")]

/-- The first two have looked before either of them writes. -/
def rivalTurns : List Nat :=
  [0, 1, 2, 3, 1, 0, 1, 0, 2, 3, 2, 3]

theorem contention_accumulates_rivals :
    let map := ((ofSnapshot repetitive).insertEach [("b.example", "192.0.2.2")]).2
    let begun := insertionTurns.after (contention map (.new 1) rivals) (rivalTurns.take 4)
    let crowd := insertionTurns.after (contention map (.new 1) rivals) rivalTurns
    (begun.processes.map Insertion.stage =
      [.absent, .absent, .returned false, .returned false]) ∧
    (∀ place < rivals.length, 3 ≤ rivalTurns.count place) ∧
    crowd.shared.map.knows "a.example" "192.0.2.1" = true ∧
    crowd.processes.countP (fun insertion =>
      insertion.pair = ("a.example", "192.0.2.1") ∧ insertion.stage = .returned true) = 1 ∧
    crowd.shared.raised.count ("a.example", "192.0.2.1") = 1 := by
  dsimp only
  have main := contention_accumulates repetitive [("b.example", "192.0.2.2")] rivals (.new 1)
    rivalTurns
  dsimp only at main
  obtain ⟨_, _, _, _, _, returning, settled⟩ := main
  have often : ∀ place < rivals.length, 3 ≤ rivalTurns.count place := by decide
  obtain ⟨known, counted⟩ := settled (returning often)
  have learned := (known "a.example" "192.0.2.1").mpr
    (.inr ⟨("a.example", "192.0.2.1"), List.mem_cons_self, by decide +kernel⟩)
  have new : ((ofSnapshot repetitive).insertEach [("b.example", "192.0.2.2")]).2.knows
      "a.example" "192.0.2.1" = false := by decide +kernel
  obtain ⟨told, raised⟩ := counted "a.example" "192.0.2.1"
  have once := raised.trans (if_pos ⟨learned, new⟩)
  exact ⟨by decide +kernel, often, learned, told.trans once, once⟩

end SplitDns.AddressMap
