import Mathlib.Logic.Relation
import SplitDns.Proofs.AddressSet.Members
import SplitDns.Proofs.Query.Learning

/-!
# Queries in flight

Any number of responses are processed at once, and their single effects interleave. What the map
and the sets hold in the end is settled from the start: a fact holds or is promised by an effect
that is still ahead, and no step changes which facts do. So the order in which the responses are
processed does not matter, and neither does it whether they overlap.
-/

namespace SplitDns.Query

open SplitDns.Address
open SplitDns.AddressSet
open SplitDns.Dns

variable {Sets : Type}

/-- A response to a query for a name, with the route that the query took. -/
structure Arrival where
  name : String
  route : Route
  response : Message

/-- A response that is being processed. -/
structure Processing where
  /-- The effects that have not happened yet. -/
  ahead : List Effect
  tally : Tally
  /-- What is still to be logged at the end. -/
  batch : Option Audit.Batch

def Arrival.processing (patterns : Pattern.Store) (arrival : Arrival) : Processing :=
  ⟨effects patterns (.of arrival.name arrival.route) arrival.response, .zero,
    auditBatch? (.of arrival.name arrival.route) arrival.response⟩

/-- Responses that are being processed over a shared knowledge. -/
structure Flight (Sets : Type) where
  processings : List Processing
  knowledge : Knowledge Sets

namespace Flight

/-- One of the responses takes its next step. -/
inductive Step (backend : Backend Sets) (setNames : List String) :
    Flight Sets → Flight Sets → Prop where
  | apply (before after : List Processing) (effect : Effect) (ahead : List Effect) (tally : Tally)
      (batch : Option Audit.Batch) (knowledge : Knowledge Sets) :
      Step backend setNames ⟨before ++ ⟨effect :: ahead, tally, batch⟩ :: after, knowledge⟩
        ⟨before ++ ⟨ahead, (knowledge.apply backend setNames effect tally).1, batch⟩ :: after,
          (knowledge.apply backend setNames effect tally).2⟩
  | log (before after : List Processing) (tally : Tally) (batch : Audit.Batch)
      (knowledge : Knowledge Sets) :
      Step backend setNames ⟨before ++ ⟨[], tally, some batch⟩ :: after, knowledge⟩
        ⟨before ++ ⟨[], tally, none⟩ :: after, knowledge.log batch⟩

/-- Any number of steps, in any order. -/
abbrev Run (backend : Backend Sets) (setNames : List String) : Flight Sets → Flight Sets → Prop :=
  Relation.ReflTransGen (Step backend setNames)

/-- The responses that arrived, none of them processed yet. -/
def start (patterns : Pattern.Store) (arrivals : List Arrival) (knowledge : Knowledge Sets) :
    Flight Sets :=
  ⟨arrivals.map (Arrival.processing patterns), knowledge⟩

/-- All effects that have not happened yet. -/
def ahead (flight : Flight Sets) : List Effect :=
  flight.processings.flatMap Processing.ahead

/-- The number of pairs that responses found new. -/
def recordedBy : List Processing → Nat
  | [] => 0
  | processing :: rest => processing.tally.recorded + recordedBy rest

def recorded (flight : Flight Sets) : Nat :=
  recordedBy flight.processings

end Flight

/-- Processes responses one after another. -/
def observeAll (backend : Backend Sets) (patterns : Pattern.Store) (setNames : List String)
    (arrivals : List Arrival) (knowledge : Knowledge Sets) : Knowledge Sets :=
  arrivals.foldl
    (fun knowledge arrival =>
      (observe backend patterns setNames (.of arrival.name arrival.route) arrival.response
        knowledge).2)
    knowledge

/-! ### Facts and promises -/

/-- What the map and the sets may hold. -/
inductive Fact where
  | named (name : String)
  | known (name text : String)
  | member (set : String) (address : Ip)

section Facts

variable {backend : Backend Sets} {setNames : List String} {Occurs : Sets → Prop}
  {IsMember : Sets → String → Ip → Prop} {Refused : String → Ip → Prop}
  {knowledge : Knowledge Sets} {fact : Fact}

def Fact.Holds (IsMember : Sets → String → Ip → Prop) (knowledge : Knowledge Sets) : Fact → Prop
  | .named name => knowledge.map.snapshot.contains name = true
  | .known name text => knowledge.map.knows name text = true
  | .member set address => IsMember knowledge.sets set address

/-- The facts that an effect makes. -/
def Effect.Makes (setNames : List String) (Refused : String → Ip → Prop) :
    Effect → Fact → Prop
  | .record name address, .named other =>
      AddressMap.isStorable name (Ip.v4 address).text = true ∧ other = normalizeName name
  | .record name address, .known other text =>
      AddressMap.isStorable name (Ip.v4 address).text = true ∧ other = normalizeName name ∧
        text = AddressMap.trimText (Ip.v4 address).text
  | .add index address, .member set member =>
      setNames[index]? = some set ∧ ¬ Refused set (.v4 address) ∧ member = .v4 address
  | _, _ => False

namespace Knowledge

theorem occurs_apply (steady : backend.Steady Occurs IsMember Refused)
    (occurs : Occurs knowledge.sets) (effect : Effect) (tally : Tally) :
    Occurs (knowledge.apply backend setNames effect tally).2.sets := by
  cases effect with
  | record name address =>
      rw [apply_record, sets_record]
      exact occurs
  | add index address =>
      cases named : setNames[index]? with
      | none =>
          rw [apply_add_of_none address tally knowledge named]
          exact occurs
      | some set =>
          rw [apply_add address tally knowledge named, sets_add]
          exact steady.occurs set (.v4 address) knowledge.sets occurs

/-- After an effect those facts hold that held before, and those it makes. -/
theorem holds_apply (steady : backend.Steady Occurs IsMember Refused)
    (occurs : Occurs knowledge.sets) (effect : Effect) (tally : Tally) :
    fact.Holds IsMember (knowledge.apply backend setNames effect tally).2 ↔
      fact.Holds IsMember knowledge ∨ effect.Makes setNames Refused fact := by
  cases effect with
  | record name address =>
      rw [apply_record]
      cases fact with
      | named other =>
          rw [Fact.Holds, map_record, AddressMap.contains_insert]
          rfl
      | known other text =>
          rw [Fact.Holds, map_record, AddressMap.knows_insert]
          rfl
      | member set member =>
          rw [Fact.Holds, sets_record]
          exact (or_iff_left id).symm
  | add index address =>
      cases named : setNames[index]? with
      | none =>
          rw [apply_add_of_none address tally knowledge named]
          cases fact <;> simp [Effect.Makes, named]
      | some set =>
          rw [apply_add address tally knowledge named]
          cases fact with
          | named other =>
              rw [Fact.Holds, map_add]
              exact (or_iff_left id).symm
          | known other text =>
              rw [Fact.Holds, map_add]
              exact (or_iff_left id).symm
          | member other member =>
              rw [Fact.Holds, sets_add, steady.isMember set (.v4 address) _ other member occurs,
                Effect.Makes, named, Option.some.injEq]
              by_cases same : other = set
              · subst same
                simp [Fact.Holds]
              · simp [Fact.Holds, same, Ne.symm same]

/-- A pair is counted exactly if the map grows by it. -/
theorem pairCount_apply (backend : Backend Sets) (setNames : List String) (effect : Effect)
    (tally : Tally) (knowledge : Knowledge Sets) :
    (knowledge.apply backend setNames effect tally).2.map.pairCount + tally.recorded =
      knowledge.map.pairCount +
        (knowledge.apply backend setNames effect tally).1.recorded := by
  let fresh := (effect.event? backend setNames knowledge.map knowledge.sets).toList.filterMap
    Event.fresh?
  have grows : knowledge.map.GrowsBy (effect.mapAfter knowledge.map) fresh :=
    growsBy_event (.refl knowledge.map) effect knowledge.sets
  have counted : (knowledge.apply backend setNames effect tally).1.recorded =
      tally.recorded + fresh.length := by
    rw [apply_eq]
    rfl
  have grown : (knowledge.apply backend setNames effect tally).2.map =
      effect.mapAfter knowledge.map := by
    rw [apply_eq]
  rw [grown, grows.pairCount, counted]
  omega

end Knowledge

end Facts

/-! ### Steps and runs -/

namespace Flight

variable {backend : Backend Sets} {setNames : List String} {Occurs : Sets → Prop}
  {IsMember : Sets → String → Ip → Prop} {Refused : String → Ip → Prop}
  {flight next final : Flight Sets} {fact : Fact}

/-- A fact holds already, or an effect that is ahead makes it. -/
def Promises (setNames : List String) (IsMember : Sets → String → Ip → Prop)
    (Refused : String → Ip → Prop) (flight : Flight Sets) (fact : Fact) : Prop :=
  fact.Holds IsMember flight.knowledge ∨
    ∃ effect ∈ flight.ahead, effect.Makes setNames Refused fact

theorem occurs_step (steady : backend.Steady Occurs IsMember Refused)
    (step : Step backend setNames flight next) (occurs : Occurs flight.knowledge.sets) :
    Occurs next.knowledge.sets := by
  cases step with
  | apply before after effect ahead tally batch knowledge =>
      exact Knowledge.occurs_apply steady occurs effect tally
  | log before after tally batch knowledge => exact occurs

/-- No step changes what is promised. -/
theorem promises_step (steady : backend.Steady Occurs IsMember Refused)
    (step : Step backend setNames flight next) (occurs : Occurs flight.knowledge.sets) :
    next.Promises setNames IsMember Refused fact ↔
      flight.Promises setNames IsMember Refused fact := by
  cases step with
  | apply before after effect ahead tally batch knowledge =>
      rw [Promises, Promises, Knowledge.holds_apply steady occurs]
      simp only [Flight.ahead, List.flatMap_append, List.flatMap_cons, List.mem_append,
        List.mem_cons]
      constructor
      · rintro ((holds | makes) | ⟨other, found, makes⟩)
        · exact .inl holds
        · exact .inr ⟨effect, .inr (.inl (.inl rfl)), makes⟩
        · exact .inr ⟨other, found.imp id (.imp .inr id), makes⟩
      · rintro (holds | ⟨other, inBefore | (rfl | inAhead) | inAfter, makes⟩)
        · exact .inl (.inl holds)
        · exact .inr ⟨other, .inl inBefore, makes⟩
        · exact .inl (.inr makes)
        · exact .inr ⟨other, .inr (.inl inAhead), makes⟩
        · exact .inr ⟨other, .inr (.inr inAfter), makes⟩
  | log before after tally batch knowledge =>
      have same : fact.Holds IsMember (knowledge.log batch) ↔ fact.Holds IsMember knowledge := by
        cases fact <;> exact Iff.rfl
      rw [Promises, Promises, same]
      simp only [Flight.ahead, List.flatMap_append, List.flatMap_cons]

theorem occurs_run (steady : backend.Steady Occurs IsMember Refused)
    (run : Run backend setNames flight final) (occurs : Occurs flight.knowledge.sets) :
    Occurs final.knowledge.sets := by
  induction run with
  | refl => exact occurs
  | tail _ step inductionHypothesis => exact occurs_step steady step inductionHypothesis

theorem promises_run (steady : backend.Steady Occurs IsMember Refused)
    (run : Run backend setNames flight final) (occurs : Occurs flight.knowledge.sets) :
    final.Promises setNames IsMember Refused fact ↔
      flight.Promises setNames IsMember Refused fact := by
  induction run with
  | refl => exact Iff.rfl
  | tail run step inductionHypothesis =>
      rw [promises_step steady step (occurs_run steady run occurs)]
      exact inductionHypothesis

/-- Where nothing is ahead, what was promised holds and nothing else. -/
theorem holds_of_landed (steady : backend.Steady Occurs IsMember Refused)
    (run : Run backend setNames flight final) (occurs : Occurs flight.knowledge.sets)
    (landed : final.ahead = []) :
    fact.Holds IsMember final.knowledge ↔ flight.Promises setNames IsMember Refused fact := by
  rw [← promises_run steady run occurs, Promises, landed]
  simp

theorem recordedBy_append (front back : List Processing) :
    recordedBy (front ++ back) = recordedBy front + recordedBy back := by
  induction front with
  | nil => exact (Nat.zero_add _).symm
  | cons processing rest inductionHypothesis =>
      rw [List.cons_append, recordedBy, recordedBy, inductionHypothesis, Nat.add_assoc]

theorem pairCount_step (step : Step backend setNames flight next) :
    next.knowledge.map.pairCount + flight.recorded =
      flight.knowledge.map.pairCount + next.recorded := by
  cases step with
  | apply before after effect ahead tally batch knowledge =>
      have counted := knowledge.pairCount_apply backend setNames effect tally
      simp only [recorded, recordedBy_append, recordedBy]
      omega
  | log before after tally batch knowledge =>
      simp only [recorded, recordedBy_append, recordedBy]
      rfl

/-- The map grows by as many pairs as the responses found new. -/
theorem pairCount_run (run : Run backend setNames flight final) :
    final.knowledge.map.pairCount + flight.recorded =
      flight.knowledge.map.pairCount + final.recorded := by
  induction run with
  | refl => rfl
  | tail _ step inductionHypothesis =>
      have stepped := pairCount_step step
      omega

/-! ### Schedules -/

/-- The response at a place takes its next step, if it has one. -/
def turn (backend : Backend Sets) (setNames : List String) (flight : Flight Sets) (place : Nat) :
    Flight Sets :=
  match flight.processings[place]? with
  | some ⟨effect :: ahead, tally, batch⟩ =>
      let (tally, knowledge) := flight.knowledge.apply backend setNames effect tally
      ⟨flight.processings.set place ⟨ahead, tally, batch⟩, knowledge⟩
  | some ⟨[], tally, some batch⟩ =>
      ⟨flight.processings.set place ⟨[], tally, none⟩, flight.knowledge.log batch⟩
  | _ => flight

/-- A turn is a step or nothing, so each list of places is a run. -/
theorem run_turn (flight : Flight Sets) (place : Nat) :
    Run backend setNames flight (flight.turn backend setNames place) := by
  obtain ⟨processings, knowledge⟩ := flight
  cases found : processings[place]? with
  | none => rw [turn, found]
  | some processing =>
      obtain ⟨inside, taken⟩ := List.getElem?_eq_some_iff.mp found
      have whole : processings =
          processings.take place ++ processing :: processings.drop (place + 1) := by
        rw [← taken, List.getElem_cons_drop, List.take_append_drop]
      have changed (next : Processing) : processings.set place next =
          processings.take place ++ next :: processings.drop (place + 1) :=
        List.set_eq_take_cons_drop next inside
      obtain ⟨_ | ⟨effect, ahead⟩, tally, _ | batch⟩ := processing
      · rw [turn, found]
      · rw [turn, found]
        simp only [changed]
        nth_rewrite 1 [whole]
        exact .single (.log _ _ tally batch knowledge)
      all_goals
        rw [turn, found]
        simp only [changed]
        nth_rewrite 1 [whole]
        exact .single (.apply _ _ effect ahead tally _ knowledge)

theorem run_turns (places : List Nat) (flight : Flight Sets) :
    Run backend setNames flight (places.foldl (turn backend setNames) flight) := by
  induction places generalizing flight with
  | nil => exact .refl
  | cons place rest inductionHypothesis =>
      exact (run_turn flight place).trans (inductionHypothesis _)

/-! ### One response after another -/

theorem run_applyAll (effects : List Effect) (before after : List Processing) (tally : Tally)
    (batch : Option Audit.Batch) (knowledge : Knowledge Sets) :
    Run backend setNames ⟨before ++ ⟨effects, tally, batch⟩ :: after, knowledge⟩
      ⟨before ++ ⟨[], (knowledge.applyAll backend setNames effects tally).1, batch⟩ :: after,
        (knowledge.applyAll backend setNames effects tally).2⟩ := by
  induction effects generalizing tally knowledge with
  | nil => exact .refl
  | cons effect rest inductionHypothesis =>
      rw [Knowledge.applyAll_cons]
      exact .head (.apply before after effect rest tally batch knowledge)
        (inductionHypothesis _ _)

/-- Observing a response is processing it without interruption. -/
theorem run_observe (backend : Backend Sets) (setNames : List String) (patterns : Pattern.Store)
    (arrival : Arrival) (before after : List Processing) (knowledge : Knowledge Sets) :
    ∃ tally, Run backend setNames ⟨before ++ arrival.processing patterns :: after, knowledge⟩
      ⟨before ++ ⟨[], tally, none⟩ :: after,
        (observe backend patterns setNames (.of arrival.name arrival.route) arrival.response
          knowledge).2⟩ := by
  let all := effects patterns (.of arrival.name arrival.route) arrival.response
  refine ⟨(knowledge.applyAll backend setNames all .zero).1, ?_⟩
  apply (run_applyAll all before after .zero _ knowledge).trans
  unfold observe
  simp only
  cases auditBatch? (.of arrival.name arrival.route) arrival.response with
  | none => exact .refl
  | some batch => exact .single (.log before after _ batch _)

theorem run_observeAll (backend : Backend Sets) (setNames : List String)
    (patterns : Pattern.Store) (arrivals : List Arrival) (before : List Processing)
    (knowledge : Knowledge Sets) :
    ∃ done, (∀ processing ∈ done, processing.ahead = []) ∧
      Run backend setNames ⟨before ++ arrivals.map (Arrival.processing patterns), knowledge⟩
        ⟨before ++ done, observeAll backend patterns setNames arrivals knowledge⟩ := by
  induction arrivals generalizing before knowledge with
  | nil => exact ⟨[], by simp, .refl⟩
  | cons arrival rest inductionHypothesis =>
      obtain ⟨tally, first⟩ := run_observe backend setNames patterns arrival before
        (rest.map (Arrival.processing patterns)) knowledge
      obtain ⟨done, landed, others⟩ := inductionHypothesis (before ++ [⟨[], tally, none⟩])
        (observe backend patterns setNames (.of arrival.name arrival.route) arrival.response
          knowledge).2
      rw [List.append_assoc, List.append_assoc] at others
      refine ⟨⟨[], tally, none⟩ :: done, ?_, first.trans others⟩
      intro processing found
      rcases List.mem_cons.mp found with rfl | later
      · rfl
      · exact landed processing later

theorem recorded_start (patterns : Pattern.Store) (arrivals : List Arrival)
    (knowledge : Knowledge Sets) : (start patterns arrivals knowledge).recorded = 0 := by
  unfold recorded start
  induction arrivals with
  | nil => rfl
  | cons arrival rest inductionHypothesis =>
      rw [List.map_cons, recordedBy, inductionHypothesis]
      rfl

/-- What is promised at the start does not depend on the order of arrival. -/
theorem promises_start_perm {patterns : Pattern.Store} {arrivals order : List Arrival}
    (permuted : order.Perm arrivals) {knowledge : Knowledge Sets} :
    (start patterns order knowledge).Promises setNames IsMember Refused fact ↔
      (start patterns arrivals knowledge).Promises setNames IsMember Refused fact := by
  have same (effect : Effect) : effect ∈ (start patterns order knowledge).ahead ↔
      effect ∈ (start patterns arrivals knowledge).ahead :=
    ((permuted.map _).flatMap_right _).mem_iff
  simp only [Promises, same]
  rfl

/--
However the effects of responses interleave, they end with the same names and addresses in the map
and the same members in the sets as processing the responses one after another in any order, and
the pairs that the responses found new are those by which the map grew.
-/
theorem interleaving_agrees {Occurs : Sets → Prop} {IsMember : Sets → String → Ip → Prop}
    {Refused : String → Ip → Prop} (backend : Backend Sets) (patterns : Pattern.Store)
    (setNames : List String) (arrivals order : List Arrival) (knowledge : Knowledge Sets)
    (final : Flight Sets) (steady : backend.Steady Occurs IsMember Refused)
    (occurs : Occurs knowledge.sets) (permuted : order.Perm arrivals)
    (run : Run backend setNames (start patterns arrivals knowledge) final)
    (landed : final.ahead = []) :
    (∀ name, final.knowledge.map.snapshot.contains name =
      (observeAll backend patterns setNames order knowledge).map.snapshot.contains name) ∧
    (∀ name text, final.knowledge.map.knows name text =
      (observeAll backend patterns setNames order knowledge).map.knows name text) ∧
    (∀ set address, IsMember final.knowledge.sets set address ↔
      IsMember (observeAll backend patterns setNames order knowledge).sets set address) ∧
    final.recorded + knowledge.map.pairCount = final.knowledge.map.pairCount := by
  obtain ⟨done, allDone, inOrder⟩ := run_observeAll backend setNames patterns order [] knowledge
  have doneLanded : (⟨[] ++ done, observeAll backend patterns setNames order knowledge⟩ :
      Flight Sets).ahead = [] := by
    rw [ahead, List.flatMap_eq_nil_iff]
    exact allDone
  have agree (fact : Fact) : fact.Holds IsMember final.knowledge ↔
      fact.Holds IsMember (observeAll backend patterns setNames order knowledge) := by
    rw [holds_of_landed steady run occurs landed, ← promises_start_perm permuted]
    exact (holds_of_landed steady inOrder occurs doneLanded).symm
  refine ⟨?_, ?_, ?_, ?_⟩
  · exact fun name => Bool.eq_iff_iff.mpr (agree (.named name))
  · exact fun name text => Bool.eq_iff_iff.mpr (agree (.known name text))
  · exact fun set address => agree (.member set address)
  · have counted := pairCount_run run
    rw [recorded_start] at counted
    exact (Nat.add_comm _ _).trans counted.symm

/-- Two responses with an address and a name in common. -/
def overlapping : List Arrival :=
  [⟨"www.aaa.example", .proxied 0,
      { anyRequest.message with answers := [hostRecord 1, hostRecord 2] }⟩,
    ⟨"aaaaaaaaaaaaaaaaaaaaaaaa", .proxied 0,
      { anyRequest.message with answers := [hostRecord 2] }⟩]

/-- One pair is known already, and one address is refused. -/
def partlyKnown : Knowledge Memory :=
  { Knowledge.fresh with
    map := (AddressMap.empty.insert "aaaaaaaaaaaaaaaaaaaaaaaa" "192.0.2.1").2
    sets := (Memory.new false).failOn (.v4 ⟨192, 0, 2, 2⟩) }

/-- The two responses processed by turns. -/
def overlapped : Flight Memory :=
  [0, 1, 0, 0, 1, 0, 0, 1, 0, 0].foldl (turn Memory.backend ["firewall"])
    (start ⟨[⟨"proxied", "proxied.txt", ["aaa"]⟩]⟩ overlapping partlyKnown)

theorem interleaving_agrees_overlapping :
    overlapped.ahead = [] ∧ overlapped.recorded = 3 ∧
    overlapped.knowledge.map.pairCount = 4 ∧
    (∀ name text, overlapped.knowledge.map.knows name text =
      (observeAll Memory.backend ⟨[⟨"proxied", "proxied.txt", ["aaa"]⟩]⟩ ["firewall"]
        overlapping.reverse partlyKnown).map.knows name text) ∧
    ∀ set address, overlapped.knowledge.sets.IsMember set address ↔
      (observeAll Memory.backend ⟨[⟨"proxied", "proxied.txt", ["aaa"]⟩]⟩ ["firewall"]
        overlapping.reverse partlyKnown).sets.IsMember set address := by
  have landed : overlapped.ahead = [] := by decide +kernel
  have found : overlapped.recorded = 3 := by decide +kernel
  have checks : Memory.SameChecks partlyKnown.sets partlyKnown.sets :=
    ⟨rfl, rfl, rfl, fun _ _ => rfl⟩
  obtain ⟨_, pairs, members, counted⟩ := interleaving_agrees Memory.backend
    ⟨[⟨"proxied", "proxied.txt", ["aaa"]⟩]⟩ ["firewall"] overlapping overlapping.reverse
    partlyKnown overlapped (Memory.steady_memory partlyKnown.sets) checks (List.reverse_perm _)
    (run_turns _ _) landed
  have before : partlyKnown.map.pairCount = 1 := by decide +kernel
  refine ⟨landed, found, ?_, pairs, members⟩
  omega

end Flight

end SplitDns.Query
