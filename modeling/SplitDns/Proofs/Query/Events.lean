import SplitDns.Proofs.Query.Observing

/-!
# Events

What happens while a response is observed: a pair comes to the map, or an address is offered to a
set. The events depend on the map and on the backend, and neither on the signals that wait nor on
the audit log. `observe_eq` reads everything off them that observing a response leaves behind, and
`callNotes_eq` the calls that the backend saw.
-/

namespace SplitDns.Persist

/-- Sends signals in order. -/
def Signals.sendAll (kinds : List SaveKind) (signals : Signals) : Signals :=
  kinds.foldl (fun signals kind => (signals.send kind).2) signals

theorem Signals.sendAll_append (front back : List SaveKind) (signals : Signals) :
    signals.sendAll (front ++ back) = (signals.sendAll front).sendAll back :=
  List.foldl_append

end SplitDns.Persist

namespace SplitDns.Query

open SplitDns.Address
open SplitDns.AddressSet
open SplitDns.Dns
open SplitDns.Exchange
open SplitDns.Listener
open SplitDns.Persist

variable {Network Sets : Type}

/-- What happens when an effect takes place. -/
inductive Event where
  /-- A pair in normal form came to the map; it was new or known. -/
  | recorded (name text : String) (new : Bool)
  | offered (set : String) (address : Ipv4) (succeeded : Bool)

namespace Event

/-- The pair that the map grew by. -/
def fresh? : Event → Option (String × String)
  | recorded name text true => some (name, text)
  | _ => none

def added? : Event → Option (String × Ipv4)
  | offered set address true => some (set, address)
  | _ => none

def isFailure : Event → Bool
  | offered _ _ false => true
  | _ => false

/-- The signal that the event raises. -/
def kind? : Event → Option SaveKind
  | recorded _ _ true => some .addressMap
  | offered _ _ true => some .addressSet
  | _ => none

/-- What the backend saw of the event. -/
def note? : Event → Option CallNote
  | offered set address succeeded => some ⟨.add set (.v4 address), succeeded⟩
  | recorded _ _ _ => none

end Event

/-! ### Single effects -/

namespace Effect

variable (backend : Backend Sets) (setNames : List String)

def mapAfter : Effect → AddressMap → AddressMap
  | .record name address, map => (map.insert name (Ip.v4 address).text).2
  | .add _ _, map => map

def setsAfter : Effect → Sets → Sets
  | .record _ _, sets => sets
  | .add index address, sets =>
      (setNames[index]?).elim sets fun set => (backend.add set (.v4 address) sets).2

/-- The event that an effect is; an addition for a class without set is none. -/
def event? (map : AddressMap) (sets : Sets) : Effect → Option Event
  | .record name address =>
      some (.recorded (normalizeName name) (Ip.v4 address).text
        (map.insert name (Ip.v4 address).text).1)
  | .add index address =>
      setNames[index]?.map fun set =>
        .offered set address (backend.add set (.v4 address) sets).1.isOk

/-- The class and the address of an addition. -/
def addition? : Effect → Option (Nat × Ipv4)
  | .record _ _ => none
  | .add index address => some (index, address)

end Effect

/-- The call that offers an address to the set of a class. -/
def offer? (setNames : List String) (pair : Nat × Ipv4) : Option AddressSet.Call :=
  setNames[pair.1]?.map fun set => .add set (.v4 pair.2)

theorem offer?_eq_some_iff {setNames : List String} {index : Nat} {address : Ipv4}
    {call : AddressSet.Call} :
    offer? setNames (index, address) = some call ↔
      ∃ set, setNames[index]? = some set ∧ .add set (.v4 address) = call :=
  Option.map_eq_some_iff

/-- The tally after further events. -/
def Tally.after (tally : Tally) (events : List Event) : Tally :=
  ⟨tally.recorded + (events.filterMap Event.fresh?).length,
    tally.added ++ events.filterMap Event.added?,
    tally.failed + events.countP Event.isFailure⟩

@[simp]
theorem Tally.after_nil (tally : Tally) : tally.after [] = tally := by
  simp [Tally.after]

theorem Tally.after_append (tally : Tally) (front back : List Event) :
    tally.after (front ++ back) = (tally.after front).after back := by
  simp [Tally.after, Nat.add_assoc]

/-- Everything that one effect changes is settled by the event that it is. -/
theorem Knowledge.apply_eq (backend : Backend Sets) (setNames : List String) (effect : Effect)
    (tally : Tally) (knowledge : Knowledge Sets) :
    knowledge.apply backend setNames effect tally =
      (tally.after (effect.event? backend setNames knowledge.map knowledge.sets).toList,
        ⟨effect.mapAfter knowledge.map, effect.setsAfter backend setNames knowledge.sets,
          knowledge.signals.sendAll
            ((effect.event? backend setNames knowledge.map knowledge.sets).toList.filterMap
              Event.kind?),
          knowledge.audit⟩) := by
  cases effect with
  | record name address =>
      simp only [apply, record_eq, Effect.event?, Effect.mapAfter, Effect.setsAfter]
      generalize knowledge.map.insert name (Ip.v4 address).text = outcome
      cases outcome.1 <;>
        simp [Tally.after, List.filterMap_cons, Event.fresh?, Event.added?, Event.isFailure,
          Event.kind?, Signals.sendAll, signal]
  | add index address =>
      simp only [apply, add_eq, Effect.event?, Effect.mapAfter, Effect.setsAfter]
      cases setNames[index]? with
      | none => simp [Signals.sendAll]
      | some set =>
          simp only [Option.elim_some, Option.map_some]
          generalize backend.add set (.v4 address) knowledge.sets = outcome
          obtain ⟨_ | _, sets⟩ := outcome <;>
            simp [Except.isOk, Except.toBool, Tally.after, List.filterMap_cons, Event.fresh?,
              Event.added?, Event.isFailure, Event.kind?, Signals.sendAll, signal]

/-! ### Runs of effects -/

def mapAfter (effects : List Effect) (map : AddressMap) : AddressMap :=
  effects.foldl (fun map effect => effect.mapAfter map) map

def setsAfter (backend : Backend Sets) (setNames : List String) (effects : List Effect)
    (sets : Sets) : Sets :=
  effects.foldl (fun sets effect => effect.setsAfter backend setNames sets) sets

/-- The events of effects in order. -/
def events (backend : Backend Sets) (setNames : List String) :
    List Effect → AddressMap → Sets → List Event
  | [], _, _ => []
  | effect :: rest, map, sets =>
      (effect.event? backend setNames map sets).toList ++
        events backend setNames rest (effect.mapAfter map)
          (effect.setsAfter backend setNames sets)

theorem Knowledge.applyAll_eq (backend : Backend Sets) (setNames : List String)
    (effects : List Effect) (tally : Tally) (knowledge : Knowledge Sets) :
    knowledge.applyAll backend setNames effects tally =
      (tally.after (events backend setNames effects knowledge.map knowledge.sets),
        ⟨mapAfter effects knowledge.map, setsAfter backend setNames effects knowledge.sets,
          knowledge.signals.sendAll
            ((events backend setNames effects knowledge.map knowledge.sets).filterMap
              Event.kind?),
          knowledge.audit⟩) := by
  induction effects generalizing tally knowledge with
  | nil =>
      rw [events, Tally.after_nil]
      rfl
  | cons effect rest inductionHypothesis =>
      rw [applyAll_cons, apply_eq, inductionHypothesis, events, Tally.after_append,
        List.filterMap_append, Signals.sendAll_append]
      rfl

/-- What observing a response leaves behind. -/
theorem observe_eq (backend : Backend Sets) (patterns : Pattern.Store) (setNames : List String)
    (subject : Subject) (response : Message) (knowledge : Knowledge Sets) :
    observe backend patterns setNames subject response knowledge =
      (⟨answerAddresses response,
          Tally.zero.after (events backend setNames (effects patterns subject response)
            knowledge.map knowledge.sets),
          ipv6Count response⟩,
        ⟨mapAfter (effects patterns subject response) knowledge.map,
          setsAfter backend setNames (effects patterns subject response) knowledge.sets,
          knowledge.signals.sendAll
            ((events backend setNames (effects patterns subject response) knowledge.map
              knowledge.sets).filterMap Event.kind?),
          knowledge.audit.map (· ++ (auditBatch? subject response).toList)⟩) := by
  simp only [observe, Knowledge.applyAll_eq]
  cases auditBatch? subject response with
  | none => simp
  | some batch => rfl

/-! ### Signals -/

/-- Whatever signals wait, observing a response sends these after them, and no others. -/
def Raises (backend : Backend Sets) (patterns : Pattern.Store) (setNames : List String)
    (subject : Subject) (response : Message) (knowledge : Knowledge Sets)
    (kinds : List SaveKind) : Prop :=
  ∀ signals, (observe backend patterns setNames subject response
    { knowledge with signals := signals }).2.signals = signals.sendAll kinds

theorem raises_events (backend : Backend Sets) (patterns : Pattern.Store)
    (setNames : List String) (subject : Subject) (response : Message)
    (knowledge : Knowledge Sets) :
    Raises backend patterns setNames subject response knowledge
      ((events backend setNames (effects patterns subject response) knowledge.map
        knowledge.sets).filterMap Event.kind?) := by
  intro signals
  rw [observe_eq]

theorem count_addressMap (events : List Event) :
    (events.filterMap Event.kind?).count .addressMap =
      (events.filterMap Event.fresh?).length := by
  induction events with
  | nil => rfl
  | cons event rest inductionHypothesis =>
      obtain ⟨name, text, _ | _⟩ | ⟨set, address, _ | _⟩ := event <;>
        simp [List.filterMap_cons, Event.kind?, Event.fresh?, inductionHypothesis]

theorem count_addressSet (events : List Event) :
    (events.filterMap Event.kind?).count .addressSet =
      (events.filterMap Event.added?).length := by
  induction events with
  | nil => rfl
  | cons event rest inductionHypothesis =>
      obtain ⟨name, text, _ | _⟩ | ⟨set, address, _ | _⟩ := event <;>
        simp [List.filterMap_cons, Event.kind?, Event.added?, inductionHypothesis]

/-! ### Calls -/

/-- The knowledge over a state in which no call was made yet. -/
def Knowledge.noted (knowledge : Knowledge Sets) : Knowledge (Noted Sets) :=
  knowledge.mapSets (⟨[], ·⟩)

/-- The calls that observing a response makes of the backend, in order. -/
def callNotes (backend : Backend Sets) (patterns : Pattern.Store) (setNames : List String)
    (subject : Subject) (response : Message) (knowledge : Knowledge Sets) : List CallNote :=
  (observe backend.noting patterns setNames subject response knowledge.noted).2.sets.notes

/-- Noting the calls leaves observing as it is. -/
theorem observe_noting (backend : Backend Sets) (patterns : Pattern.Store)
    (setNames : List String) (subject : Subject) (response : Message)
    (knowledge : Knowledge Sets) :
    observe backend patterns setNames subject response knowledge =
      ((observe backend.noting patterns setNames subject response knowledge.noted).1,
        (observe backend.noting patterns setNames subject response
          knowledge.noted).2.mapSets Noted.state) :=
  observe_mapSets backend.noting_addsAlike patterns setNames subject response knowledge.noted

theorem Effect.setsAfter_noting (backend : Backend Sets) (setNames : List String)
    (effect : Effect) (map : AddressMap) (noted : Noted Sets) :
    effect.setsAfter backend.noting setNames noted =
      ⟨noted.notes ++
          (effect.event? backend setNames map noted.state).toList.filterMap Event.note?,
        effect.setsAfter backend setNames noted.state⟩ := by
  cases effect with
  | record name address =>
      simp [Effect.setsAfter, Effect.event?, List.filterMap_cons, Event.note?]
  | add index address =>
      rw [Effect.setsAfter, Effect.event?, Effect.setsAfter]
      cases setNames[index]? with
      | none => simp
      | some set => simp [Backend.noting_add, Event.note?]

theorem setsAfter_noting (backend : Backend Sets) (setNames : List String)
    (effects : List Effect) (map : AddressMap) (noted : Noted Sets) :
    setsAfter backend.noting setNames effects noted =
      ⟨noted.notes ++ (events backend setNames effects map noted.state).filterMap Event.note?,
        setsAfter backend setNames effects noted.state⟩ := by
  induction effects generalizing map noted with
  | nil => simp [setsAfter, events]
  | cons effect rest inductionHypothesis =>
      rw [setsAfter, List.foldl_cons, ← setsAfter,
        Effect.setsAfter_noting backend setNames effect map,
        inductionHypothesis (effect.mapAfter map), events, List.filterMap_append,
        List.append_assoc]
      rfl

theorem callNotes_eq (backend : Backend Sets) (patterns : Pattern.Store) (setNames : List String)
    (subject : Subject) (response : Message) (knowledge : Knowledge Sets) :
    callNotes backend patterns setNames subject response knowledge =
      (events backend setNames (effects patterns subject response) knowledge.map
        knowledge.sets).filterMap Event.note? := by
  rw [callNotes, observe_eq]
  exact congrArg Noted.notes (setsAfter_noting backend setNames _ knowledge.map ⟨[], _⟩)

/-- Which calls are made depends on the effects alone. -/
theorem calls_events (backend : Backend Sets) (setNames : List String) (effects : List Effect)
    (map : AddressMap) (sets : Sets) :
    ((events backend setNames effects map sets).filterMap Event.note?).map CallNote.call =
      (effects.filterMap Effect.addition?).filterMap (offer? setNames) := by
  induction effects generalizing map sets with
  | nil => rfl
  | cons effect rest inductionHypothesis =>
      rw [events, List.filterMap_append, List.map_append, inductionHypothesis]
      cases effect with
      | record name address =>
          simp [List.filterMap_cons, Effect.event?, Effect.addition?, Event.note?]
      | add index address =>
          cases named : setNames[index]? <;>
            simp [Effect.event?, Effect.addition?, offer?, Event.note?, named]

/-- The calls that resolving a query makes of the backend, in order. -/
def resolutionNotes (routing : Routing) (transport : Transport Network) (backend : Backend Sets)
    (request : Request) (state : Network × Knowledge Sets) : List CallNote :=
  (resolve routing transport backend.noting request (state.1, state.2.noted)).2.2.sets.notes

/-- Noting the calls leaves a resolution as it is. -/
theorem resolve_noting (routing : Routing) (transport : Transport Network)
    (backend : Backend Sets) (request : Request) (state : Network × Knowledge Sets) :
    resolve routing transport backend request state =
      let (reply, network, knowledge) :=
        resolve routing transport backend.noting request (state.1, state.2.noted)
      (reply, network, knowledge.mapSets Noted.state) := by
  unfold resolve
  simp only
  split
  next => rfl
  next answer _ => rw [observe_noting]

theorem resolutionNotes_eq (routing : Routing) (transport : Transport Network)
    (backend : Backend Sets) (request : Request) (state : Network × Knowledge Sets) :
    resolutionNotes routing transport backend request state =
      match upstream routing transport request state.1 with
      | .error _ => []
      | .ok answer =>
          callNotes backend routing.patterns routing.setNames
            (.of (questionName request.message)
              (routing.patterns.classify (questionName request.message)))
            answer.message state.2 := by
  rw [resolutionNotes, knowledge_of_upstream]
  cases upstream routing transport request state.1 <;> rfl

end SplitDns.Query
