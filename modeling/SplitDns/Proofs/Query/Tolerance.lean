import SplitDns.Proofs.Query.Learning

/-!
# Sets that fail

Which effects a response has does not depend on the backend, and no effect depends on how an
addition ended. So whatever fails, the same calls are made and the same is learned, and each run
accounts for its own additions.
-/

namespace SplitDns.Query

open SplitDns.Address
open SplitDns.AddressSet
open SplitDns.Dns
open SplitDns.Persist

variable {Sets Other : Type}

/--
All calls were additions. Those that succeeded are listed in order, each with a signal, and the
others are counted.
-/
structure Accounts (tally : Tally) (notes : List CallNote) (kinds : List SaveKind) : Prop where
  additions : ∀ note ∈ notes, ∃ set address, note.call = .add set (.v4 address)
  added : tally.added = notes.filterMap CallNote.added?
  failed : tally.failed + tally.added.length = notes.length
  signals : kinds.count .addressSet = tally.added.length

/-- A call fails or adds its address. -/
theorem length_notes (events : List Event) :
    events.countP Event.isFailure + (events.filterMap Event.added?).length =
      (events.filterMap Event.note?).length := by
  induction events with
  | nil => rfl
  | cons event rest inductionHypothesis =>
      obtain ⟨name, text, _ | _⟩ | ⟨set, address, _ | _⟩ := event <;>
        simp only [List.countP_cons, List.filterMap_cons, Event.isFailure, Event.added?,
          Event.note?, List.length_cons, reduceCtorEq, if_true, if_false] <;>
        omega

theorem accounts_events (events : List Event) :
    Accounts (Tally.zero.after events) (events.filterMap Event.note?)
      (events.filterMap Event.kind?) := by
  have listed : (Tally.zero.after events).added = events.filterMap Event.added? :=
    List.nil_append _
  have counted : (Tally.zero.after events).failed = events.countP Event.isFailure :=
    Nat.zero_add _
  constructor
  case additions =>
    intro note found
    obtain ⟨_ | ⟨set, address, succeeded⟩, _, same⟩ := List.mem_filterMap.mp found
    · cases same
    · cases same
      exact ⟨set, address, rfl⟩
  case added =>
    have seen : (fun event => (Event.note? event).bind CallNote.added?) = Event.added? := by
      funext event
      obtain ⟨name, text, _ | _⟩ | ⟨set, address, _ | _⟩ := event <;> rfl
    rw [listed, List.filterMap_filterMap, seen]
  case failed =>
    rw [listed, counted]
    exact length_notes events
  case signals =>
    rw [listed]
    exact count_addressSet events

/--
Two backends that fail at different additions, over whatever sets, are called alike, and nothing
else that observing a response does depends on them. Each run accounts for its own additions.
-/
theorem observe_despite_failures (backend : Backend Sets) (other : Backend Other)
    (patterns : Pattern.Store) (setNames : List String) (name : String) (route : Route)
    (response : Message) (knowledge : Knowledge Sets) (otherSets : Other) :
    let subject := Subject.of name route
    let otherKnowledge := knowledge.mapSets fun _ => otherSets
    let made := callNotes backend patterns setNames subject response knowledge
    let otherMade := callNotes other patterns setNames subject response otherKnowledge
    let (summary, next) := observe backend patterns setNames subject response knowledge
    let (otherSummary, otherNext) :=
      observe other patterns setNames subject response otherKnowledge
    made.map CallNote.call = otherMade.map CallNote.call ∧
      next.map = otherNext.map ∧ next.audit = otherNext.audit ∧
      summary.addresses = otherSummary.addresses ∧
      summary.tally.recorded = otherSummary.tally.recorded ∧
      summary.ipv6 = otherSummary.ipv6 ∧
      ∃ kinds otherKinds,
        Raises backend patterns setNames subject response knowledge kinds ∧
        Raises other patterns setNames subject response otherKnowledge otherKinds ∧
        kinds.count .addressMap = otherKinds.count .addressMap ∧
        Accounts summary.tally made kinds ∧ Accounts otherSummary.tally otherMade otherKinds := by
  intro subject otherKnowledge made otherMade
  let happened := events backend setNames (effects patterns subject response) knowledge.map
    knowledge.sets
  let otherHappened := events other setNames (effects patterns subject response) knowledge.map
    otherSets
  have seen : made = happened.filterMap Event.note? := callNotes_eq ..
  have otherSeen : otherMade = otherHappened.filterMap Event.note? := callNotes_eq ..
  have calls : made.map CallNote.call = otherMade.map CallNote.call := by
    rw [seen, otherSeen, calls_events, calls_events]
  have grows : knowledge.map.GrowsBy (mapAfter (effects patterns subject response) knowledge.map)
      (happened.filterMap Event.fresh?) :=
    growsBy_events (.refl knowledge.map) _ knowledge.sets
  have otherGrows : knowledge.map.GrowsBy
      (mapAfter (effects patterns subject response) knowledge.map)
      (otherHappened.filterMap Event.fresh?) :=
    growsBy_events (.refl knowledge.map) _ otherSets
  -- Both runs end with one map, so it has grown by equally many pairs.
  have equallyMany : (happened.filterMap Event.fresh?).length =
      (otherHappened.filterMap Event.fresh?).length :=
    Nat.add_left_cancel (grows.pairCount.symm.trans otherGrows.pairCount)
  have recorded : (Tally.zero.after happened).recorded =
      (Tally.zero.after otherHappened).recorded := congrArg (0 + ·) equallyMany
  rw [observe_eq, observe_eq]
  refine ⟨calls, rfl, rfl, rfl, recorded, rfl, happened.filterMap Event.kind?,
    otherHappened.filterMap Event.kind?,
    raises_events backend patterns setNames subject response knowledge,
    raises_events other patterns setNames subject response otherKnowledge, ?_, ?_, ?_⟩
  · rw [count_addressMap, count_addressMap]
    exact equallyMany
  · rw [seen]
    exact accounts_events happened
  · rw [otherSeen]
    exact accounts_events otherHappened

end SplitDns.Query
