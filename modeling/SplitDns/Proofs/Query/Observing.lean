import SplitDns.Proofs.AddressMap.Growth
import SplitDns.Proofs.AddressSet.Calls
import SplitDns.Proofs.Dns.Keys
import SplitDns.Proofs.Query.Replies

/-!
# What observing a response changes

The effects of a response happen one by one. Each changes the map and the sets by at most one entry
and raises at most one signal, and all names they record are in normal form.
-/

namespace SplitDns.Query

open SplitDns.Address
open SplitDns.AddressSet
open SplitDns.Dns
open SplitDns.Exchange
open SplitDns.Listener

variable {Network Sets Other : Type}

/-! ### Effects without repetition -/

theorem mem_foldl_distinct {kept effects : List Effect} {effect : Effect} :
    effect ∈ effects.foldl
        (fun kept effect =>
          if effect.isAdd && kept.contains effect then kept else kept ++ [effect]) kept ↔
      effect ∈ kept ∨ effect ∈ effects := by
  induction effects generalizing kept with
  | nil => simp
  | cons head rest inductionHypothesis =>
      rw [List.foldl_cons, inductionHypothesis, List.mem_cons]
      by_cases again : (head.isAdd && kept.contains head) = true
      · rw [if_pos again]
        have known : head ∈ kept := by
          rw [Bool.and_eq_true, List.contains_iff_mem] at again
          exact again.2
        constructor
        · rintro (old | later)
          · exact .inl old
          · exact .inr (.inr later)
        · rintro (old | rfl | later)
          · exact .inl old
          · exact .inl known
          · exact .inr later
      · rw [if_neg again, List.mem_append, List.mem_singleton, or_assoc]

theorem mem_distinctAdds {effects : List Effect} {effect : Effect} :
    effect ∈ distinctAdds effects ↔ effect ∈ effects := by
  rw [distinctAdds, mem_foldl_distinct]
  simp

theorem record_not_mem_addEffects (route : Route) (name : String) (address other : Ipv4) :
    Effect.record name address ∉ addEffects route other := by
  unfold addEffects
  cases route.index? <;> simp

theorem ipv4?_eq_some {record : Record} {address : Ipv4} :
    ipv4? record = some address ↔ record.data = .ipv4 address := by
  unfold ipv4?
  split
  next equal => simp [equal]
  next other =>
    constructor
    · nofun
    · exact fun data => (other address data).elim

theorem record_mem_answerEffects {patterns : Pattern.Store} {subject : Subject} {record : Record}
    {name : String} {address : Ipv4} :
    Effect.record name address ∈ answerEffects patterns subject record ↔
      record.data = .ipv4 address ∧ (name = subject.name ∨ name = record.owner.key) := by
  rw [← ipv4?_eq_some, answerEffects]
  cases ipv4? record with
  | none => simp
  | some here =>
      by_cases same : record.owner.key = subject.name
      · simp [record_not_mem_addEffects, same, and_comm, eq_comm]
      · simp [record_not_mem_addEffects, same, and_comm, and_or_left, eq_comm]

theorem record_mem_otherEffects {patterns : Pattern.Store} {record : Record} {name : String}
    {address : Ipv4} :
    Effect.record name address ∈ otherEffects patterns record ↔
      record.data = .ipv4 address ∧ name = record.owner.key := by
  rw [← ipv4?_eq_some, otherEffects]
  cases ipv4? record with
  | none => simp
  | some here => simp [record_not_mem_addEffects, and_comm, eq_comm]

/-- An answer is recorded for the name asked for, and every record for its owner. -/
theorem record_mem_effects {patterns : Pattern.Store} {subject : Subject} {response : Message}
    {name : String} {address : Ipv4} :
    Effect.record name address ∈ effects patterns subject response ↔
      (name = subject.name ∧ ∃ record ∈ response.answers, record.data = .ipv4 address) ∨
        ∃ record ∈ response.records, record.data = .ipv4 address ∧ name = record.owner.key := by
  rw [effects, mem_distinctAdds, List.mem_append, List.mem_flatMap, List.mem_flatMap,
    Message.records, List.append_assoc]
  simp only [record_mem_answerEffects, record_mem_otherEffects]
  constructor
  · rintro (⟨record, found, data, asked | owner⟩ | ⟨record, found, data, owner⟩)
    · exact .inl ⟨asked, record, found, data⟩
    · exact .inr ⟨record, List.mem_append_left _ found, data, owner⟩
    · exact .inr ⟨record, List.mem_append_right _ found, data, owner⟩
  · rintro (⟨asked, record, found, data⟩ | ⟨record, found, data, owner⟩)
    · exact .inl ⟨record, found, data, .inl asked⟩
    · rcases List.mem_append.mp found with inAnswers | inOthers
      · exact .inl ⟨record, inAnswers, data, .inr owner⟩
      · exact .inr ⟨record, inOthers, data, owner⟩

/-- Only the name asked for and the keys of owners are recorded. -/
theorem normalizeName_of_mem_effects {patterns : Pattern.Store} {subject : Subject}
    {response : Message} {name : String} {address : Ipv4}
    (normal : normalizeName subject.name = subject.name)
    (found : Effect.record name address ∈ effects patterns subject response) :
    normalizeName name = name := by
  rcases record_mem_effects.mp found with ⟨rfl, _⟩ | ⟨record, _, _, rfl⟩
  · exact normal
  · exact normalizeName_key record.owner

/-! ### Single effects -/

namespace Knowledge

variable {backend : Backend Sets} {setNames : List String}

theorem add_eq (set : String) (address : Ipv4) (knowledge : Knowledge Sets) :
    knowledge.add backend set address =
      ((backend.add set (.v4 address) knowledge.sets).1,
        if (backend.add set (.v4 address) knowledge.sets).1.isOk then
          { knowledge with sets := (backend.add set (.v4 address) knowledge.sets).2 }.signal
            .addressSet
        else
          { knowledge with sets := (backend.add set (.v4 address) knowledge.sets).2 }) := rfl

theorem record_eq (name : String) (address : Ipv4) (knowledge : Knowledge Sets) :
    knowledge.record name address =
      ((knowledge.map.insert name (Ip.v4 address).text).1,
        if (knowledge.map.insert name (Ip.v4 address).text).1 then
          { knowledge with map := (knowledge.map.insert name (Ip.v4 address).text).2 }.signal
            .addressMap
        else
          { knowledge with map := (knowledge.map.insert name (Ip.v4 address).text).2 }) := by
  unfold record
  with_reducible rfl

theorem map_record (name : String) (address : Ipv4) (knowledge : Knowledge Sets) :
    (knowledge.record name address).2.map =
      (knowledge.map.insert name (Ip.v4 address).text).2 := by
  rw [record_eq]
  generalize knowledge.map.insert name (Ip.v4 address).text = outcome
  cases outcome.1 <;> rfl

theorem sets_record (name : String) (address : Ipv4) (knowledge : Knowledge Sets) :
    (knowledge.record name address).2.sets = knowledge.sets := by
  rw [record_eq]
  generalize knowledge.map.insert name (Ip.v4 address).text = outcome
  cases outcome.1 <;> rfl

theorem map_add (set : String) (address : Ipv4) (knowledge : Knowledge Sets) :
    (knowledge.add backend set address).2.map = knowledge.map := by
  rw [add_eq]
  split <;> rfl

theorem sets_add (set : String) (address : Ipv4) (knowledge : Knowledge Sets) :
    (knowledge.add backend set address).2.sets =
      (backend.add set (.v4 address) knowledge.sets).2 := by
  rw [add_eq]
  split <;> rfl

theorem apply_record (name : String) (address : Ipv4) (tally : Tally)
    (knowledge : Knowledge Sets) :
    (knowledge.apply backend setNames (.record name address) tally).2 =
      (knowledge.record name address).2 := by
  simp only [apply]

theorem apply_add_of_none {index : Nat} (address : Ipv4) (tally : Tally)
    (knowledge : Knowledge Sets) (unnamed : setNames[index]? = none) :
    (knowledge.apply backend setNames (.add index address) tally).2 = knowledge := by
  simp only [apply, unnamed]

theorem apply_add {index : Nat} {set : String} (address : Ipv4) (tally : Tally)
    (knowledge : Knowledge Sets) (named : setNames[index]? = some set) :
    (knowledge.apply backend setNames (.add index address) tally).2 =
      (knowledge.add backend set address).2 := by
  simp only [apply, named]
  split
  next equal => rw [equal]
  next equal => rw [equal]

theorem applyAll_cons (effect : Effect) (rest : List Effect) (tally : Tally)
    (knowledge : Knowledge Sets) :
    knowledge.applyAll backend setNames (effect :: rest) tally =
      (knowledge.apply backend setNames effect tally).2.applyAll backend setNames rest
        (knowledge.apply backend setNames effect tally).1 := by
  simp only [applyAll, List.foldl_cons]

/-! ### Backends that add alike -/

/-- The knowledge with a change made to the sets. -/
def mapSets (change : Sets → Other) (knowledge : Knowledge Sets) : Knowledge Other :=
  ⟨knowledge.map, change knowledge.sets, knowledge.signals, knowledge.audit⟩

variable {other : Backend Other} {change : Sets → Other}

theorem mapSets_add (alike : backend.AddsAlike other change) (set : String) (address : Ipv4)
    (knowledge : Knowledge Sets) :
    (knowledge.mapSets change).add other set address =
      ((knowledge.add backend set address).1,
        (knowledge.add backend set address).2.mapSets change) := by
  have same : (knowledge.mapSets change).sets = change knowledge.sets := rfl
  rw [add_eq, add_eq, same, alike]
  cases (backend.add set (.v4 address) knowledge.sets).1 <;> rfl

theorem mapSets_record (name : String) (address : Ipv4) (knowledge : Knowledge Sets) :
    (knowledge.mapSets change).record name address =
      ((knowledge.record name address).1,
        (knowledge.record name address).2.mapSets change) := by
  have same : (knowledge.mapSets change).map = knowledge.map := rfl
  rw [record_eq, record_eq, same]
  generalize knowledge.map.insert name (Ip.v4 address).text = outcome
  cases outcome.1 <;> rfl

theorem mapSets_apply (alike : backend.AddsAlike other change) (effect : Effect) (tally : Tally)
    (knowledge : Knowledge Sets) :
    (knowledge.mapSets change).apply other setNames effect tally =
      ((knowledge.apply backend setNames effect tally).1,
        (knowledge.apply backend setNames effect tally).2.mapSets change) := by
  cases effect with
  | record name address => simp only [apply, mapSets_record]
  | add index address =>
      simp only [apply]
      cases setNames[index]? with
      | none => rfl
      | some set =>
          simp only [mapSets_add alike]
          cases knowledge.add backend set address with
          | mk result knowledge => cases result <;> rfl

theorem mapSets_applyAll (alike : backend.AddsAlike other change) (effects : List Effect)
    (tally : Tally) (knowledge : Knowledge Sets) :
    (knowledge.mapSets change).applyAll other setNames effects tally =
      ((knowledge.applyAll backend setNames effects tally).1,
        (knowledge.applyAll backend setNames effects tally).2.mapSets change) := by
  induction effects generalizing tally knowledge with
  | nil => rfl
  | cons effect rest inductionHypothesis =>
      rw [applyAll_cons, applyAll_cons, mapSets_apply alike]
      exact inductionHypothesis _ _

end Knowledge

/-- A change of state under which additions do the same leaves observing as it is. -/
theorem observe_mapSets {backend : Backend Sets} {other : Backend Other} {change : Sets → Other}
    (alike : backend.AddsAlike other change) (patterns : Pattern.Store) (setNames : List String)
    (subject : Subject) (response : Message) (knowledge : Knowledge Sets) :
    observe other patterns setNames subject response (knowledge.mapSets change) =
      ((observe backend patterns setNames subject response knowledge).1,
        (observe backend patterns setNames subject response knowledge).2.mapSets change) := by
  simp only [observe, Knowledge.mapSets_applyAll alike]
  split <;> rfl

/-! ### Resolutions -/

@[simp]
theorem normalizeName_questionName (query : Message) :
    normalizeName (questionName query) = questionName query := by
  unfold questionName
  cases query.questions.head? with
  | none => rfl
  | some question => exact normalizeName_key question.name

theorem questionName_ne_empty {patterns : Pattern.Store} {query : Message} {index : Nat}
    (routed : patterns.classify (questionName query) = .proxied index) :
    questionName query ≠ "" := by
  intro empty
  rw [empty] at routed
  cases routed

theorem sets_observe (backend : Backend Sets) (patterns : Pattern.Store) (setNames : List String)
    (subject : Subject) (response : Message) (knowledge : Knowledge Sets) :
    (observe backend patterns setNames subject response knowledge).2.sets =
        (knowledge.applyAll backend setNames (effects patterns subject response) .zero).2.sets ∧
      (observe backend patterns setNames subject response knowledge).2.map =
        (knowledge.applyAll backend setNames (effects patterns subject response) .zero).2.map := by
  simp only [observe]
  split <;> exact ⟨rfl, rfl⟩

theorem signals_observe (backend : Backend Sets) (patterns : Pattern.Store)
    (setNames : List String) (subject : Subject) (response : Message)
    (knowledge : Knowledge Sets) :
    (observe backend patterns setNames subject response knowledge).2.signals =
      (knowledge.applyAll backend setNames (effects patterns subject response)
        .zero).2.signals := by
  simp only [observe]
  split <;> rfl

theorem knowledge_of_upstream (routing : Routing) (transport : Transport Network)
    (backend : Backend Sets) (request : Request) (state : Network × Knowledge Sets) :
    (resolve routing transport backend request state).2.2 =
      match upstream routing transport request state.1 with
      | .error _ => state.2
      | .ok answer =>
          (observe backend routing.patterns routing.setNames
            (.of (questionName request.message)
              (routing.patterns.classify (questionName request.message)))
            answer.message state.2).2 := by
  unfold resolve upstream
  simp only
  split
  next equal => rw [equal]
  next equal => rw [equal]

end SplitDns.Query
