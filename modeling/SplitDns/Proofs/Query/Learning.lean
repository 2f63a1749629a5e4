import SplitDns.Proofs.FirstOccurrences
import SplitDns.Proofs.Query.Events

/-!
# What is learned from a response

The map learns the addresses of all records for their owners, and those of answers also for the
name asked for. It grows by the pairs that it did not know, which are counted and signalled one by
one, and the audit log is told the addresses of the answers.
-/

namespace SplitDns.Query

open SplitDns.Address
open SplitDns.AddressSet
open SplitDns.Dns

variable {Sets : Type} {backend : Backend Sets} {setNames : List String}

/-- A response gives an address to the name asked for or to the owner of a record. -/
inductive Gives (asked : Name) (response : Message) : String → String → Prop where
  | asked {record : Record} {address : Ipv4} (found : record ∈ response.answers)
      (data : record.data = .ipv4 address) (proper : asked.isRoot = false) :
      Gives asked response asked.key (Ip.v4 address).text
  | owner {record : Record} {address : Ipv4} (found : record ∈ response.records)
      (data : record.data = .ipv4 address) (proper : record.owner.isRoot = false) :
      Gives asked response record.owner.key (Ip.v4 address).text

/-! ### Pairs that the map did not know -/

/-- What one effect adds to the map is the fresh pair of its event. -/
theorem growsBy_event {old map : AddressMap} {fresh : List (String × String)}
    (grows : old.GrowsBy map fresh) (effect : Effect) (sets : Sets) :
    old.GrowsBy (effect.mapAfter map)
      (fresh ++ (effect.event? backend setNames map sets).toList.filterMap Event.fresh?) := by
  cases effect with
  | record name address =>
      have pair (new : Bool) :
          [Event.recorded (normalizeName name) (Ip.v4 address).text new].filterMap Event.fresh? =
            if new then [(normalizeName name, (Ip.v4 address).text)] else [] := by
        cases new <;> rfl
      have grown := grows.insert name (Ip.v4 address).text
      rw [AddressMap.trimText_ipv4, ← pair] at grown
      exact grown
  | add index address =>
      have none : (Effect.event? backend setNames map sets (.add index address)).toList.filterMap
          Event.fresh? = [] := by
        rw [Effect.event?]
        cases setNames[index]? <;> rfl
      rw [Effect.mapAfter, none, List.append_nil]
      exact grows

theorem growsBy_events {old map : AddressMap} {fresh : List (String × String)}
    (grows : old.GrowsBy map fresh) (effects : List Effect) (sets : Sets) :
    old.GrowsBy (mapAfter effects map)
      (fresh ++ (events backend setNames effects map sets).filterMap Event.fresh?) := by
  induction effects generalizing map fresh sets with
  | nil =>
      rw [events, List.filterMap_nil, List.append_nil]
      exact grows
  | cons effect rest inductionHypothesis =>
      rw [events, List.filterMap_append, ← List.append_assoc]
      exact inductionHypothesis (growsBy_event grows effect sets) _

theorem knows_mapAfter {effects : List Effect} {map : AddressMap} {name text : String} :
    (mapAfter effects map).knows name text = true ↔
      map.knows name text = true ∨
        ∃ recorded address, .record recorded address ∈ effects ∧
          normalizeName recorded ≠ "" ∧ name = normalizeName recorded ∧
          text = (Ip.v4 address).text := by
  induction effects generalizing map with
  | nil => simp [mapAfter]
  | cons effect rest inductionHypothesis =>
      rw [mapAfter, List.foldl_cons, ← mapAfter, inductionHypothesis]
      cases effect with
      | record recorded address =>
          rw [Effect.mapAfter, AddressMap.knows_insert, AddressMap.isStorable_ipv4,
            AddressMap.trimText_ipv4, Bool.not_eq_true', String.isEmpty_eq_false_iff]
          constructor
          · rintro ((old | here) | ⟨other, later, found, learned⟩)
            · exact .inl old
            · exact .inr ⟨recorded, address, List.mem_cons_self, here⟩
            · exact .inr ⟨other, later, List.mem_cons_of_mem _ found, learned⟩
          · rintro (old | ⟨other, later, found, learned⟩)
            · exact .inl (.inl old)
            · rcases List.mem_cons.mp found with same | inRest
              · cases same
                exact .inl (.inr learned)
              · exact .inr ⟨other, later, inRest, learned⟩
      | add index address =>
          simp [Effect.mapAfter]

/-- Only the root has the empty key, under which nothing is recorded. -/
theorem gives_iff {patterns : Pattern.Store} {asked : Name} {route : Route} {response : Message}
    {name text : String} :
    Gives asked response name text ↔
      ∃ recorded address,
        .record recorded address ∈ effects patterns (.of asked.key route) response ∧
          normalizeName recorded ≠ "" ∧ name = normalizeName recorded ∧
          text = (Ip.v4 address).text := by
  have proper (owner : Name) : owner.isRoot = false ↔ owner.key ≠ "" := by
    rw [Ne, key_eq_empty_iff, Bool.not_eq_true]
  have subjectName : (Subject.of asked.key route).name = asked.key := normalizeName_key asked
  constructor
  · rintro (⟨found, data, inUse⟩ | ⟨found, data, inUse⟩)
    · refine ⟨asked.key, _, record_mem_effects.mpr (.inl ⟨subjectName.symm, _, found, data⟩), ?_⟩
      rw [normalizeName_key]
      exact ⟨(proper asked).mp inUse, rfl, rfl⟩
    · refine ⟨_, _, record_mem_effects.mpr (.inr ⟨_, found, data, rfl⟩), ?_⟩
      rw [normalizeName_key]
      exact ⟨(proper _).mp inUse, rfl, rfl⟩
  · rintro ⟨recorded, address, effective, filled, rfl, rfl⟩
    rcases record_mem_effects.mp effective with
      ⟨rfl, record, found, data⟩ | ⟨record, found, data, rfl⟩
    · rw [subjectName, normalizeName_key] at filled ⊢
      exact .asked found data ((proper asked).mpr filled)
    · rw [normalizeName_key] at filled ⊢
      exact .owner found data ((proper record.owner).mpr filled)

/--
The map learns what the response gives, and forgets nothing: the fresh pairs come behind the old
ones, and they are counted and signalled. The addresses of the answers are listed by first
occurrence, and the audit log is told them once, unless there are none.
-/
theorem observe_learns_given (backend : Backend Sets) (patterns : Pattern.Store)
    (setNames : List String) (asked : Name) (route : Route) (response : Message)
    (knowledge : Knowledge Sets) :
    let (summary, next) :=
      observe backend patterns setNames (.of asked.key route) response knowledge
    ∃ fresh : List (String × String),
      knowledge.map.GrowsBy next.map fresh ∧
      (∀ name text, (name, text) ∈ fresh ↔
        Gives asked response name text ∧ knowledge.map.knows name text = false) ∧
      (∀ name text, next.map.knows name text = true ↔
        knowledge.map.knows name text = true ∨ Gives asked response name text) ∧
      summary.tally.recorded = fresh.length ∧
      (∃ kinds, Raises backend patterns setNames (.of asked.key route) response knowledge kinds ∧
        kinds.count .addressMap = fresh.length) ∧
      IsFirstOccurrences (response.answers.filterMap ipv4?) summary.addresses ∧
      next.audit = knowledge.audit.map (· ++
        if summary.addresses = [] then []
        else [⟨asked.key, summary.addresses.map fun address => (Ip.v4 address).text,
          route.isProxied⟩]) := by
  let happened := events backend setNames (effects patterns (.of asked.key route) response)
    knowledge.map knowledge.sets
  have grows : knowledge.map.GrowsBy
      (mapAfter (effects patterns (.of asked.key route) response) knowledge.map)
      (happened.filterMap Event.fresh?) :=
    growsBy_events (.refl knowledge.map) _ knowledge.sets
  have knows (name text : String) :
      (mapAfter (effects patterns (.of asked.key route) response) knowledge.map).knows name text =
          true ↔
        knowledge.map.knows name text = true ∨ Gives asked response name text := by
    rw [knows_mapAfter, ← gives_iff]
  rw [observe_eq]
  refine ⟨happened.filterMap Event.fresh?, grows, ?_, knows, Nat.zero_add _,
    ⟨_, raises_events backend patterns setNames _ response knowledge, count_addressMap happened⟩,
    ?_, ?_⟩
  · -- A pair is fresh if it is known afterwards and was not known before.
    intro name text
    constructor
    · intro found
      have unknown := grows.unknown (name, text) found
      rcases (knows name text).mp (grows.knows_iff.mpr (.inr found)) with old | given
      · rw [unknown] at old
        cases old
      · exact ⟨given, unknown⟩
    · rintro ⟨given, unknown⟩
      rcases grows.knows_iff.mp ((knows name text).mpr (.inr given)) with old | found
      · rw [unknown] at old
        cases old
      · exact found
  · exact IsFirstOccurrences.empty.foldl _
  · have batch : (auditBatch? (.of asked.key route) response).toList =
        if answerAddresses response = [] then []
        else [⟨asked.key, (answerAddresses response).map fun address => (Ip.v4 address).text,
          route.isProxied⟩] := by
      simp only [auditBatch?, Subject.of, normalizeName_key, List.isEmpty_iff]
      split <;> rfl
    rw [← batch]

end SplitDns.Query
