import Mathlib.Data.List.Forall2
import SplitDns.Proofs.FirstOccurrences
import SplitDns.Proofs.Pattern.Rereading
import SplitDns.Proofs.Query.Events

/-!
# Which address goes to which set

Every address in a response is attributed to classes, to those of the owners of its records and in
the answer section also to the class of the query. Attributions occur in the order of the records,
and the backend is called once for each, in the order of first occurrence.
-/

namespace SplitDns.Query

open SplitDns.Address
open SplitDns.AddressSet
open SplitDns.Dns

variable {Sets : Type}

/-- The address of a record with the classes of some routes. -/
def attributed (routes : List Route) (record : Record) : List (Nat × Ipv4) :=
  match ipv4? record with
  | none => []
  | some address => routes.filterMap fun route => route.index?.map (·, address)

/--
The classes of addresses as they occur in a response. An answer counts for the class of its owner
and then for the class of the query, the other records for the classes of their owners only.
-/
def occurrences (patterns : Pattern.Store) (route : Route) (response : Message) :
    List (Nat × Ipv4) :=
  (response.answers.flatMap fun record =>
      attributed [patterns.classify record.owner.key, route] record) ++
    (response.authority ++ response.additional).flatMap fun record =>
      attributed [patterns.classify record.owner.key] record

/--
An address of a response goes to a class: an owner of the address belongs to it, or the query does
and the address is an answer.
-/
def GoesTo (patterns : Pattern.Store) (route : Route) (response : Message) (index : Nat)
    (address : Ipv4) : Prop :=
  (∃ record ∈ response.records, record.data = .ipv4 address ∧
      patterns.classify record.owner.key = .proxied index) ∨
    route = .proxied index ∧ ∃ record ∈ response.answers, record.data = .ipv4 address

section Occurrences

variable {patterns : Pattern.Store} {route : Route} {response : Message} {index : Nat}
  {address : Ipv4}

theorem mem_attributed {routes : List Route} {record : Record} :
    (index, address) ∈ attributed routes record ↔
      record.data = .ipv4 address ∧ .proxied index ∈ routes := by
  have leads (candidate : Route) : candidate.index? = some index ↔ candidate = .proxied index := by
    cases candidate <;> simp [Route.index?]
  rw [← ipv4?_eq_some, attributed]
  cases ipv4? record with
  | none => simp
  | some here => simp [leads, and_comm]

theorem mem_occurrences :
    (index, address) ∈ occurrences patterns route response ↔
      GoesTo patterns route response index address := by
  rw [GoesTo, occurrences, List.mem_append, List.mem_flatMap, List.mem_flatMap, Message.records,
    List.append_assoc]
  simp only [mem_attributed, List.mem_cons, List.not_mem_nil, or_false]
  constructor
  · rintro (⟨record, found, data, owner | query⟩ | ⟨record, found, data, owner⟩)
    · exact .inl ⟨record, List.mem_append_left _ found, data, owner.symm⟩
    · exact .inr ⟨query.symm, record, found, data⟩
    · exact .inl ⟨record, List.mem_append_right _ found, data, owner.symm⟩
  · rintro (⟨record, found, data, owner⟩ | ⟨query, record, found, data⟩)
    · rcases List.mem_append.mp found with inAnswers | inOthers
      · exact .inl ⟨record, inAnswers, data, .inl owner.symm⟩
      · exact .inr ⟨record, inOthers, data, owner.symm⟩
    · exact .inl ⟨record, found, data, .inr query.symm⟩

end Occurrences

/-! ### Additions among the effects -/

theorem filterMap_addEffects (route : Route) (address : Ipv4) :
    (addEffects route address).filterMap Effect.addition? =
      (route.index?.map (·, address)).toList := by
  unfold addEffects
  cases route.index? <;> rfl

theorem additions_answerEffects (patterns : Pattern.Store) (subject : Subject) (record : Record) :
    (answerEffects patterns subject record).filterMap Effect.addition? =
      attributed [patterns.classify record.owner.key, subject.route] record := by
  rw [answerEffects, attributed]
  cases ipv4? record with
  | none => rfl
  | some address =>
      have recordsOnly : (if record.owner.key = subject.name then []
          else [Effect.record record.owner.key address]).filterMap Effect.addition? = [] := by
        split <;> rfl
      simp only [List.filterMap_append, recordsOnly, filterMap_addEffects]
      generalize patterns.classify record.owner.key = owner
      generalize subject.route = query
      cases owner <;> cases query <;> rfl

theorem additions_otherEffects (patterns : Pattern.Store) (record : Record) :
    (otherEffects patterns record).filterMap Effect.addition? =
      attributed [patterns.classify record.owner.key] record := by
  rw [otherEffects, attributed]
  cases ipv4? record with
  | none => rfl
  | some address =>
      have noAddition : Effect.addition? (.record record.owner.key address) = none := rfl
      simp only [List.filterMap_cons, noAddition, filterMap_addEffects]
      generalize patterns.classify record.owner.key = owner
      cases owner <;> rfl

theorem mem_additions {effects : List Effect} {index : Nat} {address : Ipv4} :
    (index, address) ∈ effects.filterMap Effect.addition? ↔ .add index address ∈ effects := by
  rw [List.mem_filterMap]
  constructor
  · rintro ⟨_ | _, found, added⟩
    · cases added
    · cases added
      exact found
  · exact fun found => ⟨_, found, rfl⟩

/-- Equal additions are left out, and records are no additions. -/
theorem additions_foldl_distinct {all : List (Nat × Ipv4)} {kept : List Effect}
    (first : IsFirstOccurrences all (kept.filterMap Effect.addition?)) (effects : List Effect) :
    IsFirstOccurrences (all ++ effects.filterMap Effect.addition?)
      ((effects.foldl
        (fun kept effect =>
          if effect.isAdd && kept.contains effect then kept else kept ++ [effect])
        kept).filterMap Effect.addition?) := by
  -- The whole list and the kept one have the same members, so testing one for an addition is
  -- testing the other; records pass through both unseen.
  induction effects generalizing all kept with
  | nil =>
      rw [List.filterMap_nil, List.append_nil]
      exact first
  | cons effect rest inductionHypothesis =>
      rw [List.foldl_cons]
      cases effect with
      | record name address =>
          apply inductionHypothesis
          rw [if_neg (by simp [Effect.isAdd]), List.filterMap_append]
          have same : kept.filterMap Effect.addition? ++
              [Effect.record name address].filterMap Effect.addition? =
                kept.filterMap Effect.addition? := List.append_nil _
          rw [same]
          exact first
      | add index address =>
          have whole : all ++ (Effect.add index address :: rest).filterMap Effect.addition? =
              all ++ [(index, address)] ++ rest.filterMap Effect.addition? := List.append_cons _ _ _
          rw [whole]
          apply inductionHypothesis
          by_cases known : .add index address ∈ kept
          · rw [if_pos (by simp [Effect.isAdd, known])]
            exact first.again ((first.mem_iff _).mp (mem_additions.mpr known))
          · rw [if_neg (by simp [known]), List.filterMap_append]
            apply first.anew
            rw [← first.mem_iff, mem_additions]
            exact known

theorem additions_effects (patterns : Pattern.Store) (subject : Subject) (response : Message) :
    IsFirstOccurrences (occurrences patterns subject.route response)
      ((effects patterns subject response).filterMap Effect.addition?) := by
  have begun : IsFirstOccurrences [] (([] : List Effect).filterMap Effect.addition?) := .empty
  have distinct := additions_foldl_distinct begun
    (response.answers.flatMap (answerEffects patterns subject) ++
      (response.authority ++ response.additional).flatMap (otherEffects patterns))
  rw [List.nil_append, List.filterMap_append, List.filterMap_flatMap, List.filterMap_flatMap]
    at distinct
  simp only [additions_answerEffects, additions_otherEffects] at distinct
  exact distinct

/-! ### Calls -/

/-- A call is made if and only if some address goes to a class, and the call adds it to the set. -/
theorem mem_calls {backend : Backend Sets} {patterns : Pattern.Store} {setNames : List String}
    {name : String} {route : Route} {response : Message} {knowledge : Knowledge Sets}
    {call : Call} :
    call ∈ (callNotes backend patterns setNames (.of name route) response knowledge).map
        CallNote.call ↔
      ∃ index address set, GoesTo patterns route response index address ∧
        setNames[index]? = some set ∧ .add set (.v4 address) = call := by
  have first : IsFirstOccurrences (occurrences patterns route response) _ :=
    additions_effects patterns (.of name route) response
  rw [callNotes_eq, calls_events, List.mem_filterMap]
  constructor
  · rintro ⟨⟨index, address⟩, held, offered⟩
    obtain ⟨set, named, made⟩ := offer?_eq_some_iff.mp offered
    exact ⟨index, address, set, mem_occurrences.mp ((first.mem_iff _).mp held), named, made⟩
  · rintro ⟨index, address, set, goesTo, named, made⟩
    exact ⟨(index, address), (first.mem_iff _).mpr (mem_occurrences.mpr goesTo),
      offer?_eq_some_iff.mpr ⟨set, named, made⟩⟩

theorem forall₂_filterMap {Item Result : Type} {choose : Item → Option Result} {items : List Item}
    (total : ∀ item ∈ items, (choose item).isSome = true) :
    List.Forall₂ (fun item result => choose item = some result) items (items.filterMap choose) := by
  induction items with
  | nil => exact .nil
  | cons item rest inductionHypothesis =>
      obtain ⟨result, chosen⟩ := Option.isSome_iff_exists.mp (total item List.mem_cons_self)
      rw [List.filterMap_cons_some chosen]
      exact .cons chosen
        (inductionHypothesis fun other found => total other (List.mem_cons_of_mem _ found))

/--
The backend is called for the addresses of records whose owner belongs to a class, and for the
addresses of answers if the query was routed to a class. Each class is offered an address once, in
the order of first occurrence, by an addition to its set; and nothing else is called.
-/
theorem calls_follow_attributions (backend : Backend Sets) (patterns : Pattern.Store)
    (setNames : List String) (name : String) (route : Route) (response : Message)
    (knowledge : Knowledge Sets) (named : setNames.length = patterns.classes.length)
    (routed : ∀ index, route = .proxied index → index < patterns.classes.length) :
    ∃ pairs : List (Nat × Ipv4),
      pairs.Nodup ∧
      IsFirstOccurrences (occurrences patterns route response) pairs ∧
      (∀ index address, (index, address) ∈ pairs ↔
        GoesTo patterns route response index address) ∧
      List.Forall₂
        (fun pair call => ∃ set, setNames[pair.1]? = some set ∧ call = .add set (.v4 pair.2))
        pairs
        ((callNotes backend patterns setNames (.of name route) response knowledge).map
          CallNote.call) := by
  let pairs := (effects patterns (.of name route) response).filterMap Effect.addition?
  have first : IsFirstOccurrences (occurrences patterns route response) pairs :=
    additions_effects patterns (.of name route) response
  have members (index : Nat) (address : Ipv4) :
      (index, address) ∈ pairs ↔ GoesTo patterns route response index address :=
    (first.mem_iff (index, address)).trans mem_occurrences
  have inside : ∀ pair ∈ pairs, pair.1 < setNames.length := by
    rintro ⟨index, address⟩ found
    rw [named]
    rcases (members index address).mp found with ⟨record, _, _, owner⟩ | ⟨query, _⟩
    · exact Pattern.Store.lt_length_of_classify owner
    · exact routed index query
  have offered : ∀ pair ∈ pairs, (offer? setNames pair).isSome = true := by
    intro pair found
    rw [offer?, List.getElem?_eq_getElem (inside pair found)]
    rfl
  refine ⟨pairs, first.nodup, first, members, ?_⟩
  rw [callNotes_eq, calls_events]
  apply (forall₂_filterMap offered).imp
  intro pair call chosen
  obtain ⟨set, held, same⟩ := Option.map_eq_some_iff.mp chosen
  exact ⟨set, held, same.symm⟩

/-- Two classes of names, for video and for names with three letters A in a row. -/
def twoClasses : Pattern.Store :=
  ⟨[⟨"video", "video.txt", ["vid"]⟩, ⟨"proxied", "proxied.txt", ["aaa"]⟩]⟩

def videoOwner : Name :=
  ⟨[[118, 105, 100]], by decide, by decide⟩

/--
A name stands for a video host, whose address is given twice. Beside the answers there is one more
address, and a record for an address that has no data.
-/
def aliased : Message :=
  { anyRequest.message with
    answers := [⟨longOwner, 1, 0, .host .alias videoOwner⟩,
      ⟨videoOwner, 1, 0, .ipv4 ⟨192, 0, 2, 1⟩⟩, ⟨videoOwner, 1, 0, .ipv4 ⟨192, 0, 2, 1⟩⟩]
    additional := [hostRecord 1, hostRecord 2, ⟨videoOwner, 1, 0, .absent 1⟩] }

theorem calls_follow_attributions_aliased :
    (callNotes Memory.backend twoClasses ["screen", "firewall"] (.of "aaa.example" (.proxied 1))
        aliased .fresh).map CallNote.call =
      [.add "screen" (.v4 ⟨192, 0, 2, 1⟩), .add "firewall" (.v4 ⟨192, 0, 2, 1⟩),
        .add "firewall" (.v4 ⟨192, 0, 2, 2⟩)] ∧
    ∃ pairs : List (Nat × Ipv4), pairs.Nodup ∧
      (0, ⟨192, 0, 2, 1⟩) ∈ pairs ∧ (1, ⟨192, 0, 2, 1⟩) ∈ pairs ∧ (1, ⟨192, 0, 2, 2⟩) ∈ pairs ∧
      pairs.length = 3 := by
  have calls : (callNotes Memory.backend twoClasses ["screen", "firewall"]
      (.of "aaa.example" (.proxied 1)) aliased .fresh).map CallNote.call =
        [.add "screen" (.v4 ⟨192, 0, 2, 1⟩), .add "firewall" (.v4 ⟨192, 0, 2, 1⟩),
          .add "firewall" (.v4 ⟨192, 0, 2, 2⟩)] := by
    decide +kernel
  have routed : ∀ index, Route.proxied 1 = .proxied index → index < twoClasses.classes.length := by
    rintro index same
    cases same
    decide
  obtain ⟨pairs, distinct, _, members, offered⟩ := calls_follow_attributions Memory.backend
    twoClasses ["screen", "firewall"] "aaa.example" (.proxied 1) aliased .fresh rfl routed
  refine ⟨calls, pairs, distinct, ?_, ?_, ?_, ?_⟩
  · apply (members 0 _).mpr
    exact .inl ⟨⟨videoOwner, 1, 0, .ipv4 ⟨192, 0, 2, 1⟩⟩, by decide, rfl, by decide +kernel⟩
  · apply (members 1 _).mpr
    exact .inr ⟨rfl, ⟨videoOwner, 1, 0, .ipv4 ⟨192, 0, 2, 1⟩⟩, by decide, rfl⟩
  · apply (members 1 _).mpr
    exact .inl ⟨hostRecord 2, by decide, rfl, by decide +kernel⟩
  · rw [offered.length_eq, calls]
    rfl

end SplitDns.Query
