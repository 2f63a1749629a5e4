import SplitDns.Proofs.AddressSet.Members
import SplitDns.Proofs.Query.Attribution
import SplitDns.Proofs.Query.Learning

/-!
# Addresses are offered before they are told

An address of a name that belongs to a class is given to the set of that class before a client
learns it. What was added without failure is a member from then on, so if no addition failed, a
client learns members only.
-/

namespace SplitDns.Query

open SplitDns.Address
open SplitDns.AddressSet
open SplitDns.Dns
open SplitDns.Exchange
open SplitDns.Listener

variable {Network Sets : Type} {backend : Backend Sets} {IsMember : Sets → String → Ip → Prop}

/-! ### Members after effects -/

section Members

variable {setNames : List String} {map : AddressMap} {sets : Sets} {set : String}

theorem Effect.isMember_setsAfter (keeps : backend.Keeps IsMember) (effect : Effect)
    {member : Ip} (inSet : IsMember sets set member) :
    IsMember (effect.setsAfter backend setNames sets) set member := by
  cases effect with
  | record name address => exact inSet
  | add index address =>
      rw [Effect.setsAfter]
      cases setNames[index]? with
      | none => exact inSet
      | some named => exact keeps.kept _ _ _ _ _ inSet

/-- An addition that succeeds makes the member that was offered. -/
theorem Effect.isMember_of_offered (keeps : backend.Keeps IsMember) {effect : Effect}
    {address : Ipv4}
    (offered : effect.event? backend setNames map sets = some (.offered set address true)) :
    IsMember (effect.setsAfter backend setNames sets) set (.v4 address) := by
  cases effect with
  | record name given => cases offered
  | add index given =>
      obtain ⟨named, found, same⟩ := Option.map_eq_some_iff.mp offered
      injection same with sameSet sameAddress succeeded
      subst sameSet sameAddress
      rw [Effect.setsAfter, found]
      apply keeps.added
      cases outcome : (backend.add named (.v4 given) sets).1 with
      | error cause =>
          rw [outcome] at succeeded
          cases succeeded
      | ok done => rfl

theorem isMember_setsAfter (keeps : backend.Keeps IsMember) (effects : List Effect)
    {member : Ip} (inSet : IsMember sets set member) :
    IsMember (setsAfter backend setNames effects sets) set member := by
  induction effects generalizing sets with
  | nil => exact inSet
  | cons effect rest inductionHypothesis =>
      exact inductionHypothesis (effect.isMember_setsAfter keeps inSet)

/-- Whatever was added without failure is a member when all effects have happened. -/
theorem isMember_of_offered (keeps : backend.Keeps IsMember) (effects : List Effect)
    {address : Ipv4}
    (offered : .offered set address true ∈ events backend setNames effects map sets) :
    IsMember (setsAfter backend setNames effects sets) set (.v4 address) := by
  induction effects generalizing map sets with
  | nil => cases offered
  | cons effect rest inductionHypothesis =>
      rcases List.mem_append.mp offered with here | later
      · exact isMember_setsAfter keeps rest
          (Effect.isMember_of_offered keeps (Option.mem_toList.mp here))
      · exact inductionHypothesis later

end Members

/-- An addition that the backend saw succeed was offered. -/
theorem offered_of_note {happened : List Event} {set : String} {address : Ipv4}
    (noted : ⟨.add set (.v4 address), true⟩ ∈ happened.filterMap Event.note?) :
    .offered set address true ∈ happened := by
  obtain ⟨event, held, seen⟩ := List.mem_filterMap.mp noted
  cases event with
  | recorded name text new => cases seen
  | offered other given succeeded =>
      cases seen
      exact held

/-! ### Resolutions -/

/--
Whoever learns an address of a name that belongs to a class learns it after it was offered to the
set of the class. If no addition failed, the address is a member of the set and known for the
name.
-/
theorem resolve_offers (keeps : backend.Keeps IsMember) (routing : Routing)
    (transport : Transport Network) (request : Request) (state : Network × Knowledge Sets)
    (index : Nat) (set : String) (reply : Octets)
    (routed : routing.patterns.classify (questionName request.message) = .proxied index)
    (named : routing.setNames[index]? = some set)
    (resolved : (resolve routing transport backend request state).1 = some reply) :
    ∃ message, Message.decode? reply = some message ∧
      ∀ record ∈ message.answers, ∀ address, record.data = .ipv4 address →
        (∃ succeeded, ⟨.add set (.v4 address), succeeded⟩ ∈
          resolutionNotes routing transport backend request state) ∧
        ((∀ other member, ⟨.add other member, false⟩ ∉
            resolutionNotes routing transport backend request state) →
          IsMember (resolve routing transport backend request state).2.2.sets set
              (.v4 address) ∧
            (resolve routing transport backend request state).2.2.map.knows
              (questionName request.message) (Ip.v4 address).text = true) := by
  obtain ⟨message, decoded, ⟨_, none, _⟩ | ⟨answer, answered, part, _, _⟩⟩ :=
    reply_cases resolved
  · refine ⟨message, decoded, ?_⟩
    have noAnswers : message.answers = [] := by
      simp only [Message.records, List.append_eq_nil_iff] at none
      exact none.1.1
    rw [noAnswers]
    intro record impossible
    cases impossible
  · refine ⟨message, decoded, ?_⟩
    intro record found address data
    obtain ⟨source, inAnswers, conveys⟩ := part.exists_answer found
    have sourceData := (conveys.ipv4 address).mp data
    have goesTo : GoesTo routing.patterns (.proxied index) answer.message index address :=
      .inr ⟨rfl, source, inAnswers, sourceData⟩
    have recorded : Effect.record (questionName request.message) address ∈
        effects routing.patterns (.of (questionName request.message) (.proxied index))
          answer.message :=
      record_mem_effects.mpr
        (.inl ⟨(normalizeName_questionName _).symm, source, inAnswers, sourceData⟩)
    have observed : (resolve routing transport backend request state).2.2 =
        (observe backend routing.patterns routing.setNames
          (.of (questionName request.message) (.proxied index)) answer.message state.2).2 := by
      rw [knowledge_of_upstream, answered, routed]
    have seen : resolutionNotes routing transport backend request state =
        callNotes backend routing.patterns routing.setNames
          (.of (questionName request.message) (.proxied index)) answer.message state.2 := by
      rw [resolutionNotes_eq, answered, routed]
    rw [seen, observed, observe_eq]
    obtain ⟨⟨_, succeeded⟩, noted, called⟩ :=
      List.mem_map.mp (mem_calls.mpr ⟨index, address, set, goesTo, named, rfl⟩)
    cases called
    refine ⟨⟨succeeded, noted⟩, ?_⟩
    intro noFailure
    constructor
    · cases succeeded with
      | false => exact absurd noted (noFailure _ _)
      | true =>
          rw [callNotes_eq] at noted
          exact isMember_of_offered keeps _ (offered_of_note noted)
    · refine knows_mapAfter.mpr (.inr ⟨_, address, recorded, ?_⟩)
      rw [normalizeName_questionName]
      exact ⟨questionName_ne_empty routed, rfl, rfl⟩

/-- A routing with one class, for names with three letters A in a row. -/
def Routing.single : Routing :=
  { Routing.plain with
    patterns := ⟨[⟨"proxied", "proxied.txt", ["aaa"]⟩]⟩
    setNames := ["firewall"] }

/-- A query for the addresses of a name of that class. -/
def addressRequest : Request :=
  { anyRequest with message := { anyRequest.message with questions := [⟨longOwner, 1, 1⟩] } }

theorem resolve_offers_bulky :
    ∃ raw reply message, (bulky [1]).encode? = some raw ∧
      (resolve .single (onStream raw) Memory.backend addressRequest ((), .fresh)).1 =
        some reply ∧
      Message.decode? reply = some message ∧ hostRecord 1 ∈ message.answers ∧
      (resolve .single (onStream raw) Memory.backend addressRequest ((), .fresh)).2.2.sets.IsMember
        "firewall" (.v4 ⟨192, 0, 2, 1⟩) ∧
      (resolve .single (onStream raw) Memory.backend addressRequest ((), .fresh)).2.2.map.knows
        "aaaaaaaaaaaaaaaaaaaaaaaa" "192.0.2.1" = true := by
  have fits : (bulky [1]).reach ≤ Wire.maxMessage := by decide +kernel
  have strippedFits : (bulky [1]).stripped.reach ≤ Wire.maxMessage := by decide +kernel
  obtain ⟨raw, encoded⟩ := exists_encode?_of_reach fits
  obtain ⟨reply, written⟩ := exists_encode?_of_reach strippedFits
  have decoded := decode?_bulky (by simp) fits encoded
  have resolved := resolve_onStream decoded rfl written .single Memory.backend addressRequest .fresh
  have decodedReply := decode?_stripped_bulky (by simp) strippedFits written
  obtain ⟨message, same, offered⟩ := resolve_offers Memory.keeps_memory .single (onStream raw)
    addressRequest ((), .fresh) 0 "firewall" reply (by decide +kernel) rfl resolved
  have told : hostRecord 1 ∈ message.answers := by
    rw [decodedReply, Option.some.injEq] at same
    rw [← same]
    decide +kernel
  have noFailure : ∀ other member, ⟨.add other member, false⟩ ∉
      resolutionNotes .single (onStream raw) Memory.backend addressRequest ((), .fresh) := by
    have succeeded : ∀ note ∈ callNotes Memory.backend Routing.single.patterns
        Routing.single.setNames
        (.of (questionName addressRequest.message)
          (Routing.single.patterns.classify (questionName addressRequest.message)))
        (bulky [1]) .fresh, note.succeeded = true := by
      decide +kernel
    rw [resolutionNotes_eq, upstream_onStream decoded]
    intro other member failed
    exact Bool.false_ne_true (succeeded _ failed)
  obtain ⟨_, learned⟩ := offered _ told _ rfl
  obtain ⟨member, known⟩ := learned noFailure
  exact ⟨raw, reply, message, encoded, resolved, same, told, member, known⟩

end SplitDns.Query
