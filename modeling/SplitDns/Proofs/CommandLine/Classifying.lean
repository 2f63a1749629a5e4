import SplitDns.CommandLine.Execute
import SplitDns.Proofs.Query.Consulting
import SplitDns.Proofs.Query.Sharing

/-!
# Names that are classified beforehand

The command that tells where a name is routed and the proxy that routes it start from one
configuration and the same pattern files. The command looks the written form of a name up and
prints the settings of its class; the proxy looks up a name from the wire and uses lists that were
read from these settings before. `classify_tells` says that they come to the same.
-/

namespace SplitDns.Query

open SplitDns.Address
open SplitDns.AddressSet
open SplitDns.Dns
open SplitDns.Exchange
open SplitDns.Listener

variable {Network Sets : Type}

/-! ### Queries for one name -/

/-- The calls of the backend while a query is resolved, in order. -/
def resolutionCalls (routing : Routing) (transport : Transport Network) (backend : Backend Sets)
    (request : Request) (state : Network × Knowledge Sets) : List AddressSet.Call :=
  (resolutionNotes routing transport backend request state).map CallNote.call

namespace Routing

/-- The calls of the backend when a response comes to a query for a name. -/
def callsOn (routing : Routing) (backend : Backend Sets) (name : Name) (response : Message)
    (knowledge : Knowledge Sets) : List AddressSet.Call :=
  responseCalls backend routing.patterns routing.setNames name.key
    (routing.patterns.classify name.key) response knowledge

/--
Every query for a name is put to this resolver, in all its exchanges, and the backend is called for
the response alone.
-/
def Entrusts (routing : Routing) (name : Name) (resolver : Socket) : Prop :=
  ∀ (Network Sets : Type) (transport : Transport Network) (backend : Backend Sets)
    (request : Request) (state : Network × Knowledge Sets),
    request.message.questions.head?.map Question.name = some name →
    ∃ course answer, Forwards resolver request.raw course answer ∧
      (∀ notes, resolve routing transport.noting backend request ((state.1, notes), state.2) =
        ((resolve routing transport backend request state).1,
          ((resolve routing transport backend request state).2.1, notes ++ course),
          (resolve routing transport backend request state).2.2)) ∧
      resolutionCalls routing transport backend request state =
        match answer with
        | .error _ => []
        | .ok answer => routing.callsOn backend name answer.message state.2

/-- Every address that answers a query for a name is offered to this set. -/
def Offers (routing : Routing) (name : Name) (set : String) : Prop :=
  ∀ (Sets : Type) (backend : Backend Sets) (response : Message) (knowledge : Knowledge Sets),
    ∀ record ∈ response.answers, ∀ address, record.data = .ipv4 address →
      .add set (.v4 address) ∈ routing.callsOn backend name response knowledge

end Routing

/-- The record holds an IPv4 address of this name. -/
def isAddressOf (name : Name) (record : Record) : Bool :=
  record.owner.key == name.key && (ipv4? record).isSome

/--
Addresses of a name lead to no call when they answer a query for it: without them the calls are the
same, and with nothing else there are none.
-/
def Routing.Spares (routing : Routing) (name : Name) : Prop :=
  ∀ (Sets : Type) (backend : Backend Sets) (response : Message) (knowledge : Knowledge Sets),
    routing.callsOn backend name (response.filterRecords fun record => !isAddressOf name record)
        knowledge = routing.callsOn backend name response knowledge ∧
      routing.callsOn backend name (response.filterRecords (isAddressOf name)) knowledge = []

/-! ### Calls and what they are made for -/

section Calls

variable {backend : Backend Sets} {patterns : Pattern.Store} {setNames : List String}
  {name : String} {route : Route} {response other : Message} {knowledge : Knowledge Sets}

/-- Calls are made for the classes of addresses as they first occur. -/
theorem exists_offers :
    ∃ pairs, IsFirstOccurrences (occurrences patterns route response) pairs ∧
      responseCalls backend patterns setNames name route response knowledge =
        pairs.filterMap (offer? setNames) :=
  ⟨_, additions_effects patterns (.of name route) response, responseCalls_eq ..⟩

theorem responseCalls_congr
    (same : occurrences patterns route response = occurrences patterns route other) :
    responseCalls backend patterns setNames name route response knowledge =
      responseCalls backend patterns setNames name route other knowledge := by
  obtain ⟨pairs, first, calls⟩ := exists_offers
  obtain ⟨others, second, otherCalls⟩ := exists_offers
  rw [← same] at second
  rw [calls, otherCalls, first.unique second]

/-- An address of a name without class does not count in a query without class. -/
theorem attributed_eq_nil {record : Record}
    (direct : patterns.classify record.owner.key = .direct) :
    attributed [patterns.classify record.owner.key, .direct] record = [] ∧
      attributed [patterns.classify record.owner.key] record = [] := by
  rw [direct, attributed, attributed]
  cases ipv4? record <;> exact ⟨rfl, rfl⟩

theorem flatMap_filter {Item Result : Type} {items : List Item} {keep : Item → Bool}
    {results : Item → List Result} (none : ∀ item, keep item = false → results item = []) :
    (items.filter keep).flatMap results = items.flatMap results := by
  induction items with
  | nil => rfl
  | cons item rest inductionHypothesis =>
      cases kept : keep item with
      | true =>
          rw [List.filter_cons_of_pos kept, List.flatMap_cons, List.flatMap_cons,
            inductionHypothesis]
      | false =>
          rw [List.filter_cons_of_neg (by simp [kept]), List.flatMap_cons, none item kept,
            inductionHypothesis, List.nil_append]

theorem records_filterRecords (keep : Record → Bool) (message : Message) :
    (message.filterRecords keep).records = message.records.filter keep := by
  simp only [Message.records, Message.filterRecords, List.filter_append]

theorem occurrences_filterRecords {keep : Record → Bool}
    (direct : ∀ record, keep record = false → patterns.classify record.owner.key = .direct) :
    occurrences patterns .direct (response.filterRecords keep) =
      occurrences patterns .direct response := by
  have none := fun record lost => attributed_eq_nil (direct record lost)
  simp only [occurrences, Message.filterRecords, ← List.filter_append]
  rw [flatMap_filter fun record lost => (none record lost).1,
    flatMap_filter fun record lost => (none record lost).2]

end Calls

section Routing

variable {routing : Routing} {name : Name} {index : Nat}

theorem resolutionCalls_eq (routing : Routing) (transport : Transport Network)
    (backend : Backend Sets) (request : Request) (state : Network × Knowledge Sets) :
    resolutionCalls routing transport backend request state =
      match upstream routing transport request state.1 with
      | .error _ => []
      | .ok answer =>
          responseCalls backend routing.patterns routing.setNames (questionName request.message)
            (routing.patterns.classify (questionName request.message)) answer.message state.2 := by
  rw [resolutionCalls, resolutionNotes_eq]
  cases upstream routing transport request state.1 <;> rfl

theorem questionName_of_head? {query : Message}
    (asked : query.questions.head?.map Question.name = some name) :
    questionName query = name.key := by
  obtain ⟨question, first, rfl⟩ := Option.map_eq_some_iff.mp asked
  rw [questionName, first]
  rfl

theorem entrusts_resolver (routing : Routing) (name : Name) :
    routing.Entrusts name (routing.resolver (routing.patterns.classify name.key)) := by
  intro Network Sets transport backend request state asked
  obtain ⟨course, forwards, noted⟩ :=
    exists_forwards_resolve routing transport backend request state
  have calls := resolutionCalls_eq routing transport backend request state
  rw [questionName_of_head? asked] at forwards calls
  exact ⟨course, _, forwards, noted, calls⟩

theorem offers_of_classify {set : String}
    (routed : routing.patterns.classify name.key = .proxied index)
    (named : routing.setNames[index]? = some set) : routing.Offers name set := by
  intro Sets backend response knowledge record found address data
  rw [Routing.callsOn, routed]
  exact mem_calls.mpr ⟨index, address, set, .inr ⟨rfl, record, found, data⟩, named, rfl⟩

theorem spares_of_classify (routed : routing.patterns.classify name.key = .direct) :
    routing.Spares name := by
  intro Sets backend response knowledge
  have direct : ∀ record, isAddressOf name record = true →
      routing.patterns.classify record.owner.key = .direct := by
    intro record own
    have owner : record.owner.key = name.key := by
      simpa using (Bool.and_eq_true_iff.mp own).1
    rw [owner, routed]
  rw [Routing.callsOn, Routing.callsOn, Routing.callsOn, routed]
  constructor
  · exact responseCalls_congr
      (occurrences_filterRecords fun record own => direct record (by simpa using own))
  · apply List.eq_nil_iff_forall_not_mem.mpr
    intro call called
    obtain ⟨_, _, _, ⟨record, found, _, owner⟩ | ⟨impossible, _⟩, _⟩ := mem_calls.mp called
    · have own : isAddressOf name record = true := by
        rw [records_filterRecords] at found
        exact (List.mem_filter.mp found).2
      cases (direct record own).symm.trans owner
    · cases impossible

end Routing

end SplitDns.Query

namespace SplitDns.CommandLine

open SplitDns.Address
open SplitDns.Pattern

variable {Network Tool : Type} {host : Host Network Tool} {world : World Network Tool}
variable {config : Config} {name : Dns.Name}

theorem classify_of_class (host : Host Network Tool) {index : Nat} {settings : ClassSettings}
    (routed : (config.patternStore.reload world.outside.files).classify name.key =
      .proxied index)
    (found : config.classes[index]? = some settings) :
    ∃ pattern, classify host world config name.key =
      .done [classifiedLine name.key pattern settings] := by
  rw [Store.classify] at routed
  split at routed
  next same pattern decided =>
    cases routed
    refine ⟨pattern, ?_⟩
    simp only [classify, decided, found]
    rfl
  next => cases routed

theorem classify_of_direct {address : Socket}
    (routed : (config.patternStore.reload world.outside.files).classify name.key = .direct)
    (chosen : config.defaultResolver host.surroundings = .ok address) :
    classify host world config name.key = .done [directLine name.key (.ok address)] := by
  rw [Store.classify] at routed
  split at routed
  next => cases routed
  next undecided => simp only [classify, undecided, chosen]

/--
For every name from the wire the command names a class, and then the proxy puts queries for the name
to the resolver of that class and offers every address that answers them to its set; or the command
names the resolver for names without class, and then the proxy puts them to this one and makes no
call for addresses of the name.
-/
theorem classify_tells (host : Host Network Tool) (world : World Network Tool)
    (checked : config.check = .ok ()) {engine : Engine}
    (built : Engine.new config host.surroundings = .ok engine) (name : Dns.Name) :
    ∃ routing, engine.routing world.outside.files = .ok routing ∧
      ((∃ settings ∈ config.classes, ∃ pattern address,
          classify host world config name.key =
            .done [classifiedLine name.key pattern settings] ∧
          parseResolver settings.resolver = .ok address ∧
          routing.Entrusts name address ∧ routing.Offers name settings.set) ∨
        ∃ address,
          classify host world config name.key = .done [directLine name.key (.ok address)] ∧
          routing.Entrusts name address ∧ routing.Spares name) := by
  obtain ⟨routing, started, wires⟩ :=
    Config.exists_routing_of_check checked built world.outside.files
  obtain ⟨address, chosen, rfl⟩ := Config.exists_defaultResolver_of_check checked built
  have entrusts := Query.entrusts_resolver routing name
  have wired := wires routing routing.reaches_refl name.key
  -- The proxy has loaded the patterns that the command loads.
  have loaded : routing.patterns = config.patternStore.reload world.outside.files ∧
      routing.defaultResolver = address := by
    obtain ⟨_, rfl⟩ := Engine.exists_resolvers_of_routing started
    exact ⟨rfl, rfl⟩
  refine ⟨routing, started, ?_⟩
  cases routed : routing.patterns.classify name.key with
  | direct =>
      have spares := Query.spares_of_classify routed
      have resolver : routing.resolver .direct = address := loaded.2
      rw [routed, resolver] at entrusts
      rw [loaded.1] at routed
      exact .inr ⟨address, classify_of_direct routed chosen, entrusts, spares⟩
  | proxied index =>
      obtain ⟨settings, address, found, read, _, resolver, set⟩ := wired index routed
      have offers := Query.offers_of_classify routed set
      rw [routed, resolver] at entrusts
      rw [loaded.1] at routed
      obtain ⟨pattern, told⟩ := classify_of_class host routed found
      exact .inl ⟨settings, List.mem_of_getElem? found, pattern, address, told,
        eq_ok_of_mapError read, entrusts, offers⟩

/-- A host whose set tool always succeeds, and whose resolvers never answer. -/
def silentHost : Host Unit Unit :=
  ⟨fun _ _ _ tool => (.ok ⟨.code 0, [], []⟩, tool), Query.onStream [], ⟨none, none⟩⟩

/-- The pattern files of `twoSets`, and nothing else. -/
def twoWorld : World Unit Unit :=
  ⟨⟨Query.twoFiles, .empty, (), [], ""⟩, (), []⟩

/-- A name of the second class. -/
theorem classify_tells_proxied :
    let config := Query.twoSets "screen" "firewall"
    config.check = .ok () ∧
      (classify silentHost twoWorld config Query.longOwner.key).printed =
        ["aaaaaaaaaaaaaaaaaaaaaaaa -> class proxied (pattern 'aaa'), " ++
          "upstream 192.0.2.54, set firewall"] ∧
      ∃ engine routing, Engine.new config silentHost.surroundings = .ok engine ∧
        engine.routing twoWorld.outside.files = .ok routing ∧
        ((∃ settings ∈ config.classes, ∃ pattern address,
            classify silentHost twoWorld config Query.longOwner.key =
              .done [classifiedLine Query.longOwner.key pattern settings] ∧
            parseResolver settings.resolver = .ok address ∧
            routing.Entrusts Query.longOwner address ∧
            routing.Offers Query.longOwner settings.set) ∨
          ∃ address,
            classify silentHost twoWorld config Query.longOwner.key =
              .done [directLine Query.longOwner.key (.ok address)] ∧
            routing.Entrusts Query.longOwner address ∧ routing.Spares Query.longOwner) := by
  intro config
  have checked : config.check = .ok () := by
    decide +kernel
  obtain ⟨engine, _, built, _⟩ :=
    Query.exists_started checked rfl silentHost.surroundings twoWorld.outside.files
  obtain ⟨routing, started, told⟩ :=
    classify_tells silentHost twoWorld checked built Query.longOwner
  exact ⟨checked, by decide +kernel, engine, routing, built, started, told⟩

end SplitDns.CommandLine
