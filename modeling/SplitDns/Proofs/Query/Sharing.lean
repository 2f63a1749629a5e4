import Mathlib.Data.List.Nodup
import Mathlib.Data.List.Pairwise
import SplitDns.Proofs.Config.Accepting
import SplitDns.Proofs.Query.Attribution

/-!
# Classes that share a set

While a response is observed, additions are told apart by class and address. Nothing keeps two
classes from having one set, so an address that goes to both is added to it twice.
`additions_once_iff` says that this is the only way in which that happens.
-/

namespace SplitDns.Query

open SplitDns.Address
open SplitDns.AddressSet
open SplitDns.Dns

variable {Sets : Type}

/-- Some address of a response goes to two classes that have the same set. -/
def GoesTwice (patterns : Pattern.Store) (setNames : List String) (route : Route)
    (response : Message) : Prop :=
  ∃ first second address set, first ≠ second ∧
    setNames[first]? = some set ∧ setNames[second]? = some set ∧
    GoesTo patterns route response first address ∧ GoesTo patterns route response second address

/-! ### Additions of different classes -/

section Offers

variable {setNames : List String} {pairs : List (Nat × Ipv4)}

/-- Two pairs of class and address do not come to the same addition. -/
def Apart (setNames : List String) (one other : Nat × Ipv4) : Prop :=
  ∀ call, offer? setNames one = some call → ∀ same, offer? setNames other = some same → call ≠ same

theorem symm_apart (setNames : List String) : Std.Symm (Apart setNames) where
  symm _ _ apart call otherOffers same oneOffers equal :=
    apart same oneOffers call otherOffers equal.symm

theorem nodup_offers_iff (distinct : pairs.Nodup) :
    (pairs.filterMap (offer? setNames)).Nodup ↔
      ∀ one ∈ pairs, ∀ other ∈ pairs, one ≠ other → Apart setNames one other := by
  have offers : (pairs.filterMap (offer? setNames)).Nodup ↔ pairs.Pairwise (Apart setNames) :=
    List.pairwise_filterMap
  have symmetric := symm_apart setNames
  rw [offers]
  constructor
  · intro apart one oneHeld other otherHeld different
    exact apart.forall oneHeld otherHeld different
  · intro apart
    exact distinct.pairwise_of_forall_ne apart

/-- Different classes are apart unless they have one set and are given one address. -/
theorem apart_iff {one other : Nat} {address second : Ipv4} :
    Apart setNames (one, address) (other, second) ↔
      ∀ set, setNames[one]? = some set → setNames[other]? = some set → address ≠ second := by
  constructor
  · rintro apart set oneHas otherHas rfl
    have oneOffers : offer? setNames (one, address) = some (.add set (.v4 address)) :=
      offer?_eq_some_iff.mpr ⟨set, oneHas, rfl⟩
    have otherOffers : offer? setNames (other, address) = some (.add set (.v4 address)) :=
      offer?_eq_some_iff.mpr ⟨set, otherHas, rfl⟩
    exact apart _ oneOffers _ otherOffers rfl
  · rintro different call oneOffers _ otherOffers rfl
    obtain ⟨set, oneHas, rfl⟩ := offer?_eq_some_iff.mp oneOffers
    obtain ⟨same, otherHas, equal⟩ := offer?_eq_some_iff.mp otherOffers
    cases equal
    exact different set oneHas otherHas rfl

end Offers

/-! ### Calls for a response -/

/-- The calls of a backend while a response is observed. -/
def responseCalls (backend : Backend Sets) (patterns : Pattern.Store) (setNames : List String)
    (name : String) (route : Route) (response : Message) (knowledge : Knowledge Sets) :
    List Call :=
  (callNotes backend patterns setNames (.of name route) response knowledge).map CallNote.call

section Calls

variable (backend : Backend Sets) (patterns : Pattern.Store) (setNames : List String)
  (name : String) (route : Route) (response : Message) (knowledge : Knowledge Sets)

theorem responseCalls_eq :
    responseCalls backend patterns setNames name route response knowledge =
      ((effects patterns (.of name route) response).filterMap Effect.addition?).filterMap
        (offer? setNames) := by
  rw [responseCalls, callNotes_eq, calls_events]

theorem nodup_responseCalls_iff :
    (responseCalls backend patterns setNames name route response knowledge).Nodup ↔
      ¬ GoesTwice patterns setNames route response := by
  have first : IsFirstOccurrences (occurrences patterns route response) _ :=
    additions_effects patterns (.of name route) response
  have members {index : Nat} {address : Ipv4} := (first.mem_iff (index, address)).trans
    mem_occurrences
  rw [responseCalls_eq, nodup_offers_iff first.nodup]
  constructor
  · rintro apart ⟨one, other, address, set, different, oneHas, otherHas, goesToOne, goesToOther⟩
    have pairs : (one, address) ≠ (other, address) := by
      intro equal
      exact different (Prod.mk.inj equal).1
    have addresses := apart_iff.mp
      (apart _ (members.mpr goesToOne) _ (members.mpr goesToOther) pairs)
    exact addresses set oneHas otherHas rfl
  · rintro once ⟨one, address⟩ oneHeld ⟨other, second⟩ otherHeld pairs
    apply apart_iff.mpr
    rintro set oneHas otherHas rfl
    have different : one ≠ other := by
      rintro rfl
      exact pairs rfl
    exact once ⟨one, other, address, set, different, oneHas, otherHas, members.mp oneHeld,
      members.mp otherHeld⟩

/-- All calls are additions, so it is enough to count these. -/
theorem count_responseCalls_le_iff :
    (∀ set address, (responseCalls backend patterns setNames name route response knowledge).count
        (.add set address) ≤ 1) ↔
      ¬ GoesTwice patterns setNames route response := by
  rw [← nodup_responseCalls_iff backend patterns setNames name route response knowledge,
    List.nodup_iff_count_le_one, responseCalls_eq]
  constructor
  · intro counts call
    by_cases called : call ∈
        ((effects patterns (.of name route) response).filterMap Effect.addition?).filterMap
          (offer? setNames)
    · obtain ⟨⟨index, address⟩, _, offered⟩ := List.mem_filterMap.mp called
      obtain ⟨set, _, rfl⟩ := offer?_eq_some_iff.mp offered
      exact counts set (.v4 address)
    · rw [List.count_eq_zero_of_not_mem called]
      exact Nat.zero_le 1
  · exact fun counts set address => counts (.add set address)

end Calls

/-- Where all sets differ no address goes to one twice. -/
theorem not_goesTwice_of_nodup {patterns : Pattern.Store} {setNames : List String} {route : Route}
    {response : Message} (distinct : setNames.Nodup) :
    ¬ GoesTwice patterns setNames route response := by
  rintro ⟨one, other, _, set, different, oneHas, otherHas, _⟩
  obtain ⟨oneInside, oneSet⟩ := List.getElem?_eq_some_iff.mp oneHas
  obtain ⟨otherInside, otherSet⟩ := List.getElem?_eq_some_iff.mp otherHas
  exact different (distinct.getElem_inj_iff.mp (oneSet.trans otherSet.symm))

/-- However pattern files change, the sets are those of the configuration. -/
theorem setNames_of_routing {engine : Engine} {files : Files.Store} {routing next : Routing}
    (started : engine.routing files = .ok routing) (reached : routing.Reaches next) :
    next.setNames = engine.config.setNames := by
  obtain ⟨readings, rfl⟩ := reached
  obtain ⟨resolvers, rfl⟩ := Engine.exists_resolvers_of_routing started
  rfl

/--
While a response is observed, no address is added to a set twice, exactly if it does not go to two
classes that have the set. The check of a configuration lets such classes pass; where all sets
differ there are none.
-/
theorem additions_once_iff {config : Config} (checked : config.check = .ok ())
    {surroundings : Surroundings} {engine : Engine}
    (built : Engine.new config surroundings = .ok engine) {files : Files.Store} {routing : Routing}
    (started : engine.routing files = .ok routing) {next : Routing} (reached : routing.Reaches next)
    (backend : Backend Sets) (name : String) (route : Route) (response : Message)
    (knowledge : Knowledge Sets) :
    ((∀ set address, (responseCalls backend next.patterns next.setNames name route response
        knowledge).count (.add set address) ≤ 1) ↔
      ¬ GoesTwice next.patterns config.setNames route response) ∧
    (config.setNames.Nodup → ∀ set address, (responseCalls backend next.patterns next.setNames name
      route response knowledge).count (.add set address) ≤ 1) := by
  have sets : next.setNames = config.setNames := by
    rw [setNames_of_routing started reached, Config.config_eq_of_check checked built]
  have once := count_responseCalls_le_iff backend next.patterns next.setNames name route response
    knowledge
  rw [sets] at once ⊢
  constructor
  · exact once
  · intro distinct
    exact once.mpr (not_goesTwice_of_nodup distinct)

/-- The classes of `twoClasses`, with two sets. -/
def twoSets (first second : String) : Config :=
  { Config.default with
    server := ⟨"10.200.0.5:53", some "192.0.2.1", 30⟩
    classes := [⟨"video", "video.txt", "192.0.2.53", first⟩,
      ⟨"proxied", "proxied.txt", "192.0.2.54", second⟩] }

def twoFiles : Files.Store :=
  .ofList [("video.txt", .file (Text.utf8 "vid\n")), ("proxied.txt", .file (Text.utf8 "aaa\n"))]

theorem exists_started {config : Config} (checked : config.check = .ok ()) {text : String}
    (configured : config.server.resolver = some text) (surroundings : Surroundings)
    (files : Files.Store) :
    ∃ engine routing, Engine.new config surroundings = .ok engine ∧
      engine.routing files = .ok routing ∧ routing.patterns = config.patternStore.reload files ∧
      routing.setNames = config.setNames := by
  obtain ⟨address, read⟩ :=
    (Config.checkServer_eq_ok (Config.check_eq_ok checked).1).2 text configured
  have chosen : config.defaultResolver surroundings = .ok address := by
    rw [Config.defaultResolver, configured]
    exact Config.chooseDefaultResolver_of_parseResolver read surroundings
  have built : Engine.new config surroundings = .ok ⟨config, address, false⟩ := by
    rw [Config.engine_eq_of_check checked, chosen]
    rfl
  obtain ⟨routing, started, _⟩ := Config.exists_routing_of_check checked built files
  obtain ⟨resolvers, rfl⟩ := Engine.exists_resolvers_of_routing started
  exact ⟨_, _, built, started, rfl, rfl⟩

/-- With two sets the address of the alias is added to each once. -/
theorem additions_once_apart :
    ∃ engine routing, (twoSets "screen" "firewall").check = .ok () ∧
      Engine.new (twoSets "screen" "firewall") ⟨none, none⟩ = .ok engine ∧
      engine.routing twoFiles = .ok routing ∧
      ∀ set address, (responseCalls Memory.backend routing.patterns routing.setNames "aaa.example"
        (.proxied 1) aliased .fresh).count (.add set address) ≤ 1 := by
  have checked : (twoSets "screen" "firewall").check = .ok () := by
    decide +kernel
  obtain ⟨engine, routing, built, started, _⟩ := exists_started checked rfl ⟨none, none⟩ twoFiles
  have once := additions_once_iff checked built started routing.reaches_refl Memory.backend
    "aaa.example" (.proxied 1) aliased .fresh
  exact ⟨engine, routing, checked, built, started, once.2 (by decide)⟩

/-- With one set it is added to this twice. -/
theorem one_set_twice :
    ∃ engine routing, (twoSets "firewall" "firewall").check = .ok () ∧
      Engine.new (twoSets "firewall" "firewall") ⟨none, none⟩ = .ok engine ∧
      engine.routing twoFiles = .ok routing ∧
      (responseCalls Memory.backend routing.patterns routing.setNames "aaa.example" (.proxied 1)
        aliased .fresh).count (.add "firewall" (.v4 ⟨192, 0, 2, 1⟩)) = 2 := by
  have checked : (twoSets "firewall" "firewall").check = .ok () := by
    decide +kernel
  obtain ⟨engine, routing, built, started, patterns, sets⟩ :=
    exists_started checked rfl ⟨none, none⟩ twoFiles
  refine ⟨engine, routing, checked, built, started, ?_⟩
  rw [patterns, sets]
  decide +kernel

end SplitDns.Query
