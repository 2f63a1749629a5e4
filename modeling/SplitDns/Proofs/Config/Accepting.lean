import Mathlib.Data.List.Nodup
import SplitDns.Engine.Session
import SplitDns.Proofs.Outcome
import SplitDns.Proofs.Pattern.Rereading

/-!
# What an accepted configuration promises

A configuration that keeps the rules can be used without a further failure: every address in it can
be read when it is needed, and every class is found by its name, has its own resolver and its own
set, whatever its pattern file holds by then.
-/

namespace SplitDns

open SplitDns.Address
open SplitDns.AddressSet
open SplitDns.Pattern
open SplitDns.Text

theorem eq_true_of_demand {condition : Bool} {cause : ConfigError}
    (met : demand condition cause = .ok ()) : condition = true := by
  unfold demand at met
  split at met
  next holds => exact holds
  next => cases met

namespace Config

variable {config : Config} {settings : ClassSettings} {name : String}

/-! ### The rules -/

theorem checkClass_eq_ok (checked : checkClass settings = .ok ()) :
    isReserved (trim settings.name.toList) = false ∧
      (∃ address, parseResolver settings.resolver = .ok address) ∧
      checkName settings.set = .ok () := by
  unfold checkClass at checked
  obtain ⟨_, _, checked⟩ := exists_of_bind_eq_ok checked
  obtain ⟨_, unreserved, checked⟩ := exists_of_bind_eq_ok checked
  obtain ⟨_, _, checked⟩ := exists_of_bind_eq_ok checked
  obtain ⟨address, read, checked⟩ := exists_of_bind_eq_ok checked
  refine ⟨?_, ⟨address, eq_ok_of_mapError read⟩, eq_ok_of_mapError checked⟩
  simpa using eq_true_of_demand unreserved

theorem checkClasses_eq_ok {seen : List String} {classes : List ClassSettings}
    (checked : checkClasses seen classes = .ok ()) :
    (∀ settings ∈ classes, checkClass settings = .ok () ∧ settings.name ∉ seen) ∧
      (classes.map ClassSettings.name).Nodup := by
  induction classes generalizing seen with
  | nil => exact ⟨by simp, List.nodup_nil⟩
  | cons first rest inductionHypothesis =>
      unfold checkClasses at checked
      obtain ⟨_, checkedFirst, checked⟩ := exists_of_bind_eq_ok checked
      obtain ⟨_, isNew, checked⟩ := exists_of_bind_eq_ok checked
      obtain ⟨checkedRest, distinct⟩ := inductionHypothesis checked
      have fresh : first.name ∉ seen := by simpa using eq_true_of_demand isNew
      refine ⟨?_, List.nodup_cons.mpr ⟨?_, distinct⟩⟩
      · intro settings found
        rcases List.mem_cons.mp found with rfl | inRest
        · exact ⟨checkedFirst, fresh⟩
        · obtain ⟨kept, unseen⟩ := checkedRest settings inRest
          exact ⟨kept, fun inSeen => unseen (List.mem_cons_of_mem _ inSeen)⟩
      · intro again
        obtain ⟨settings, inRest, same⟩ := List.mem_map.mp again
        obtain ⟨_, unseen⟩ := checkedRest settings inRest
        exact unseen (same ▸ List.mem_cons_self)

theorem checkServer_eq_ok (checked : config.checkServer = .ok ()) :
    (∃ address, config.listenAddress = .ok address) ∧
      ∀ text, config.server.resolver = some text →
        ∃ address, parseResolver text = .ok address := by
  unfold checkServer at checked
  obtain ⟨listens, read, checked⟩ := exists_of_bind_eq_ok checked
  refine ⟨⟨listens, read⟩, ?_⟩
  intro text configured
  rw [configured] at checked
  obtain ⟨address, read, _⟩ := exists_of_bind_eq_ok checked
  exact ⟨address, eq_ok_of_mapError read⟩

theorem check_eq_ok (checked : config.check = .ok ()) :
    config.checkServer = .ok () ∧ checkClasses [] config.classes = .ok () := by
  unfold check at checked
  obtain ⟨_, server, checked⟩ := exists_of_bind_eq_ok checked
  obtain ⟨_, _, checked⟩ := exists_of_bind_eq_ok checked
  obtain ⟨_, _, checked⟩ := exists_of_bind_eq_ok checked
  obtain ⟨_, _, checked⟩ := exists_of_bind_eq_ok checked
  obtain ⟨_, _, checked⟩ := exists_of_bind_eq_ok checked
  exact ⟨server, checked⟩

theorem ne_directName_of_checkClass (checked : checkClass settings = .ok ()) :
    settings.name ≠ Route.directName := by
  obtain ⟨unreserved, _⟩ := checkClass_eq_ok checked
  have reserved : isReserved (trim Route.directName.toList) = true := by decide
  intro same
  rw [same, reserved] at unreserved
  cases unreserved

/-! ### Addresses -/

theorem trim_ne_nil_of_parseResolver {text : String} {address : Socket}
    (read : parseResolver text = .ok address) : trim text.toList ≠ [] := by
  intro empty
  rw [parseResolver, readResolver, empty] at read
  cases read

/-- A resolver that is configured is taken whatever the surroundings say. -/
theorem chooseDefaultResolver_of_parseResolver {text : String} {address : Socket}
    (read : parseResolver text = .ok address) (surroundings : Surroundings) :
    chooseDefaultResolver (some text) surroundings = .ok address := by
  have filled : nonBlank? (some text) = some text := by
    rw [nonBlank?, Option.filter_some, if_pos]
    simpa using trim_ne_nil_of_parseResolver read
  rw [chooseDefaultResolver, resolverSetting?, filled, Option.some_or]
  simp only [read]
  rfl

/-! ### Classes by name and by place -/

theorem findClass_eq_ok_iff (distinct : (config.classes.map ClassSettings.name).Nodup) :
    config.findClass name = .ok settings ↔ settings ∈ config.classes ∧ settings.name = name := by
  have sound {found : ClassSettings} (hit : config.classes.find? (·.name == name) = some found) :
      found ∈ config.classes ∧ found.name = name :=
    ⟨List.mem_of_find?_eq_some hit, by simpa using List.find?_some hit⟩
  unfold findClass
  constructor
  · intro done
    split at done
    next found hit =>
      cases done
      exact sound hit
    next => cases done
  · rintro ⟨inClasses, named⟩
    split
    next found hit =>
      obtain ⟨foundInClasses, foundNamed⟩ := sound hit
      rw [List.inj_on_of_nodup_map distinct foundInClasses inClasses (foundNamed.trans named.symm)]
    next none =>
      have refused := List.find?_eq_none.mp none settings inClasses
      rw [named] at refused
      exact absurd (beq_self_eq_true name) refused

end Config

namespace Pattern.Store

variable {store : Store} {name : String} {index : Nat}

theorem className_eq (store : Store) (index : Nat) :
    store.className (.proxied index) =
      ((store.classes.map Class.name)[index]?).getD Route.directName := by
  rw [className, List.getElem?_map]
  cases store.classes[index]? <;> rfl

theorem classIndex?_eq (store : Store) (name : String) :
    store.classIndex? name = (store.classes.map Class.name).findIdx? (· == name) := by
  rw [classIndex?, List.findIdx?_map]
  rfl

/-- Where all names differ, a name leads back to its class. -/
theorem classIndex?_className (distinct : (store.classes.map Class.name).Nodup)
    (inside : index < store.classes.length) :
    store.classIndex? (store.className (.proxied index)) = some index := by
  have inNames : index < (store.classes.map Class.name).length := by simpa using inside
  rw [classIndex?_eq, className_eq, List.getElem?_eq_getElem inNames, Option.getD_some,
    List.findIdx?_eq_some_iff_getElem]
  refine ⟨inNames, beq_self_eq_true _, ?_⟩
  intro earlier before same
  have equal : earlier = index := distinct.getElem_inj_iff.mp (eq_of_beq same)
  exact absurd before (equal ▸ Nat.lt_irrefl index)

end Pattern.Store

/-! ### Routing while the engine runs -/

theorem Engine.exists_resolvers_of_routing {engine : Engine} {files : Files.Store}
    {routing : Query.Routing} (started : engine.routing files = .ok routing) :
    ∃ resolvers, routing = ⟨engine.config.patternStore.reload files, engine.config.setNames,
      engine.defaultResolver, resolvers⟩ := by
  obtain ⟨resolvers, _, made⟩ := exists_of_bind_eq_ok started
  cases made
  exact ⟨resolvers, rfl⟩

namespace Query.Routing

variable {routing next final : Routing}

/-- The routing after some pattern files were read again. -/
def Reaches (routing next : Routing) : Prop :=
  ∃ readings, next = { routing with patterns := routing.patterns.rereadAll readings }

theorem reaches_refl (routing : Routing) : routing.Reaches routing :=
  ⟨[], rfl⟩

theorem Reaches.trans (first : routing.Reaches next) (second : next.Reaches final) :
    routing.Reaches final := by
  obtain ⟨readings, rfl⟩ := first
  obtain ⟨later, rfl⟩ := second
  refine ⟨readings ++ later, ?_⟩
  rw [Store.rereadAll, Store.rereadAll, Store.rereadAll, List.foldl_append]

theorem reaches_reload (routing : Routing) (files : Files.Store) :
    routing.Reaches { routing with patterns := routing.patterns.reload files } :=
  ⟨routing.patterns.readings files, by rw [Store.reload_eq_rereadAll]⟩

theorem reaches_advance (routing : Routing) (reloader : Reloader) (deadline : Nat)
    (files : Files.Store) :
    routing.Reaches
      { routing with patterns := (reloader.advance deadline files routing.patterns).1 } := by
  obtain ⟨store, setNames, defaultResolver, classResolvers⟩ := routing
  fun_induction Reloader.advance reloader deadline files store with
  | case1 reloader store due later inductionHypothesis =>
      exact (reaches_reload ⟨store, setNames, defaultResolver, classResolvers⟩ files).trans
        inductionHypothesis
  | case2 reloader store waits => exact reaches_refl _

end Query.Routing

namespace Session

variable {Network Sets : Type}

/-- One event changes the routing by reading pattern files at most. -/
theorem reaches_step [Files.Caller] (engine : Engine) (transport : Exchange.Transport Network)
    (backend : Backend Sets) (session : Session Network Sets) (event : Event) :
    session.routing.Reaches (session.step engine transport backend event).2.routing := by
  cases event with
  | request asked => exact Query.Routing.reaches_refl _
  | pause milliseconds =>
      cases timer : session.reloader with
      | none =>
          simp only [step, pause, timer]
          exact Query.Routing.reaches_refl _
      | some reloader =>
          simp only [step, pause, timer]
          exact Query.Routing.reaches_advance session.routing reloader _ session.files

theorem reaches_steps [Files.Caller] (engine : Engine) (transport : Exchange.Transport Network)
    (backend : Backend Sets) (session : Session Network Sets) (events : List Event) :
    session.routing.Reaches (session.steps engine transport backend events).2.routing := by
  induction events generalizing session with
  | nil => exact Query.Routing.reaches_refl _
  | cons event rest inductionHypothesis =>
      exact (reaches_step engine transport backend session event).trans (inductionHypothesis _)

end Session

namespace Config

open Exchange

/-- In the routing the class at a place has the resolver and the set of its settings. -/
def Wires (config : Config) (routing : Query.Routing) (index : Nat) : Prop :=
  ∃ settings address, config.classes[index]? = some settings ∧
    settings.resolverAddress = .ok address ∧ routing.classResolvers[index]? = some address ∧
    routing.resolver (.proxied index) = address ∧ routing.setNames[index]? = some settings.set

/-- Nothing that is taken from the configuration later on fails or is mixed up. -/
structure Dependable [Files.Caller] (config : Config) : Prop where
  listens : ∃ address, config.listenAddress = .ok address
  resolvers : ∀ settings ∈ config.classes, ∃ address, settings.resolverAddress = .ok address
  sets : ∀ settings ∈ config.classes, checkName settings.set = .ok ()
  defaultResolver : ∀ text, config.server.resolver = some text →
    ∃ address, parseResolver text = .ok address ∧
      ∀ surroundings, config.defaultResolver surroundings = .ok address
  distinct : (config.classes.map ClassSettings.name).Nodup
  findClass : ∀ name settings, config.findClass name = .ok settings ↔
    settings ∈ config.classes ∧ settings.name = name
  /-- In every store of the classes, whatever was read for them. -/
  names : ∀ readings index, index < config.classes.length →
    (config.patternStore.rereadAll readings).classIndex?
      ((config.patternStore.rereadAll readings).className (.proxied index)) = some index ∧
    (config.patternStore.rereadAll readings).className (.proxied index) ≠
      (config.patternStore.rereadAll readings).className .direct
  /-- An engine is built unless there is no resolver for names without class. -/
  engine : ∀ surroundings, Engine.new config surroundings =
    (config.defaultResolver surroundings).map fun address => ⟨config, address, false⟩
  /-- It starts, and every class keeps its own, however pattern files change meanwhile. -/
  routing : ∀ surroundings engine files, Engine.new config surroundings = .ok engine →
    ∃ routing, engine.routing files = .ok routing ∧
      ∀ next, routing.Reaches next → ∀ name index,
        next.patterns.classify name = .proxied index → config.Wires next index
  /-- So it is after all that happens to a running engine. -/
  running : ∀ (Network Sets : Type) surroundings engine (transport : Transport Network)
    (backend : Backend Sets) network outside routing events session,
    Engine.new config surroundings = .ok engine →
    engine.routing outside.files = .ok routing →
    ((engine.start routing backend network outside).steps engine transport backend
      events).2 = session →
    ∀ name index, session.routing.patterns.classify name = .proxied index →
      config.Wires session.routing index

theorem map_name_patternStore (config : Config) :
    config.patternStore.classes.map Class.name = config.classes.map ClassSettings.name := by
  simp [patternStore, Store.new, Function.comp_def]

theorem length_patternStore (config : Config) (readings : List Reading) :
    (config.patternStore.rereadAll readings).classes.length = config.classes.length := by
  rw [Store.length_eq_of_names (Store.names_rereadAll _ readings), patternStore, Store.new,
    List.length_map, List.length_map]

variable {config : Config}

theorem engine_eq_of_check (checked : config.check = .ok ()) (surroundings : Surroundings) :
    Engine.new config surroundings =
      (config.defaultResolver surroundings).map fun address => ⟨config, address, false⟩ := by
  rw [Engine.new, checked]
  cases config.defaultResolver surroundings <;> rfl

theorem exists_defaultResolver_of_check (checked : config.check = .ok ())
    {surroundings : Surroundings} {engine : Engine}
    (built : Engine.new config surroundings = .ok engine) :
    ∃ address, config.defaultResolver surroundings = .ok address ∧
      engine = ⟨config, address, false⟩ := by
  rw [engine_eq_of_check checked] at built
  cases chosen : config.defaultResolver surroundings with
  | error cause =>
      rw [chosen] at built
      cases built
  | ok address =>
      rw [chosen] at built
      cases built
      exact ⟨address, rfl, rfl⟩

theorem config_eq_of_check (checked : config.check = .ok ()) {surroundings : Surroundings}
    {engine : Engine} (built : Engine.new config surroundings = .ok engine) :
    engine.config = config := by
  obtain ⟨_, _, rfl⟩ := exists_defaultResolver_of_check checked built
  rfl

theorem exists_resolverAddress_of_check (checked : config.check = .ok ()) :
    ∀ settings ∈ config.classes, ∃ address, settings.resolverAddress = .ok address := by
  intro settings found
  obtain ⟨checkedClasses, _⟩ := checkClasses_eq_ok (check_eq_ok checked).2
  obtain ⟨_, ⟨address, read⟩, _⟩ := checkClass_eq_ok (checkedClasses settings found).1
  refine ⟨address, ?_⟩
  rw [ClassSettings.resolverAddress, read]
  rfl

/-- The lists of an engine are in step with the classes. -/
theorem exists_routing_of_check (checked : config.check = .ok ()) {surroundings : Surroundings}
    {engine : Engine} (built : Engine.new config surroundings = .ok engine)
    (files : Files.Store) :
    ∃ routing, engine.routing files = .ok routing ∧
      ∀ next, routing.Reaches next → ∀ name index,
        next.patterns.classify name = .proxied index → config.Wires next index := by
  obtain ⟨addresses, parsed, inStep⟩ := exists_of_mapM (exists_resolverAddress_of_check checked)
  refine ⟨⟨config.patternStore.reload files, config.setNames, engine.defaultResolver, addresses⟩,
    ?_, ?_⟩
  · rw [Engine.routing, Engine.classResolvers, config_eq_of_check checked built, parsed]
    rfl
  · rintro _ ⟨readings, rfl⟩ name index routed
    have inside : index < config.classes.length := by
      have bound := Store.lt_length_of_classify routed
      rwa [Store.length_eq_of_names (Store.names_rereadAll _ readings),
        Store.reload_eq_rereadAll, length_patternStore] at bound
    obtain ⟨address, read, found⟩ := inStep index _ (List.getElem?_eq_getElem inside)
    refine ⟨config.classes[index], address, List.getElem?_eq_getElem inside, read, found, ?_, ?_⟩
    · simp [Query.Routing.resolver, Route.index?, found]
    · simp [setNames, List.getElem?_eq_getElem inside]

theorem names_rereadAll_patternStore (config : Config) (readings : List Reading) :
    (config.patternStore.rereadAll readings).classes.map Class.name =
      config.classes.map ClassSettings.name :=
  (Store.names_rereadAll _ readings).trans (map_name_patternStore config)

/-- Reading pattern files again leaves the names of the classes in their places. -/
theorem classIndex?_rereadAll (distinct : (config.classes.map ClassSettings.name).Nodup)
    (readings : List Reading) {index : Nat} (inside : index < config.classes.length) :
    (config.patternStore.rereadAll readings).classIndex?
      ((config.patternStore.rereadAll readings).className (.proxied index)) = some index := by
  apply Store.classIndex?_className
  · rwa [names_rereadAll_patternStore]
  · rwa [length_patternStore]

theorem className_rereadAll (readings : List Reading) {index : Nat}
    (inside : index < config.classes.length) :
    (config.patternStore.rereadAll readings).className (.proxied index) =
      config.classes[index].name := by
  rw [Store.className_eq, names_rereadAll_patternStore, List.getElem?_map,
    List.getElem?_eq_getElem inside]
  rfl

/--
A configuration that is accepted cannot fail later: the address to listen on and all resolvers are
addresses, a resolver that is configured for names without class is taken in all surroundings, and
every class, found by its name or its place, has its own resolver and set.
-/
theorem dependable_of_check [Files.Caller] (config : Config) (checked : config.check = .ok ()) :
    config.Dependable := by
  obtain ⟨server, classes⟩ := check_eq_ok checked
  obtain ⟨listens, configured⟩ := checkServer_eq_ok server
  obtain ⟨checkedClasses, distinct⟩ := checkClasses_eq_ok classes
  constructor
  case listens => exact listens
  case resolvers => exact exists_resolverAddress_of_check checked
  case sets =>
    intro settings found
    exact (checkClass_eq_ok (checkedClasses settings found).1).2.2
  case defaultResolver =>
    intro text setting
    obtain ⟨address, read⟩ := configured text setting
    refine ⟨address, read, fun surroundings => ?_⟩
    rw [Config.defaultResolver, setting]
    exact chooseDefaultResolver_of_parseResolver read surroundings
  case distinct => exact distinct
  case findClass => exact fun _ _ => findClass_eq_ok_iff distinct
  case names =>
    intro readings index inside
    refine ⟨classIndex?_rereadAll distinct readings inside, ?_⟩
    rw [className_rereadAll readings inside]
    exact ne_directName_of_checkClass (checkedClasses _ (List.getElem_mem inside)).1
  case engine => exact engine_eq_of_check checked
  case routing =>
    intro surroundings engine files built
    exact exists_routing_of_check checked built files
  case running =>
    intro Network Sets surroundings engine transport backend network outside routing events session
      built started ran name index routed
    obtain ⟨sameRouting, startedToo, wires⟩ := exists_routing_of_check checked built outside.files
    rw [started] at startedToo
    cases startedToo
    have reached := Session.reaches_steps engine transport backend
      (engine.start routing backend network outside) events
    rw [ran] at reached
    exact wires session.routing reached name index routed

/-- Two names that differ in a blank and a capital, and addresses in all forms. -/
def lookalike : Config :=
  { Config.default with
    server := ⟨" [2001:db8::1]:5300 ", some "192.0.2.1\t", 30⟩
    classes := [⟨" Nl", "first.txt", "[2001:db8::5]", "proxied_nl"⟩,
      ⟨"nl", "second.txt", " 192.0.2.54:5353", "proxied"⟩] }

def lookalikeFiles : Files.Store :=
  .ofList [("first.txt", .file (Text.utf8 "# none yet\n")),
    ("second.txt", .file (Text.utf8 "Video\r\n"))]

section Lookalike

attribute [local instance] Files.Caller.first

theorem dependable_of_check_lookalike :
    lookalike.check = .ok () ∧ lookalike.Dependable ∧
      (lookalike.patternStore.reload lookalikeFiles).classify "www.video.example" =
        .proxied 1 := by
  have checked : lookalike.check = .ok () := by
    have passes : lookalike.check.isOk = true := by decide +kernel
    cases result : lookalike.check with
    | error cause =>
        rw [result] at passes
        cases passes
    | ok _ => rfl
  exact ⟨checked, dependable_of_check lookalike checked, by decide +kernel⟩

end Lookalike

end Config

end SplitDns
