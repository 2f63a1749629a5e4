import SplitDns.Audit.Database
import SplitDns.Config.Check
import SplitDns.Config.Resolver
import SplitDns.Pattern.Reload
import SplitDns.Query.Resolve

/-!
# Setting up the engine

From a configuration to what the engine runs on: the resolver of every route, the set of every
class, the patterns that the files hold, and the address sets, which are created at the start. A
set that cannot be created is left to fail later.
-/

namespace SplitDns

open SplitDns.Address
open SplitDns.AddressSet

/-- A checked configuration with the resolver for names without class. -/
structure Engine where
  config : Config
  defaultResolver : Socket
  /-- A run has begun and not come to its end. -/
  isRunning : Bool

namespace Engine

def new (config : Config) (surroundings : Surroundings) : Except Error Engine := do
  config.check
  return ⟨config, ← config.defaultResolver surroundings, false⟩

/-- Marks the engine as running. A run that is abandoned never takes the mark back. -/
def acquire (engine : Engine) : Except Error Engine :=
  if engine.isRunning then .error .alreadyRunning else .ok { engine with isRunning := true }

def release (engine : Engine) : Engine :=
  { engine with isRunning := false }

/-- The resolvers of the classes, in order. -/
def classResolvers (config : Config) : Except Error (List Socket) :=
  config.classes.mapM ClassSettings.resolverAddress

/-- How queries are routed at the start. -/
def routing (engine : Engine) (files : Files.Store) : Except Error Query.Routing := do
  let resolvers ← classResolvers engine.config
  return ⟨engine.config.patternStore.reload files, engine.config.setNames, engine.defaultResolver,
    resolvers⟩

/-- Creates sets one by one, whether that succeeds or not. -/
def createAll {Sets : Type} (backend : Backend Sets) (names : List String) (sets : Sets) : Sets :=
  names.foldl (fun sets name => (backend.create name sets).2) sets

/-- Creates the sets of the classes if the configuration says so. -/
def prepareSets {Sets : Type} (engine : Engine) (backend : Backend Sets) (sets : Sets) : Sets :=
  if engine.config.sets.createSets then createAll backend engine.config.setNames sets else sets

/-- When snapshots are saved; a checked configuration has an interval above zero. -/
def timing (engine : Engine) : Persist.Timing :=
  ⟨Duration.ofSeconds (max engine.config.persistence.saveInterval 1),
    Duration.ofSeconds engine.config.persistence.batchTimeout,
    Nat.mul_pos (by omega) (by decide)⟩

end Engine

end SplitDns
