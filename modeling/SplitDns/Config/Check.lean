import SplitDns.Config.Basic

/-!
# Checking a configuration

The rules that a configuration keeps before it is used: addresses that can be read, spans of time
and capacities above zero, and classes with names of their own.
-/

namespace SplitDns

open SplitDns.Address
open SplitDns.AddressSet
open SplitDns.Text

/-- Fails with a cause unless a condition holds. -/
def demand (condition : Bool) (cause : ConfigError) : Except Error Unit :=
  if condition then .ok () else .error (.config cause)

namespace Config

def checkServer (config : Config) : Except Error Unit := do
  let _ ← config.listenAddress
  match config.server.resolver with
  | some resolver => let _ ← (parseResolver resolver).mapError Error.ofResolver
  | none => .ok ()
  demand (config.server.idleTimeout != 0) .zeroIdleTimeout

def checkForwarder (settings : ForwarderSettings) : Except Error Unit :=
  demand (settings.dialTimeout != 0 && settings.readTimeout != 0 && settings.writeTimeout != 0)
    .zeroForwarderTimeout

def checkPersistence (settings : PersistenceSettings) : Except Error Unit := do
  demand (settings.saveInterval != 0 && settings.batchTimeout != 0) .zeroSaveInterval
  demand (settings.signalCapacity != 0) .zeroCapacity

def checkSets (settings : SetSettings) : Except Error Unit := do
  demand (settings.timeout != 0) .zeroToolTimeout
  demand (settings.capacity != some 0) .zeroSetCapacity

/-- The name that no class may have, in any letter case. -/
def isReserved (name : List Char) : Bool :=
  asciiLower name == Route.directName.toList

def checkClass (settings : ClassSettings) : Except Error Unit := do
  let name := trim settings.name.toList
  demand (!name.isEmpty) .namelessClass
  demand (!isReserved name) .reservedName
  demand (!settings.patterns.isEmpty) (.noPatternFile settings.name)
  let _ ← (parseResolver settings.resolver).mapError
    fun cause => Error.config (.classResolver settings.name cause)
  (checkName settings.set).mapError fun cause => .config (.classSet settings.name cause)

/-- Checks classes whose names may not be among those seen before. -/
def checkClasses (seen : List String) : List ClassSettings → Except Error Unit
  | [] => .ok ()
  | settings :: rest => do
      checkClass settings
      demand (!seen.contains settings.name) (.duplicateClass settings.name)
      checkClasses (settings.name :: seen) rest

/-- The first rule that the configuration breaks, if any. -/
def check (config : Config) : Except Error Unit := do
  config.checkServer
  checkForwarder config.forwarder
  checkPersistence config.persistence
  demand (config.reloadInterval != 0) .zeroReloadInterval
  checkSets config.sets
  checkClasses [] config.classes

end Config

end SplitDns
