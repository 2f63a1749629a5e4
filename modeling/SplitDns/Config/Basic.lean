import SplitDns.AddressSet.Command
import SplitDns.Exchange.Network
import SplitDns.Error
import SplitDns.Pattern.Store
import SplitDns.Persist.Scheduler
import SplitDns.Persist.Snapshots

/-!
# Configuration

The settings of the proxy as an administrator writes them, with their defaults. Spans of time are
whole seconds. The order of the classes is their precedence.
-/

namespace SplitDns

open SplitDns.Address
open SplitDns.AddressSet
open SplitDns.Exchange

structure ListenerSettings where
  listen : String
  /-- The resolver for names without class. -/
  resolver : Option String
  /-- The seconds after which an idle connection is closed. -/
  idleTimeout : Nat
  deriving DecidableEq, Repr

def ListenerSettings.default : ListenerSettings :=
  ⟨"0.0.0.0:53", none, 30⟩

structure ForwarderSettings where
  dialTimeout : Nat
  readTimeout : Nat
  writeTimeout : Nat
  deriving DecidableEq, Repr

def ForwarderSettings.default : ForwarderSettings :=
  ⟨5, 5, 5⟩

def ForwarderSettings.timeouts (settings : ForwarderSettings) : Timeouts :=
  ⟨.ofSeconds settings.dialTimeout, .ofSeconds settings.readTimeout,
    .ofSeconds settings.writeTimeout⟩

structure PersistenceSettings where
  mapFile : String
  setFile : String
  saveInterval : Nat
  /-- The seconds without signal after which what changed is saved. -/
  batchTimeout : Nat
  signalCapacity : Nat
  deriving DecidableEq, Repr

def PersistenceSettings.default : PersistenceSettings :=
  ⟨"/root/map.json", "/etc/ipset.conf", 10, 2, 100⟩

def PersistenceSettings.files (settings : PersistenceSettings) : Persist.SnapshotFiles :=
  ⟨settings.mapFile, settings.setFile⟩

structure SetSettings where
  command : String
  timeout : Nat
  /-- Whether the set of every class is created at the start. -/
  createSets : Bool
  /-- The capacity of created sets, where it is not the tool's own default. -/
  capacity : Option Nat
  deriving DecidableEq, Repr

def SetSettings.default : SetSettings :=
  ⟨"ipset", 3, true, none⟩

/-- How the set tool is run. -/
def SetSettings.tool (settings : SetSettings) : CommandSettings :=
  ⟨settings.command, .ofSeconds settings.timeout, settings.capacity⟩

/-- A class of names with a resolver and an address set of its own. -/
structure ClassSettings where
  name : String
  /-- The path of the pattern file. -/
  patterns : String
  resolver : String
  set : String
  deriving DecidableEq, Repr

def ClassSettings.resolverAddress (settings : ClassSettings) : Except Error Socket :=
  (parseResolver settings.resolver).mapError .ofResolver

structure Config where
  logLevel : String
  server : ListenerSettings
  forwarder : ForwarderSettings
  /-- The seconds between two reloads of the pattern files. -/
  reloadInterval : Nat
  persistence : PersistenceSettings
  sets : SetSettings
  /-- The database of the audit log, if one is kept. -/
  auditDatabase : Option String
  classes : List ClassSettings
  deriving DecidableEq, Repr

namespace Config

def defaultLogLevel : String := "info"

def defaultReloadInterval : Nat := 5

def default : Config :=
  ⟨defaultLogLevel, .default, .default, defaultReloadInterval, .default, .default, none, []⟩

def listenAddress (config : Config) : Except Error Socket :=
  (parseResolver config.server.listen).mapError fun cause => .config (.listen cause)

def findClass (config : Config) (name : String) : Except Error ClassSettings :=
  match config.classes.find? (·.name == name) with
  | some settings => .ok settings
  | none => .error (.unknownClass name)

/-- The address sets of the classes, in order. -/
def setNames (config : Config) : List String :=
  config.classes.map ClassSettings.set

/-- The classes with their pattern files and no patterns loaded. -/
def patternStore (config : Config) : Pattern.Store :=
  .new (config.classes.map fun settings => (settings.name, settings.patterns))

end Config

end SplitDns
