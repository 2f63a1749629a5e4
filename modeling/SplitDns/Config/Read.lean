import SplitDns.Config.Check
import SplitDns.Toml.Document

/-!
# Reading a configuration

A configuration is a TOML document. Missing settings take their defaults, except in classes, and
settings that are not known are left out. A list of values can stand for a table: its items are the
settings in their order.
-/

namespace SplitDns.Config

open SplitDns.Toml

/-- A group of settings. -/
inductive Group where
  | named (entries : Entries)
  | listed (items : List Value)

namespace Group

/-- The group that a value stands for, if any. A time has no settings in it. -/
def ofValue? : Value → Option Group
  | .table _ entries => some (.named entries)
  | .array items => some (.listed items)
  | .tables elements => some (.listed (elements.map (.table .header)))
  | .moment => some (.named [])
  | _ => none

/-- The value of a setting by its place or its name. -/
def find? (group : Group) (place : Nat) (name : String) : Option Value :=
  match group with
  | .named entries => entries.lookup name
  | .listed items => items[place]?

variable {Setting : Type}

/-- A setting with a default; `none` if its value cannot be read. -/
def get? (group : Group) (place : Nat) (name : String) (read? : Value → Option Setting)
    (default : Setting) : Option Setting :=
  (group.find? place name).elim (some default) read?

def need? (group : Group) (place : Nat) (name : String) (read? : Value → Option Setting) :
    Option Setting :=
  (group.find? place name).bind read?

end Group

def text? : Value → Option String
  | .text content => some content
  | _ => none

/-- A natural number up to a limit. -/
def number? (limit : Nat) : Value → Option Nat
  | .integer value => if 0 ≤ value ∧ value ≤ limit then some value.toNat else none
  | _ => none

/-- A natural number as wide as integers are. -/
def count? : Value → Option Nat :=
  number? 0xFFFFFFFFFFFFFFFF

def boolean? : Value → Option Bool
  | .boolean value => some value
  | _ => none

def group? {Settings : Type} (read? : Group → Option Settings) (value : Value) :
    Option Settings :=
  (Group.ofValue? value).bind read?

def listener? (group : Group) : Option ListenerSettings := do
  let default := ListenerSettings.default
  return ⟨← group.get? 0 "listen" text? default.listen,
    ← group.get? 1 "upstream" (fun value => (text? value).map some) default.resolver,
    ← group.get? 2 "tcp_idle_timeout" count? default.idleTimeout⟩

def forwarder? (group : Group) : Option ForwarderSettings := do
  let default := ForwarderSettings.default
  return ⟨← group.get? 0 "dial_timeout" count? default.dialTimeout,
    ← group.get? 1 "read_timeout" count? default.readTimeout,
    ← group.get? 2 "write_timeout" count? default.writeTimeout⟩

def reloadInterval? (group : Group) : Option Nat :=
  group.get? 0 "reload_interval" count? defaultReloadInterval

def persistence? (group : Group) : Option PersistenceSettings := do
  let default := PersistenceSettings.default
  return ⟨← group.get? 0 "map_file" text? default.mapFile,
    ← group.get? 1 "ipset_save_file" text? default.setFile,
    ← group.get? 2 "save_interval" count? default.saveInterval,
    ← group.get? 3 "batch_timeout" count? default.batchTimeout,
    ← group.get? 4 "signal_capacity" count? default.signalCapacity⟩

def sets? (group : Group) : Option SetSettings := do
  let default := SetSettings.default
  return ⟨← group.get? 0 "command" text? default.command,
    ← group.get? 1 "timeout" count? default.timeout,
    ← group.get? 2 "create_sets" boolean? default.createSets,
    ← group.get? 3 "maxelem" (fun value => (number? 0xFFFFFFFF value).map some)
      default.capacity⟩

def auditDatabase? (group : Group) : Option (Option String) :=
  group.get? 0 "database" (fun value => (text? value).map some) none

def class? (group : Group) : Option ClassSettings := do
  return ⟨← group.need? 0 "name" text?, ← group.need? 1 "patterns" text?,
    ← group.need? 2 "upstream" text?, ← group.need? 3 "ipset" text?⟩

def classes? : Value → Option (List ClassSettings)
  | .array items => items.mapM (group? class?)
  | .tables elements => elements.mapM fun entries => class? (.named entries)
  | _ => none

def ofEntries? (entries : Entries) : Option Config := do
  let group := Group.named entries
  let default := Config.default
  return ⟨← group.get? 0 "log_level" text? default.logLevel,
    ← group.get? 1 "server" (group? listener?) default.server,
    ← group.get? 2 "forwarder" (group? forwarder?) default.forwarder,
    ← group.get? 3 "patterns" (group? reloadInterval?) default.reloadInterval,
    ← group.get? 4 "persistence" (group? persistence?) default.persistence,
    ← group.get? 5 "ipset" (group? sets?) default.sets,
    ← group.get? 6 "audit" (group? auditDatabase?) default.auditDatabase,
    ← group.get? 7 "class" classes? default.classes⟩

/-- The configuration that a text holds, if it keeps the rules. -/
def parse (text : String) : Except Error Config :=
  match (parse? text).bind ofEntries? with
  | none => .error .configSyntax
  | some config => config.check.map fun _ => config

def load (files : Files.Store) (path : String) : Except Error Config := do
  parse (← (files.readText path).mapError .io)

end SplitDns.Config
