import SplitDns.Audit.Writer
import SplitDns.Engine.Setup
import SplitDns.Persist.Service
import SplitDns.Persist.Snapshots

/-!
# Running the engine

A run begins with loading and binding, goes on with queries and the passing of time, and ends with
a last flush and the writing of the audit log. `run` puts these together for a list of events.
-/

namespace SplitDns

open SplitDns.Address
open SplitDns.AddressSet
open SplitDns.Exchange
open SplitDns.Listener
open SplitDns.Persist
open SplitDns.Query

variable {Network Sets : Type}

structure Outside (Sets : Type) where
  files : Files.Store
  databases : Audit.Databases
  sets : Sets
  /-- The protocols on which another program already listens at the engine's address. -/
  taken : List Protocol
  /-- The date and time of day. -/
  time : String

structure Session (Network Sets : Type) where
  routing : Routing
  network : Network
  knowledge : Knowledge Sets
  reloader : Option Pattern.Reloader
  scheduler : Scheduler
  /-- The milliseconds since the start. -/
  now : Nat
  audit : Option Audit.Writer
  files : Files.Store
  databases : Audit.Databases

/-- Something that happens while the engine runs. -/
inductive Event where
  | request (request : Request)
  | pause (milliseconds : Nat)

namespace Session

/-- The state that the scheduler works on. -/
def service (session : Session Network Sets) : Service (Sets × Files.Store) :=
  ⟨session.now, 1, session.knowledge.signals, session.scheduler, false,
    (session.knowledge.sets, session.files)⟩

/-- What the scheduler leaves behind. -/
def absorb (session : Session Network Sets) (service : Service (Sets × Files.Store)) :
    Session Network Sets :=
  { session with
    now := service.now
    scheduler := service.scheduler
    knowledge :=
      { session.knowledge with signals := service.signals, sets := service.state.1 }
    files := service.state.2 }

/-- Saving to the snapshot files. -/
def target [Files.Caller] (engine : Engine) (backend : Backend Sets) (map : AddressMap) :
    Nat → Target (Sets × Files.Store) := fun _ kind state =>
  let (result, state) :=
    engine.config.persistence.files.save backend kind map state.1 state.2
  (result.isOk, state)

/-- Hands the batches of the last query to the audit log, whose writer keeps up. -/
def writeAudit (session : Session Network Sets) : Session Network Sets :=
  { session with
    knowledge := { session.knowledge with audit := session.knowledge.audit.map fun _ => [] }
    audit := session.audit.map fun writer =>
      (session.knowledge.audit.getD []).foldl Audit.Writer.record writer }

/-- Answers a query. -/
def request (transport : Transport Network) (backend : Backend Sets) (request : Request)
    (session : Session Network Sets) : Option Octets × Session Network Sets :=
  let (reply, network, knowledge) :=
    resolve session.routing transport backend request (session.network, session.knowledge)
  (reply, { session with network := network, knowledge := knowledge }.writeAudit)

/-- Lets time pass: pattern files are read again and snapshots saved. -/
def pause [Files.Caller] (engine : Engine) (backend : Backend Sets) (milliseconds : Nat)
    (session : Session Network Sets) : Session Network Sets :=
  let deadline := session.now + milliseconds
  let (patterns, reloader) := match session.reloader with
    | none => (session.routing.patterns, none)
    | some reloader =>
        let (patterns, reloader) :=
          reloader.advance deadline session.files session.routing.patterns
        (patterns, some reloader)
  let service := session.service.run engine.timing
    (target engine backend session.knowledge.map) milliseconds
  { session.absorb service with
    reloader := reloader
    routing := { session.routing with patterns := patterns } }

/-- Ends the run: what is still to be saved is saved and the audit log is written. -/
def stop [Files.Caller] (engine : Engine) (backend : Backend Sets)
    (session : Session Network Sets) : Session Network Sets :=
  let service := session.service.dropSenders.run engine.timing
    (target engine backend session.knowledge.map) 0
  let session := session.absorb service
  match session.audit with
  | none => session
  | some writer => { session with databases := session.databases.closeWriter writer }

/-- Lets one event happen; gives the reply to a request. -/
def step [Files.Caller] (engine : Engine) (transport : Transport Network)
    (backend : Backend Sets) (session : Session Network Sets) :
    Event → Option Octets × Session Network Sets
  | .request asked => session.request transport backend asked
  | .pause milliseconds => (none, session.pause engine backend milliseconds)

/-- Lets events happen in order. -/
def steps [Files.Caller] (engine : Engine) (transport : Transport Network)
    (backend : Backend Sets) (session : Session Network Sets) :
    List Event → List (Option Octets) × Session Network Sets
  | [] => ([], session)
  | event :: rest =>
      let (reply, session) := session.step engine transport backend event
      let (replies, session) := steps engine transport backend session rest
      (reply :: replies, session)

end Session

namespace Engine

/-- Opens the audit log; a database that cannot be opened means that none is kept. -/
def openAudit (engine : Engine) (outside : Outside Sets) :
    Option Audit.Writer × Audit.Databases :=
  let opened := engine.config.auditDatabase.bind fun path =>
    outside.databases.openWriter? outside.files path Audit.defaultCapacity outside.time
  match opened with
  | none => (none, outside.databases)
  | some (writer, databases) => (some writer, databases)

/-- The state in which a run begins. -/
def start (engine : Engine) (routing : Routing) (backend : Backend Sets) (network : Network)
    (outside : Outside Sets) : Session Network Sets :=
  let (audit, databases) := engine.openAudit outside
  { routing := routing
    network := network
    knowledge :=
      { map := AddressMap.load outside.files engine.config.persistence.mapFile
        sets := engine.prepareSets backend outside.sets
        signals := .new engine.config.persistence.signalCapacity
        audit := audit.map fun _ => [] }
    reloader := Pattern.Reloader.start? (Duration.ofSeconds engine.config.reloadInterval) 0
    scheduler := .start engine.timing 0
    now := 0
    audit := audit
    files := outside.files
    databases := databases }

/-- Takes the address to listen on, for datagrams first. -/
def bind (engine : Engine) (taken : List Protocol) : Except Error Unit := do
  let address ← engine.config.listenAddress
  match [Protocol.udp, Protocol.tcp].find? taken.contains with
  | some protocol =>
      .error (.exchange (.failure (.listen protocol address .addressInUse)))
  | none => .ok ()

/-- Binds and lets the events happen. -/
def serve [Files.Caller] (engine : Engine) (transport : Transport Network)
    (backend : Backend Sets) (events : List Event) (taken : List Protocol)
    (session : Session Network Sets) : Except Error (List (Option Octets)) × Session Network Sets :=
  match engine.bind taken with
  | .error error => (.error error, session)
  | .ok () =>
      let (replies, session) := session.steps engine transport backend events
      (.ok replies, session)

/--
A whole run. When the address cannot be taken there are no replies, but the run has prepared the
sets and ends like any other.
-/
def run [Files.Caller] (engine : Engine) (transport : Transport Network)
    (backend : Backend Sets) (events : List Event) (network : Network) (outside : Outside Sets) :
    Except Error (List (Option Octets)) × Network × Outside Sets :=
  match engine.routing outside.files with
  | .error error => (.error error, network, outside)
  | .ok routing =>
      let (result, session) := engine.serve transport backend events outside.taken
        (engine.start routing backend network outside)
      let session := session.stop engine backend
      (result, session.network,
        { outside with
          files := session.files, databases := session.databases,
          sets := session.knowledge.sets })

end Engine

end SplitDns
