import SplitDns.AddressMap.Basic
import SplitDns.AddressSet.Backend
import SplitDns.Audit.Log
import SplitDns.Persist.Signals
import SplitDns.Query.Effect

/-!
# Observing responses

The state that all queries share, and how the effects of a response change it one by one. Whatever
is new in the address map or added to a set raises a save signal; an addition that fails is
counted and changes nothing else.
-/

namespace SplitDns.Query

open SplitDns.Address
open SplitDns.AddressSet
open SplitDns.Dns
open SplitDns.Persist

variable {Sets : Type}

/-- What the proxy has learned from responses. -/
structure Knowledge (Sets : Type) where
  map : AddressMap
  sets : Sets
  signals : Signals
  /-- The batches for the audit log so far, if one is kept. -/
  audit : Option (List Audit.Batch)

/-- What the effects of a response have done. -/
structure Tally where
  /-- The number of new pairs in the address map. -/
  recorded : Nat
  added : List (String × Ipv4)
  failed : Nat
  deriving DecidableEq

def Tally.zero : Tally :=
  ⟨0, [], 0⟩

namespace Knowledge

def signal (knowledge : Knowledge Sets) (kind : SaveKind) : Knowledge Sets :=
  { knowledge with signals := (knowledge.signals.send kind).2 }

/-- Records an address for a name; says whether the pair is new. -/
def record (name : String) (address : Ipv4) (knowledge : Knowledge Sets) :
    Bool × Knowledge Sets :=
  let (new, map) := knowledge.map.insert name (Ip.v4 address).text
  let knowledge := { knowledge with map := map }
  (new, if new then knowledge.signal .addressMap else knowledge)

def add (backend : Backend Sets) (set : String) (address : Ipv4) (knowledge : Knowledge Sets) :
    Except AddressSet.Error Unit × Knowledge Sets :=
  let (result, sets) := backend.add set (.v4 address) knowledge.sets
  let knowledge := { knowledge with sets := sets }
  (result, if result.isOk then knowledge.signal .addressSet else knowledge)

def log (batch : Audit.Batch) (knowledge : Knowledge Sets) : Knowledge Sets :=
  { knowledge with audit := knowledge.audit.map (· ++ [batch]) }

/-- Lets one effect happen; `setNames` holds the sets of the classes. -/
def apply (backend : Backend Sets) (setNames : List String) (effect : Effect)
    (tally : Tally) (knowledge : Knowledge Sets) : Tally × Knowledge Sets :=
  match effect with
  | .record name address =>
      let (new, knowledge) := knowledge.record name address
      (if new then { tally with recorded := tally.recorded + 1 } else tally, knowledge)
  | .add index address =>
      match setNames[index]? with
      | none => (tally, knowledge)
      | some set =>
          match knowledge.add backend set address with
          | (.ok (), knowledge) =>
              ({ tally with added := tally.added ++ [(set, address)] }, knowledge)
          | (.error _, knowledge) => ({ tally with failed := tally.failed + 1 }, knowledge)

/-- Lets effects happen in order. -/
def applyAll (backend : Backend Sets) (setNames : List String) (effects : List Effect)
    (tally : Tally) (knowledge : Knowledge Sets) : Tally × Knowledge Sets :=
  effects.foldl
    (fun state effect => state.2.apply backend setNames effect state.1) (tally, knowledge)

end Knowledge

/-- What processing one response did. -/
structure Summary where
  addresses : List Ipv4
  tally : Tally
  ipv6 : Nat
  deriving DecidableEq

/-- The batch for the audit log, if the response gives addresses. -/
def auditBatch? (subject : Subject) (response : Message) : Option Audit.Batch :=
  let addresses := answerAddresses response
  if addresses.isEmpty then none
  else
    some ⟨subject.name, addresses.map fun address => (Ip.v4 address).text,
      subject.route.isProxied⟩

def observe (backend : Backend Sets) (patterns : Pattern.Store) (setNames : List String)
    (subject : Subject) (response : Message) (knowledge : Knowledge Sets) :
    Summary × Knowledge Sets :=
  let (tally, knowledge) :=
    knowledge.applyAll backend setNames (effects patterns subject response) .zero
  let knowledge := match auditBatch? subject response with
    | some batch => knowledge.log batch
    | none => knowledge
  (⟨answerAddresses response, tally, ipv6Count response⟩, knowledge)

end SplitDns.Query
