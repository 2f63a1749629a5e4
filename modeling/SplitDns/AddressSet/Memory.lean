import SplitDns.AddressSet.Backend
import SplitDns.SortedMap

/-!
# Address sets in memory

A backend that keeps the sets itself and a log of the calls. Failures can be switched on for
single addresses or for everything. A strict store wants a set to be created before it is used.
-/

namespace SplitDns.AddressSet

open SplitDns.Address

/-- Puts an address into a list of addresses in order, unless it is there. -/
def insertMember (address : Ip) : List Ip → List Ip
  | [] => [address]
  | member :: rest =>
      if address = member then member :: rest
      else if address.sortKey < member.sortKey then address :: member :: rest
      else member :: insertMember address rest

theorem mem_insertMember {address other : Ip} {members : List Ip} :
    other ∈ insertMember address members ↔ other = address ∨ other ∈ members := by
  induction members with
  | nil => simp [insertMember]
  | cons member rest inductionHypothesis =>
      unfold insertMember
      split
      next equal => subst equal; simp
      next =>
        split
        · simp
        · simp only [List.mem_cons, inductionHypothesis]
          grind

def removeMember (address : Ip) (members : List Ip) : List Ip :=
  members.filter (· != address)

/-- The members of every set, by set name, each list in the order of addresses. -/
abbrev Sets := SortedMap (List Ip)

def members (sets : Sets) (set : String) : List Ip :=
  (sets.find? set).getD []

structure Memory where
  sets : Sets
  /-- All calls so far, the first one first; calls that failed too. -/
  calls : List Call
  failing : List Ip
  failAll : Bool
  strict : Bool

namespace Memory

def new (strict : Bool) : Memory :=
  ⟨.empty, [], [], false, strict⟩

def failOn (memory : Memory) (address : Ip) : Memory :=
  { memory with failing := address :: memory.failing }

def setFailing (memory : Memory) (fail : Bool) : Memory :=
  { memory with failAll := fail }

def log (memory : Memory) (call : Call) : Memory :=
  { memory with calls := memory.calls ++ [call] }

/-- The failure that was switched on for a command, and for the address that it is about. -/
def injected (memory : Memory) (command : String) (address : Option Ip) : Except Error Unit :=
  if memory.failAll || address.any memory.failing.contains then
    .error (.commandFailed command (.code 1) "injected failure")
  else
    .ok ()

/-- The checks before an address of a set is touched. -/
def permit (memory : Memory) (command set : String) (address : Ip) : Except Error Unit := do
  checkName set
  memory.injected command (some address)
  if memory.strict && !memory.sets.contains set then .error (.notFound set) else .ok ()

def put (memory : Memory) (set : String) (addresses : List Ip) : Memory :=
  { memory with sets := memory.sets.put set addresses }

/-- The text that restores one set. -/
def dumpSet (pair : String × List Ip) : String :=
  "create " ++ pair.1 ++ " hash:ip family inet\n" ++
    String.join (pair.2.map fun address => "add " ++ pair.1 ++ " " ++ address.text ++ "\n")

def dump (memory : Memory) : String :=
  String.join (memory.sets.pairs.map dumpSet)

def create (set : String) (memory : Memory) : Except Error Unit × Memory :=
  let memory := memory.log (.create set)
  match checkName set, memory.injected "create" none with
  | .error error, _ => (.error error, memory)
  | .ok (), .error error => (.error error, memory)
  | .ok (), .ok () =>
      (.ok (), if memory.sets.contains set then memory else memory.put set [])

def add (set : String) (address : Ip) (memory : Memory) : Except Error Unit × Memory :=
  let memory := memory.log (.add set address)
  match memory.permit "add" set address with
  | .error error => (.error error, memory)
  | .ok () => (.ok (), memory.put set (insertMember address (members memory.sets set)))

def remove (set : String) (address : Ip) (memory : Memory) : Except Error Bool × Memory :=
  let memory := memory.log (.remove set address)
  match memory.permit "del" set address with
  | .error error => (.error error, memory)
  | .ok () =>
      let old := members memory.sets set
      (.ok (old.contains address), memory.put set (removeMember address old))

def test (set : String) (address : Ip) (memory : Memory) : Except Error Bool × Memory :=
  let memory := memory.log (.test set address)
  match memory.permit "test" set address with
  | .error error => (.error error, memory)
  | .ok () =>
      let old := members memory.sets set
      (.ok (old.contains address), memory.put set old)

def save (memory : Memory) : Except Error String × Memory :=
  let memory := memory.log .save
  ((memory.injected "save" none).map fun _ => memory.dump, memory)

def backend : Backend Memory :=
  ⟨create, add, remove, test, save⟩

/-- The additions among the calls. -/
def adds (memory : Memory) : List (String × Ip) :=
  memory.calls.filterMap fun
    | .add set address => some (set, address)
    | _ => none

/-- The number of dumps among the calls. -/
def saves (memory : Memory) : Nat :=
  memory.calls.countP (· == .save)

end Memory

end SplitDns.AddressSet
