import SplitDns.Dns.Message
import SplitDns.Pattern.Store

/-!
# The effects of a response

What a response to a query changes, as a list of single effects in order: addresses that are
recorded for names, and addresses that are added to the sets of classes. In the answer section an
address counts for the name that was asked for and for the owner of its record, in the other
sections for the owner only. No address is added to one class twice.
-/

namespace SplitDns.Query

open SplitDns.Address
open SplitDns.Dns

/-- A query as far as its response is concerned: the name asked for and where it was routed. -/
structure Subject where
  /-- The name in normal form. -/
  name : String
  route : Route
  deriving DecidableEq

def Subject.of (name : String) (route : Route) : Subject :=
  ⟨normalizeName name, route⟩

inductive Effect where
  | record (name : String) (address : Ipv4)
  /-- Adds an address to the set of a class. -/
  | add (index : Nat) (address : Ipv4)
  deriving DecidableEq

def Effect.isAdd : Effect → Bool
  | .record _ _ => false
  | .add _ _ => true

/-- Keeps the first of equal additions. -/
def distinctAdds (effects : List Effect) : List Effect :=
  effects.foldl
    (fun kept effect => if effect.isAdd && kept.contains effect then kept else kept ++ [effect]) []

def ipv4? (record : Record) : Option Ipv4 :=
  match record.data with
  | .ipv4 address => some address
  | _ => none

/-- The record holds an IPv6 address. -/
def holdsIpv6 (record : Record) : Bool :=
  match record.data with
  | .ipv6 _ => true
  | _ => false

def addEffects (route : Route) (address : Ipv4) : List Effect :=
  (route.index?.map (Effect.add · address)).toList

def answerEffects (patterns : Pattern.Store) (subject : Subject) (record : Record) : List Effect :=
  match ipv4? record with
  | none => []
  | some address =>
      let owner := record.owner.key
      [.record subject.name address] ++
        (if owner = subject.name then [] else [.record owner address]) ++
        addEffects (patterns.classify owner) address ++ addEffects subject.route address

/-- The effects of a record in another section. -/
def otherEffects (patterns : Pattern.Store) (record : Record) : List Effect :=
  match ipv4? record with
  | none => []
  | some address =>
      let owner := record.owner.key
      .record owner address :: addEffects (patterns.classify owner) address

/-- The effects of a response in the order in which they happen. -/
def effects (patterns : Pattern.Store) (subject : Subject) (response : Message) : List Effect :=
  distinctAdds
    (response.answers.flatMap (answerEffects patterns subject) ++
      (response.authority ++ response.additional).flatMap (otherEffects patterns))

/-- The addresses of the answer section, each once and in order. -/
def answerAddresses (response : Message) : List Ipv4 :=
  (response.answers.filterMap ipv4?).foldl
    (fun kept address => if kept.contains address then kept else kept ++ [address]) []

/-- The number of records with an IPv6 address. -/
def ipv6Count (response : Message) : Nat :=
  response.records.countP holdsIpv6

end SplitDns.Query
