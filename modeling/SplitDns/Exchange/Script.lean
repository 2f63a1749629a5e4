import SplitDns.Exchange.Transport

/-!
# Scripted exchanges

A transport that takes its replies from one list per protocol, then from a fixed rule, and keeps
a log of the queries put to it.
-/

namespace SplitDns.Exchange

open SplitDns.Address

/-- The outcome of one scripted exchange. -/
inductive Reply where
  | response (octets : Octets)
  | timeout
  | fail (text : String)

def Reply.outcome : Reply → Except Error Octets
  | .response octets => .ok octets
  | .timeout => .error (.timeout .scripted)
  | .fail text => .error (.failure (.scripted text))

/-- A rule for exchanges that no list covers. -/
inductive Responder where
  | echo
  | timeout
  | nameProtocol

def Responder.reply : Responder → Protocol → Octets → Reply
  | .echo, _, query => .response query
  | .timeout, _, _ => .timeout
  | .nameProtocol, protocol, _ => .fail (protocol.text ++ " responder")

/-- A query that was put to a resolver. -/
structure Call where
  protocol : Protocol
  resolver : Socket
  query : Octets
  deriving DecidableEq

structure Script where
  udp : List Reply
  tcp : List Reply
  responder : Option Responder
  /-- All exchanges so far, the first one first. -/
  calls : List Call

namespace Script

def empty : Script :=
  ⟨[], [], none, []⟩

def replies (script : Script) : Protocol → List Reply
  | .udp => script.udp
  | .tcp => script.tcp

def setReplies (script : Script) : Protocol → List Reply → Script
  | .udp, replies => { script with udp := replies }
  | .tcp, replies => { script with tcp := replies }

/-- Adds replies at the end of the lists. -/
def extend (script : Script) (udp tcp : List Reply) : Script :=
  { script with udp := script.udp ++ udp, tcp := script.tcp ++ tcp }

/-- The outcome of an exchange that no list covers. -/
def unlisted (script : Script) (protocol : Protocol) (query : Octets) : Except Error Octets :=
  match script.responder with
  | some responder => (responder.reply protocol query).outcome
  | none => .error (.failure (.unscripted protocol))

def transport : Transport Script := fun protocol resolver query script =>
  let logged := { script with calls := script.calls ++ [Call.mk protocol resolver query] }
  match logged.replies protocol with
  | [] => (logged.unlisted protocol query, logged)
  | reply :: others => (reply.outcome, logged.setReplies protocol others)

end Script

end SplitDns.Exchange
