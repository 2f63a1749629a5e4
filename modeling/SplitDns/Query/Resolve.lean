import SplitDns.Exchange.Transport
import SplitDns.Listener.Serve
import SplitDns.Query.Observe

/-!
# Resolving queries

A query is routed by the name of its first question, forwarded to the resolver of its route, and
answered with the response without IPv6 records, after the response was observed. When forwarding
fails, the client is told so and nothing else happens.
-/

namespace SplitDns.Query

open SplitDns.Address
open SplitDns.AddressSet
open SplitDns.Dns
open SplitDns.Exchange
open SplitDns.Listener

variable {Network Sets : Type}

/-- The classes of names with the resolver and the set of each, and the resolver for other names. -/
structure Routing where
  patterns : Pattern.Store
  setNames : List String
  defaultResolver : Socket
  classResolvers : List Socket

def Routing.resolver (routing : Routing) (route : Route) : Socket :=
  (route.index?.bind fun index => routing.classResolvers[index]?).getD routing.defaultResolver

/-- The name of the first question in normal form; empty when there is none. -/
def questionName (query : Message) : String :=
  (query.questions.head?).elim "" fun question => question.name.key

/-- The reply that relays a response. -/
def relay (query : Message) (answer : Exchange.Answer) : Option Octets :=
  match answer.message.withoutIpv6? with
  | none => some answer.raw
  | some stripped => stripped.encode?.or query.serverFailure.encode?

/-- Resolves one query; `none` when there is no reply. -/
def resolve (routing : Routing) (transport : Transport Network) (backend : Backend Sets)
    (request : Request) (state : Network × Knowledge Sets) :
    Option Octets × Network × Knowledge Sets :=
  let (network, knowledge) := state
  let name := questionName request.message
  let route := routing.patterns.classify name
  match forward transport (routing.resolver route) request.raw network with
  | (.error _, network) => (request.message.serverFailure.encode?, network, knowledge)
  | (.ok answer, network) =>
      let (_, knowledge) := observe backend routing.patterns routing.setNames
        (.of name route) answer.message knowledge
      (relay request.message answer, network, knowledge)

/-- Resolving as the listener uses it. -/
def handler (routing : Routing) (transport : Transport Network) (backend : Backend Sets) :
    Handler (Network × Knowledge Sets) :=
  resolve routing transport backend

end SplitDns.Query
