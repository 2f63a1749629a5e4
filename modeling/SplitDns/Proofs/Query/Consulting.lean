import SplitDns.Proofs.Exchange.Forwarding
import SplitDns.Proofs.Query.Observing

/-!
# Resolvers that are consulted

Queries are resolved one after another, each with the routing of its time. A query leads to its
own exchanges only, all with the resolver it is routed to. `resolveAll_consults` says so for a whole
run, and what the run takes off a script.
-/

namespace SplitDns.Query

open SplitDns.Address
open SplitDns.AddressSet
open SplitDns.Dns
open SplitDns.Exchange
open SplitDns.Listener

variable {Network Sets : Type}

/-- Resolves queries in order and collects their replies. -/
def resolveAll (transport : Transport Network) (backend : Backend Sets) :
    List (Routing × Request) → Network × Knowledge Sets →
      List (Option Octets) × Network × Knowledge Sets
  | [], state => ([], state)
  | (routing, request) :: rest, state =>
      let (reply, state) := resolve routing transport backend request state
      let (replies, state) := resolveAll transport backend rest state
      (reply :: replies, state)

/-- The resolver that a query is for, by the name of its first question. -/
inductive Routing.SendsTo (routing : Routing) (query : Message) : Socket → Prop where
  | toClass {question : Question} {others : List Question} {index : Nat} {resolver : Socket}
      (asked : query.questions = question :: others)
      (routed : routing.patterns.classify question.name.key = .proxied index)
      (assigned : routing.classResolvers[index]? = some resolver) :
      SendsTo routing query resolver
  /-- A class without a resolver of its own. -/
  | unassigned {question : Question} {others : List Question} {index : Nat}
      (asked : query.questions = question :: others)
      (routed : routing.patterns.classify question.name.key = .proxied index)
      (missing : routing.classResolvers[index]? = none) :
      SendsTo routing query routing.defaultResolver
  | direct {question : Question} {others : List Question}
      (asked : query.questions = question :: others)
      (routed : routing.patterns.classify question.name.key = .direct) :
      SendsTo routing query routing.defaultResolver
  | unasked (empty : query.questions = []) : SendsTo routing query routing.defaultResolver

/-- The exchanges of one query: all with the resolver it is for, and all with its own octets. -/
def Consults (asking : Routing × Request) (course : List Note) : Prop :=
  ∃ resolver answer, asking.1.SendsTo asking.2.message resolver ∧
    Forwards resolver asking.2.raw course answer

/-- The exchanges of each query of a run, which are all that are made in it. -/
structure Courses (transport : Transport Network) (backend : Backend Sets)
    (asked : List (Routing × Request)) (state : Network × Knowledge Sets)
    (courses : List (List Note)) : Prop where
  consults : List.Forall₂ Consults asked courses
  made : ∀ notes, resolveAll transport.noting backend asked ((state.1, notes), state.2) =
    ((resolveAll transport backend asked state).1,
      ((resolveAll transport backend asked state).2.1, notes ++ courses.flatten),
      (resolveAll transport backend asked state).2.2)

/-! ### One query -/

theorem sendsTo_resolver (routing : Routing) (query : Message) :
    routing.SendsTo query
      (routing.resolver (routing.patterns.classify (questionName query))) := by
  cases asked : query.questions with
  | nil =>
      have unnamed : routing.patterns.classify (questionName query) = .direct := by
        simp only [questionName, asked]
        rfl
      rw [unnamed]
      exact .unasked asked
  | cons question others =>
      have name : questionName query = question.name.key := by
        simp only [questionName, asked]
        rfl
      rw [name]
      cases routed : routing.patterns.classify question.name.key with
      | direct => exact .direct asked routed
      | proxied index =>
          cases assigned : routing.classResolvers[index]? with
          | none =>
              simp only [Routing.resolver, Route.index?, Option.bind_some, assigned]
              exact .unassigned asked routed assigned
          | some resolver =>
              simp only [Routing.resolver, Route.index?, Option.bind_some, assigned]
              exact .toClass asked routed assigned

theorem network_resolve (routing : Routing) (transport : Transport Network)
    (backend : Backend Sets) (request : Request) (state : Network × Knowledge Sets) :
    (resolve routing transport backend request state).2.1 =
      (forward transport
        (routing.resolver (routing.patterns.classify (questionName request.message)))
        request.raw state.1).2 := by
  unfold resolve
  simp only
  split
  next equal => rw [equal]
  next equal => rw [equal]

/-- Taking notes changes neither the reply nor what is learned. -/
theorem exists_forwards_resolve (routing : Routing) (transport : Transport Network)
    (backend : Backend Sets) (request : Request) (state : Network × Knowledge Sets) :
    ∃ course,
      Forwards (routing.resolver (routing.patterns.classify (questionName request.message)))
        request.raw course (upstream routing transport request state.1) ∧
      ∀ notes, resolve routing transport.noting backend request ((state.1, notes), state.2) =
        ((resolve routing transport backend request state).1,
          ((resolve routing transport backend request state).2.1, notes ++ course),
          (resolve routing transport backend request state).2.2) := by
  obtain ⟨made, forwards, noted⟩ := exists_forwards transport
    (routing.resolver (routing.patterns.classify (questionName request.message))) request.raw
    state.1
  refine ⟨made, forwards, fun notes => ?_⟩
  have same : upstream routing transport.noting request (state.1, notes) =
      upstream routing transport request state.1 := by
    rw [upstream, noted, upstream]
  -- Reply and knowledge depend on the transport through what forwarding comes to only.
  refine Prod.ext ?_ (Prod.ext ?_ ?_)
  · rw [reply_of_upstream, reply_of_upstream, same]
  · rw [network_resolve, network_resolve, noted]
  · rw [knowledge_of_upstream, knowledge_of_upstream, same]

theorem exists_course (routing : Routing) (transport : Transport Network) (backend : Backend Sets)
    (request : Request) (state : Network × Knowledge Sets) :
    ∃ course, Consults (routing, request) course ∧ ∀ notes,
      resolve routing transport.noting backend request ((state.1, notes), state.2) =
        ((resolve routing transport backend request state).1,
          ((resolve routing transport backend request state).2.1, notes ++ course),
          (resolve routing transport backend request state).2.2) := by
  obtain ⟨course, forwards, noted⟩ :=
    exists_forwards_resolve routing transport backend request state
  exact ⟨course, ⟨_, _, sendsTo_resolver routing request.message, forwards⟩, noted⟩

/-! ### Runs -/

theorem resolveAll_cons (transport : Transport Network) (backend : Backend Sets)
    (routing : Routing) (request : Request) (rest : List (Routing × Request))
    (state : Network × Knowledge Sets) :
    resolveAll transport backend ((routing, request) :: rest) state =
      ((resolve routing transport backend request state).1 ::
          (resolveAll transport backend rest
            (resolve routing transport backend request state).2).1,
        (resolveAll transport backend rest
          (resolve routing transport backend request state).2).2) := rfl

theorem exists_courses (transport : Transport Network) (backend : Backend Sets)
    (asked : List (Routing × Request)) (state : Network × Knowledge Sets) :
    ∃ courses, Courses transport backend asked state courses := by
  induction asked generalizing state with
  | nil => exact ⟨[], .nil, fun notes => by rw [List.flatten_nil, List.append_nil]; rfl⟩
  | cons asking rest inductionHypothesis =>
      obtain ⟨routing, request⟩ := asking
      obtain ⟨course, consults, noted⟩ := exists_course routing transport backend request state
      obtain ⟨courses, others⟩ :=
        inductionHypothesis (resolve routing transport backend request state).2
      refine ⟨course :: courses, .cons consults others.consults, fun notes => ?_⟩
      rw [resolveAll_cons, resolveAll_cons, noted, others.made, List.flatten_cons,
        List.append_assoc]

/-- What every exchange keeps is kept by a run. -/
theorem resolveAll_keeps {transport : Transport Network} (Keeps : Network → Prop)
    (step : ∀ protocol resolver query network, Keeps network →
      Keeps (transport protocol resolver query network).2)
    (backend : Backend Sets) (asked : List (Routing × Request))
    {state : Network × Knowledge Sets} (kept : Keeps state.1) :
    Keeps (resolveAll transport backend asked state).2.1 := by
  induction asked generalizing state with
  | nil => exact kept
  | cons asking rest inductionHypothesis =>
      rw [resolveAll_cons]
      apply inductionHypothesis
      rw [network_resolve]
      exact forward_keeps transport _ _ _ step kept

/-- The exchanges of a run take one reply each off a script. -/
theorem Courses.spends {backend : Backend Sets} {asked : List (Routing × Request)}
    {script : Script} {knowledge : Knowledge Sets} {courses : List (List Note)}
    (all : Courses Script.transport backend asked (script, knowledge) courses) :
    script.Spends courses.flatten
      (resolveAll Script.transport backend asked (script, knowledge)).2.1 := by
  have kept : script.Spends
      (resolveAll Script.transport.noting backend asked ((script, []), knowledge)).2.1.2
      (resolveAll Script.transport.noting backend asked ((script, []), knowledge)).2.1.1 :=
    resolveAll_keeps (fun noted : Script × List Note => script.Spends noted.2 noted.1)
      (fun protocol resolver query _ spends => spends.transport protocol resolver query _)
      backend asked (.refl script)
  rwa [all.made, List.nil_append] at kept

/-- Every query has one datagram, and those with a second exchange have one on a stream. -/
theorem Consults.countP {asking : Routing × Request} {course : List Note}
    (consults : Consults asking course) :
    (course.countP fun note => note.call.protocol = .udp) = 1 ∧
      (course.countP fun note => note.call.protocol = .tcp) =
        if course.length = 2 then 1 else 0 := by
  obtain ⟨_, _, _, forwards⟩ := consults
  cases forwards with
  | settled => exact ⟨rfl, rfl⟩
  | retried => exact ⟨rfl, rfl⟩

theorem countP_flatten_courses {asked : List (Routing × Request)} {courses : List (List Note)}
    (consults : List.Forall₂ Consults asked courses) :
    (courses.flatten.countP fun note => note.call.protocol = .udp) = asked.length ∧
      (courses.flatten.countP fun note => note.call.protocol = .tcp) =
        courses.countP fun course => course.length = 2 := by
  induction consults with
  | nil => exact ⟨rfl, rfl⟩
  | cons first _ inductionHypothesis =>
      obtain ⟨datagrams, streams⟩ := first.countP
      rw [List.flatten_cons, List.countP_append, List.countP_append, List.countP_cons, datagrams,
        streams, inductionHypothesis.1, inductionHypothesis.2, List.length_cons]
      simp [Nat.add_comm]

/--
A query is put to the resolver it is for in one datagram, and in one exchange on a stream exactly if
the datagram failed, held no message or a truncated one; the last exchange gives the answer. In a
run of queries these are all exchanges that are made, so a script gives up one datagram for each
query and one stream for each that was put again.
-/
theorem resolveAll_consults (backend : Backend Sets) (asked : List (Routing × Request)) :
    (∀ (transport : Transport Network) (resolver : Socket) (query : Octets) (network : Network),
      ∃ made, Forwards resolver query made (forward transport resolver query network).1 ∧
        ∀ notes, forward transport.noting resolver query (network, notes) =
          ((forward transport resolver query network).1,
            (forward transport resolver query network).2, notes ++ made)) ∧
    (∀ (transport : Transport Network) (state : Network × Knowledge Sets),
      ∃ courses, Courses transport backend asked state courses) ∧
    ∀ (script : Script) (knowledge : Knowledge Sets), ∃ courses,
      Courses Script.transport backend asked (script, knowledge) courses ∧
        ∃ after, (resolveAll Script.transport backend asked (script, knowledge)).2.1 = after ∧
          after.udp = script.udp.drop asked.length ∧
          after.tcp = script.tcp.drop (courses.countP fun course => course.length = 2) ∧
          after.calls = script.calls ++ courses.flatten.map Note.call := by
  refine ⟨exists_forwards, fun transport state => exists_courses transport backend asked state, ?_⟩
  intro script knowledge
  obtain ⟨courses, all⟩ := exists_courses Script.transport backend asked (script, knowledge)
  obtain ⟨datagrams, streams⟩ := countP_flatten_courses all.consults
  have spends := all.spends
  refine ⟨courses, all, _, rfl, ?_, ?_, spends.calls⟩
  · rw [← datagrams]
    exact spends.replies .udp
  · rw [← streams]
    exact spends.replies .tcp

end SplitDns.Query
