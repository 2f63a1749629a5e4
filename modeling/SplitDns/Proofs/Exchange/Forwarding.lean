import SplitDns.Exchange.Script

/-!
# Exchanges of a forwarded query

A query is put to its resolver in a datagram, and then on a stream unless what came back in a
datagram settles the matter. `exists_forwards` says which exchanges are made and that the last one
decides; a script gives up one reply for each of them.
-/

namespace SplitDns.Exchange

open SplitDns.Address
open SplitDns.Dns

variable {Network : Type}

/-- An exchange that was made, with what came of it. -/
structure Note where
  call : Call
  outcome : Except Error Octets

/-- The transport with a log of the exchanges that are made. -/
def Transport.noting (transport : Transport Network) : Transport (Network × List Note) :=
  fun protocol resolver query (network, notes) =>
    let (outcome, network) := transport protocol resolver query network
    (outcome, network, notes ++ [⟨⟨protocol, resolver, query⟩, outcome⟩])

/-- What comes of a datagram that leaves the matter to a stream. -/
inductive Unsettled : Except Error Octets → Prop where
  | failed (cause : Error) : Unsettled (.error cause)
  | undecodable {raw : Octets} (garbage : Message.decode? raw = none) : Unsettled (.ok raw)
  | truncated {raw : Octets} {message : Message} (decoded : Message.decode? raw = some message)
      (marked : message.header.truncated = true) : Unsettled (.ok raw)

/-- The answer that an exchange gives when it is the last one. -/
inductive Gives (protocol : Protocol) (resolver : Socket) :
    Except Error Octets → Except Error Answer → Prop where
  | failed (cause : Error) : Gives protocol resolver (.error cause) (.error cause)
  | undecodable {raw : Octets} (garbage : Message.decode? raw = none) :
      Gives protocol resolver (.ok raw) (.error (.failure (.undecodable protocol resolver)))
  | answered {raw : Octets} {message : Message} (decoded : Message.decode? raw = some message) :
      Gives protocol resolver (.ok raw) (.ok ⟨protocol, raw, message⟩)

/-- The exchanges that a query leads to, with the answer. -/
inductive Forwards (resolver : Socket) (query : Octets) :
    List Note → Except Error Answer → Prop where
  | settled {outcome : Except Error Octets} {answer : Except Error Answer}
      (usable : ¬Unsettled outcome) (given : Gives .udp resolver outcome answer) :
      Forwards resolver query [⟨⟨.udp, resolver, query⟩, outcome⟩] answer
  | retried {first second : Except Error Octets} {answer : Except Error Answer}
      (unsettled : Unsettled first) (given : Gives .tcp resolver second answer) :
      Forwards resolver query
        [⟨⟨.udp, resolver, query⟩, first⟩, ⟨⟨.tcp, resolver, query⟩, second⟩] answer

/-! ### One query -/

theorem attempt_eq (transport : Transport Network) (protocol : Protocol) (resolver : Socket)
    (query : Octets) (network : Network) :
    attempt transport protocol resolver query network =
      ((transport protocol resolver query network).1.bind (readAnswer protocol resolver),
        (transport protocol resolver query network).2) := rfl

theorem gives_bind_readAnswer (protocol : Protocol) (resolver : Socket)
    (outcome : Except Error Octets) :
    Gives protocol resolver outcome (outcome.bind (readAnswer protocol resolver)) := by
  cases outcome with
  | error cause => exact .failed cause
  | ok raw =>
      cases decoded : Message.decode? raw with
      | none =>
          simp only [Except.bind, readAnswer, decoded]
          exact .undecodable decoded
      | some message =>
          simp only [Except.bind, readAnswer, decoded]
          exact .answered decoded

theorem settles_iff (protocol : Protocol) (resolver : Socket) (outcome : Except Error Octets) :
    settles (outcome.bind (readAnswer protocol resolver)) = true ↔ ¬Unsettled outcome := by
  cases outcome with
  | error cause => exact iff_of_false Bool.false_ne_true fun usable => usable (.failed cause)
  | ok raw =>
      cases decoded : Message.decode? raw with
      | none =>
          simp only [Except.bind, readAnswer, decoded]
          exact iff_of_false Bool.false_ne_true fun usable => usable (.undecodable decoded)
      | some message =>
          simp only [Except.bind, readAnswer, decoded, settles, Bool.not_eq_true']
          constructor
          · intro unmarked unsettled
            cases unsettled with
            | undecodable garbage =>
                rw [decoded] at garbage
                cases garbage
            | truncated again marked =>
                rw [decoded, Option.some.injEq] at again
                rw [again, marked] at unmarked
                cases unmarked
          · intro usable
            exact Bool.eq_false_iff.mpr fun marked => usable (.truncated decoded marked)

section

variable (transport : Transport Network) (resolver : Socket) (query : Octets) (network : Network)

theorem forward_of_settled (usable : ¬Unsettled (transport .udp resolver query network).1) :
    forward transport resolver query network = attempt transport .udp resolver query network := by
  have settled := (settles_iff .udp resolver _).mpr usable
  simp only [forward, attempt_eq, settled, if_true]

theorem forward_of_unsettled (unsettled : Unsettled (transport .udp resolver query network).1) :
    forward transport resolver query network =
      attempt transport .tcp resolver query (transport .udp resolver query network).2 := by
  have unanswered := mt (settles_iff .udp resolver _).mp (not_not_intro unsettled)
  simp only [forward, attempt_eq, unanswered]
  rfl

/-- A query leads to one or two exchanges, and the last one gives the answer. -/
theorem exists_forwards :
    ∃ made, Forwards resolver query made (forward transport resolver query network).1 ∧
      ∀ notes, forward transport.noting resolver query (network, notes) =
        ((forward transport resolver query network).1,
          (forward transport resolver query network).2, notes ++ made) := by
  by_cases unsettled : Unsettled (transport .udp resolver query network).1
  · rw [forward_of_unsettled transport resolver query network unsettled]
    refine ⟨_, .retried unsettled (gives_bind_readAnswer .tcp resolver _), fun notes => ?_⟩
    rw [forward_of_unsettled transport.noting resolver query (network, notes) unsettled,
      attempt_eq]
    simp only [Transport.noting, List.append_assoc]
    rfl
  · rw [forward_of_settled transport resolver query network unsettled]
    refine ⟨_, .settled unsettled (gives_bind_readAnswer .udp resolver _), fun notes => ?_⟩
    exact forward_of_settled transport.noting resolver query (network, notes) unsettled

/-- What every exchange keeps is kept by all exchanges of a query. -/
theorem forward_keeps {Keeps : Network → Prop}
    (step : ∀ protocol resolver query network, Keeps network →
      Keeps (transport protocol resolver query network).2)
    (kept : Keeps network) : Keeps (forward transport resolver query network).2 := by
  have first := step .udp resolver query network kept
  by_cases unsettled : Unsettled (transport .udp resolver query network).1
  · rw [forward_of_unsettled transport resolver query network unsettled]
    exact step .tcp resolver query _ first
  · rw [forward_of_settled transport resolver query network unsettled]
    exact first

end

/-! ### Scripts -/

namespace Script

/-- The script after exchanges, one reply of the protocol used up by each. -/
structure Spends (script : Script) (notes : List Note) (after : Script) : Prop where
  replies : ∀ protocol, after.replies protocol =
    (script.replies protocol).drop (notes.countP fun note => note.call.protocol = protocol)
  responder : after.responder = script.responder
  calls : after.calls = script.calls ++ notes.map Note.call

theorem Spends.refl (script : Script) : script.Spends [] script where
  replies _ := rfl
  responder := rfl
  calls := (List.append_nil _).symm

theorem transport_snd (protocol : Protocol) (resolver : Socket) (query : Octets)
    (script : Script) :
    (transport protocol resolver query script).2 =
      setReplies { script with calls := script.calls ++ [Call.mk protocol resolver query] } protocol
        (script.replies protocol).tail := by
  obtain ⟨udp, tcp, responder, calls⟩ := script
  cases protocol with
  | udp => cases udp <;> rfl
  | tcp => cases tcp <;> rfl

@[simp]
theorem responder_setReplies (script : Script) (protocol : Protocol) (replies : List Reply) :
    (script.setReplies protocol replies).responder = script.responder := by
  cases protocol <;> rfl

@[simp]
theorem calls_setReplies (script : Script) (protocol : Protocol) (replies : List Reply) :
    (script.setReplies protocol replies).calls = script.calls := by
  cases protocol <;> rfl

theorem replies_setReplies (script : Script) (protocol other : Protocol) (replies : List Reply) :
    (script.setReplies protocol replies).replies other =
      if protocol = other then replies else script.replies other := by
  cases protocol <;> cases other <;> rfl

theorem Spends.transport {script after : Script} {notes : List Note}
    (spends : script.Spends notes after) (protocol : Protocol) (resolver : Socket)
    (query : Octets) (outcome : Except Error Octets) :
    script.Spends (notes ++ [⟨⟨protocol, resolver, query⟩, outcome⟩])
      (Script.transport protocol resolver query after).2 where
  replies other := by
    have logged (calls : List Call) : Script.replies { after with calls := calls } other =
        (script.replies other).drop (notes.countP fun note => note.call.protocol = other) := by
      rw [← spends.replies other]
      cases other <;> rfl
    rw [transport_snd, replies_setReplies, List.countP_append, List.countP_singleton, logged]
    by_cases same : protocol = other
    · subst same
      simp [spends.replies]
    · simp [same]
  responder := by
    rw [transport_snd, responder_setReplies, spends.responder]
  calls := by
    rw [transport_snd, calls_setReplies, spends.calls]
    simp

end Script

end SplitDns.Exchange
