import SplitDns.Listener.Serve
import SplitDns.Proofs.Exchange.Frames

/-!
# Queries on a connection

The frames of a connection are served in order: those that hold a message are put to the handler,
and its replies go out as frames, down to a reply that is too long for one. A frame without message
changes nothing. `serveConnection_replies` says so for every stream, and that no other request is
made of the handler.
-/

namespace SplitDns.Listener

open SplitDns.Address
open SplitDns.Dns
open SplitDns.Exchange

variable {State : Type}

namespace Handler

/-- The handler over a log of the requests that are made of it. -/
def noting (handler : Handler State) : Handler (State × List Request) :=
  fun request (state, requests) =>
    let (reply, state) := handler request state
    (reply, state, requests ++ [request])

/-- The replies to requests that are made one after another. -/
def replies (handler : Handler State) : List Request → State → List (Option Octets)
  | [], _ => []
  | request :: rest, state =>
      (handler request state).1 :: handler.replies rest (handler request state).2

/-- The state behind requests that are made one after another. -/
def after (handler : Handler State) (requests : List Request) (state : State) : State :=
  requests.foldl (fun state request => (handler request state).2) state

theorem after_cons (handler : Handler State) (request : Request) (rest : List Request)
    (state : State) :
    handler.after (request :: rest) state = handler.after rest (handler request state).2 := rfl

theorem replies_noting (handler : Handler State) (requests : List Request) (state : State)
    (noted : List Request) :
    handler.noting.replies requests (state, noted) = handler.replies requests state := by
  induction requests generalizing state noted with
  | nil => rfl
  | cons request rest inductionHypothesis =>
      rw [replies, replies]
      exact congrArg _ (inductionHypothesis _ _)

theorem after_noting (handler : Handler State) (requests : List Request) (state : State)
    (noted : List Request) :
    handler.noting.after requests (state, noted) =
      (handler.after requests state, noted ++ requests) := by
  induction requests generalizing state noted with
  | nil => simp [after]
  | cons request rest inductionHypothesis =>
      rw [after_cons, after_cons]
      exact (inductionHypothesis _ _).trans (by rw [List.append_assoc, List.singleton_append])

end Handler

/-- The requests that frames hold. -/
def requestsOf (source : Socket) (frames : List Octets) : List Request :=
  frames.filterMap fun raw => Request.parse? raw source .tcp

/-- There is no reply, or one that a frame holds. -/
def fitsReply (reply : Option Octets) : Bool :=
  reply.all fun octets => octets.length ≤ 65535

/-- The replies to requests, down to one that is too long. -/
def fitting (handler : Handler State) (requests : List Request) (state : State) :
    List (Option Octets) :=
  (handler.replies requests state).takeWhile fitsReply

/-- The requests that are made before the connection ends. -/
def handled (handler : Handler State) (requests : List Request) (state : State) : List Request :=
  requests.take ((fitting handler requests state).length + 1)

/-- The octets of replies that go out. -/
def sentFor (replies : List (Option Octets)) : Octets :=
  (replies.filterMap id).flatMap framed

variable {handler : Handler State} {source : Socket} {stream rest : Stream} {state : State}

/-! ### Requests one by one -/

theorem fitting_cons (request : Request) (others : List Request) :
    fitting handler (request :: others) state =
      if fitsReply (handler request state).1 then
        (handler request state).1 :: fitting handler others (handler request state).2
      else
        [] :=
  List.takeWhile_cons

theorem handled_cons (request : Request) (others : List Request) :
    handled handler (request :: others) state =
      request ::
        if fitsReply (handler request state).1 then
          handled handler others (handler request state).2
        else
          [] := by
  rw [handled, fitting_cons, List.take_succ_cons]
  split <;> rfl

theorem sentFor_cons (reply : Option Octets) (others : List (Option Octets)) :
    sentFor (reply :: others) = sentFor [reply] ++ sentFor others := by
  cases reply <;> simp [sentFor]

theorem serveFrame_of_fits {raw : Octets} {request : Request}
    (parsed : Request.parse? raw source .tcp = some request)
    (fits : fitsReply (handler request state).1 = true) :
    serveFrame handler source raw state =
      (.ok (sentFor [(handler request state).1]), (handler request state).2) := by
  simp only [serveFrame, parsed]
  cases replied : handler request state with
  | mk reply next =>
      rw [replied] at fits
      cases reply with
      | none => rfl
      | some octets =>
          have short : octets.length ≤ 65535 := of_decide_eq_true fits
          simp only [frame?_eq, if_pos short, sentFor, List.filterMap_cons, id, List.filterMap_nil,
            List.flatMap_singleton]

theorem serveFrame_of_long {raw : Octets} {request : Request}
    (parsed : Request.parse? raw source .tcp = some request)
    (long : ¬fitsReply (handler request state).1 = true) :
    ∃ cause, serveFrame handler source raw state = (.error cause, (handler request state).2) := by
  simp only [serveFrame, parsed]
  cases replied : handler request state with
  | mk reply next =>
      rw [replied] at long
      cases reply with
      | none => exact absurd rfl long
      | some octets =>
          have exceeds : ¬octets.length ≤ 65535 := fun short => long (decide_eq_true short)
          simp only [frame?_eq, if_neg exceeds]
          exact ⟨_, rfl⟩

/-! ### Frames one by one -/

theorem serveConnection_of_frame {raw : Octets} (found : readFrame stream = .frame raw rest) :
    serveConnection handler source stream state =
      match serveFrame handler source raw state with
      | (.error _, state) => ([], state)
      | (.ok sent, state) =>
          (sent ++ (serveConnection handler source rest state).1,
            (serveConnection handler source rest state).2) := by
  rw [serveConnection]
  split
  next other later again =>
    rw [found] at again
    cases again
    rfl
  next other => exact absurd found (other raw rest)

theorem serveConnection_of_end (ended : ∀ raw later, readFrame stream ≠ .frame raw later) :
    serveConnection handler source stream state = ([], state) := by
  rw [serveConnection]
  split
  next raw later found => exact absurd found (ended raw later)
  next => rfl

/-- The chunks of the stream are free in the induction: a frame may end inside of one. -/
theorem serveConnection_of_cuts {frames : List Octets} {octets tail : Octets}
    (cuts : Cuts octets frames tail) (whole : stream.octets = octets) :
    serveConnection handler source stream state =
      (sentFor (fitting handler (requestsOf source frames) state),
        handler.after (handled handler (requestsOf source frames) state) state) := by
  induction cuts generalizing stream state with
  | stop unreadable =>
      rw [← whole] at unreadable
      rw [serveConnection_of_end (readFrame_of_unreadable unreadable)]
      rfl
  | @frame message rest tail later fits _ inductionHypothesis =>
      obtain ⟨behind, found, behindOctets⟩ := readFrame_framed fits whole
      cases parsed : Request.parse? message source .tcp with
      | none =>
          have skipped : requestsOf source (message :: later) = requestsOf source later :=
            List.filterMap_cons_none parsed
          have empty : serveFrame handler source message state = (.ok [], state) := by
            simp only [serveFrame, parsed]
          simp only [serveConnection_of_frame found, empty, List.nil_append, skipped,
            inductionHypothesis behindOctets]
      | some request =>
          have asked : requestsOf source (message :: later) =
              request :: requestsOf source later :=
            List.filterMap_cons_some parsed
          rw [asked, fitting_cons, handled_cons, Handler.after_cons,
            serveConnection_of_frame found]
          by_cases fits : fitsReply (handler request state).1 = true
          · simp only [serveFrame_of_fits parsed fits, if_pos fits,
              inductionHypothesis behindOctets]
            rw [← sentFor_cons]
          · obtain ⟨cause, failed⟩ := serveFrame_of_long parsed fits
            simp only [failed, if_neg fits]
            rfl

theorem fitting_noting (requests noted : List Request) :
    fitting handler.noting requests (state, noted) = fitting handler requests state := by
  rw [fitting, Handler.replies_noting, fitting]

theorem handled_noting (requests noted : List Request) :
    handled handler.noting requests (state, noted) = handled handler requests state := by
  rw [handled, fitting_noting, handled]

/-- Each frame with a message makes a request of its own octets. -/
theorem raw_requestsOf (source : Socket) (frames : List Octets) :
    (requestsOf source frames).map Request.raw =
      frames.filter fun raw => (Message.decode? raw).isSome := by
  rw [requestsOf, List.map_filterMap, ← List.filterMap_eq_filter]
  congr 1
  funext raw
  cases decoded : Message.decode? raw <;> simp [Request.parse?, decoded, Option.guard]

/--
The octets of a connection are frames, down to its end, a length that is too short or a frame that
is cut off. The frames that hold a message are put to the handler one by one, each with its own
octets, and no other request is made; the replies go out in frames in the same order. A reply that
is too long for a frame ends the connection.
-/
theorem serveConnection_replies (handler : Handler State) (source : Socket) (stream : Stream)
    (state : State) :
    ∃ frames tail, Cuts stream.octets frames tail ∧
      (∀ others otherTail, Cuts stream.octets others otherTail →
        others = frames ∧ otherTail = tail) ∧
      ((requestsOf source frames).map Request.raw =
        frames.filter fun raw => (Message.decode? raw).isSome) ∧
      serveConnection handler source stream state =
        (sentFor (fitting handler (requestsOf source frames) state),
          handler.after (handled handler (requestsOf source frames) state) state) ∧
      ∀ noted, serveConnection handler.noting source stream (state, noted) =
        (sentFor (fitting handler (requestsOf source frames) state),
          handler.after (handled handler (requestsOf source frames) state) state,
          noted ++ handled handler (requestsOf source frames) state) := by
  obtain ⟨frames, tail, cuts⟩ := exists_cuts stream.octets
  refine ⟨frames, tail, cuts, fun _ _ again => cuts.unique again, raw_requestsOf source frames,
    serveConnection_of_cuts cuts rfl, fun noted => ?_⟩
  rw [serveConnection_of_cuts cuts rfl, fitting_noting, handled_noting, Handler.after_noting]

end SplitDns.Listener
