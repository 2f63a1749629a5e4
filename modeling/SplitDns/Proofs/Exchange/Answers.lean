import SplitDns.Exchange.Network

/-!
# Answers in datagrams

A datagram answers a query when it comes from the resolver, is no shorter than a header and begins
with the id of the query. All datagrams are received into one buffer, and those that are discarded
leave nothing behind in what is returned. `exchangeBy_returns_answer` says that an exchange
returns the first answer, cut to the size of the buffer, and otherwise ends with the wait.
-/

namespace SplitDns.Exchange

open SplitDns.Address

variable {resolver : Socket} {query buffer : Octets} {datagram : Datagram}

/-- The datagram answers a query that was sent to the resolver. -/
structure Datagram.Answers (datagram : Datagram) (resolver : Socket) (query : Octets) : Prop where
  source : datagram.source = resolver
  whole : headerLength ≤ datagram.octets.length
  id : datagram.octets.take 2 = query.take 2

instance : Decidable (datagram.Answers resolver query) :=
  decidable_of_iff
    (datagram.source = resolver ∧ headerLength ≤ datagram.octets.length ∧
      datagram.octets.take 2 = query.take 2)
    ⟨fun parts => ⟨parts.1, parts.2.1, parts.2.2⟩, fun answers => ⟨answers.1, answers.2, answers.3⟩⟩

theorem receive_snd (buffer : Octets) (datagram : Datagram) :
    (receive buffer datagram).2 = min bufferSize datagram.octets.length :=
  List.length_take

/-- What was in the buffer before does not show in the octets that were received. -/
theorem take_receive {count : Nat} (received : count ≤ (receive buffer datagram).2) :
    (receive buffer datagram).1.take count = datagram.octets.take count := by
  rw [receive_snd] at received
  have inside : count ≤ (datagram.octets.take bufferSize).length := by
    rw [List.length_take]
    exact received
  rw [receive, List.take_append_of_le_length inside, List.take_take]
  rw [Nat.min_eq_left (Nat.le_trans received (Nat.min_le_left _ _))]

theorem take_receive_snd (buffer : Octets) (datagram : Datagram) :
    (receive buffer datagram).1.take (receive buffer datagram).2 =
      datagram.octets.take bufferSize := by
  rw [take_receive (Nat.le_refl _), receive_snd, ← List.take_eq_take_min]

/-- The test of the buffer is a test of the datagram alone. -/
theorem accepted_iff (buffer : Octets) :
    (datagram.source = resolver ∧ headerLength ≤ (receive buffer datagram).2 ∧
        (receive buffer datagram).1.take 2 = query.take 2) ↔
      datagram.Answers resolver query := by
  have room : headerLength ≤ bufferSize := by decide
  have whole : headerLength ≤ (receive buffer datagram).2 ↔
      headerLength ≤ datagram.octets.length := by
    rw [receive_snd, Nat.le_min]
    exact and_iff_right room
  have id (long : headerLength ≤ (receive buffer datagram).2) :
      (receive buffer datagram).1.take 2 = datagram.octets.take 2 :=
    take_receive (Nat.le_trans (by decide) long)
  constructor
  · rintro ⟨source, long, same⟩
    exact ⟨source, whole.mp long, (id long).symm.trans same⟩
  · rintro ⟨source, long, same⟩
    have received := whole.mpr long
    exact ⟨source, received, (id received).trans same⟩

theorem awaitAnswer_cons (limit : Duration) (others : List (Except IoError Datagram)) :
    awaitAnswer resolver (query.take 2) limit buffer (.ok datagram :: others) =
      if datagram.Answers resolver query then .ok (datagram.octets.take bufferSize)
      else awaitAnswer resolver (query.take 2) limit (receive buffer datagram).1 others := by
  rw [awaitAnswer]
  simp only [accepted_iff, take_receive_snd]

/-- The wait ends with the first answer, whatever the buffer holds at its begin. -/
theorem awaitAnswer_arrivals (limit : Duration) (buffer : Octets) (arrivals : List Datagram) :
    awaitAnswer resolver (query.take 2) limit buffer (arrivals.map .ok) =
      match arrivals.find? (fun datagram => datagram.Answers resolver query) with
      | some datagram => .ok (datagram.octets.take bufferSize)
      | none => .error (.timeout (.datagram resolver limit)) := by
  induction arrivals generalizing buffer with
  | nil => rfl
  | cons datagram others inductionHypothesis =>
      rw [List.map_cons, awaitAnswer_cons, List.find?_cons]
      by_cases answers : datagram.Answers resolver query
      · rw [if_pos answers, decide_eq_true answers]
      · rw [if_neg answers, decide_eq_false answers]
        exact inductionHypothesis _

/--
A query that is shorter than a header is refused before any call of the host. Any other one is sent
once, as it is, and the first datagram that answers it is returned, with its own octets as far as
the buffer goes; when none does, the wait runs out.
-/
theorem exchangeBy_returns_answer (limits : Timeouts) (resolver : Socket) (query : Octets) :
    (query.length < 12 → ∀ calls,
      exchangeBy calls limits resolver query = ([], .error (.failure .queryTooShort))) ∧
    (12 ≤ query.length → ∀ arrivals : List Datagram,
      exchangeBy ⟨.done, .done, arrivals.map .ok⟩ limits resolver query =
        ([(resolver, query)],
          match arrivals.find? (fun datagram => datagram.Answers resolver query) with
          | some datagram => .ok (datagram.octets.take 4096)
          | none => .error (.timeout (.datagram resolver limits.read)))) := by
  constructor
  · intro short calls
    have refused : query.length < headerLength := short
    rw [exchangeBy, if_pos refused]
  · intro long arrivals
    have taken : ¬ query.length < headerLength := Nat.not_lt.mpr long
    rw [exchangeBy, if_neg taken]
    simp only [awaitAnswer_arrivals]
    rfl

/-- Forged, short and stale datagrams come before the answer, and a second answer after it. -/
theorem exchangeBy_returns_answer_late :
    let resolver : Socket := .v4 ⟨192, 0, 2, 53⟩ 53
    let query : Octets := [0x12, 0x34, 1, 0, 0, 0, 0, 0, 0, 0, 0, 0]
    let forged : Datagram := ⟨.v4 ⟨192, 0, 2, 53⟩ 54, query ++ [1, 2, 3]⟩
    let short : Datagram := ⟨resolver, [0x12, 0x34, 4]⟩
    let stale : Datagram := ⟨resolver, [0x99, 0x99, 0x81, 0, 0, 0, 0, 0, 0, 0, 0, 0, 5, 6]⟩
    let answer : Datagram := ⟨resolver, [0x12, 0x34, 0x81, 0, 0, 0, 0, 0, 0, 0, 0, 0, 7]⟩
    12 ≤ query.length ∧
      exchangeBy ⟨.done, .done, [forged, short, stale, answer, ⟨resolver, query⟩].map .ok⟩ .standard
        resolver query = ([(resolver, query)], .ok answer.octets) ∧
      (query.take 11).length < 12 ∧
      exchangeBy ⟨.done, .done, [.ok answer]⟩ .standard resolver (query.take 11) =
        ([], .error (.failure .queryTooShort)) := by
  intro resolver query forged short stale answer
  refine ⟨by decide, ?_, by decide, ?_⟩
  · exact (exchangeBy_returns_answer .standard resolver query).2 (by decide)
      [forged, short, stale, answer, ⟨resolver, query⟩]
  · exact (exchangeBy_returns_answer .standard resolver (query.take 11)).1 (by decide)
      ⟨.done, .done, [.ok answer]⟩

end SplitDns.Exchange
