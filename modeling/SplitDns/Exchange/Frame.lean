import SplitDns.Exchange.Error

/-!
# Frames on a stream

On a stream every message stands after its length in two octets. A stream arrives in chunks of
any size; reading a frame takes exactly its octets. A stream that ends before a frame begins, or
inside the length of one, counts as closed.
-/

namespace SplitDns.Exchange

/-- The length of a message header, and so the shortest message. -/
def headerLength : Nat := 12

/-- The longest message that a frame holds. -/
def maxFrame : Nat := 65535

/-- What comes after the octets of a stream. -/
inductive Ending where
  | closed
  /-- The peer keeps the connection open and sends nothing more. -/
  | silent
  deriving DecidableEq

/-- The octets that are still to arrive, in the chunks in which they arrive. -/
structure Stream where
  chunks : List Octets
  ending : Ending

def Stream.octets (stream : Stream) : Octets :=
  stream.chunks.flatten

/-- Takes exactly `count` octets off a list of chunks. -/
def takeExact? (count : Nat) : List Octets → Option (Octets × List Octets)
  | [] => if count = 0 then some ([], []) else none
  | chunk :: chunks =>
      if count ≤ chunk.length then some (chunk.take count, chunk.drop count :: chunks)
      else
        (takeExact? (count - chunk.length) chunks).map fun taken => (chunk ++ taken.1, taken.2)

inductive FrameRead where
  | frame (message : Octets) (rest : Stream)
  | closed
  | failed (cause : Failure)
  /-- The octets that are missing never come. -/
  | silent

/-- What it means that octets are missing, where the end of the stream means `ended`. -/
def missing (stream : Stream) (ended : FrameRead) : FrameRead :=
  match stream.ending with
  | .closed => ended
  | .silent => .silent

/-- Reads the message of a frame whose length was read. -/
def readBody (length : Nat) (stream : Stream) : FrameRead :=
  if length < headerLength then .failed (.frameTooShort length)
  else
    match takeExact? length stream.chunks with
    | some (message, chunks) => .frame message { stream with chunks := chunks }
    | none => missing stream (.failed (.streamRead .earlyEof))

def readFrame (stream : Stream) : FrameRead :=
  match takeExact? 2 stream.chunks with
  | some ([high, low], chunks) => readBody (word16 high low).toNat { stream with chunks := chunks }
  | _ => missing stream .closed

theorem length_takeExact? {count : Nat} {chunks rest : List Octets} {taken : Octets}
    (found : takeExact? count chunks = some (taken, rest)) :
    taken.length = count ∧ chunks.flatten = taken ++ rest.flatten := by
  induction chunks generalizing count taken with
  | nil =>
      unfold takeExact? at found
      split at found
      · simp only [Option.some.injEq, Prod.mk.injEq] at found
        obtain ⟨rfl, rfl⟩ := found
        simp_all
      · cases found
  | cons chunk chunks inductionHypothesis =>
      unfold takeExact? at found
      split at found
      · simp only [Option.some.injEq, Prod.mk.injEq] at found
        obtain ⟨rfl, rfl⟩ := found
        refine ⟨by simp; omega, ?_⟩
        rw [List.flatten_cons, List.flatten_cons, ← List.append_assoc, List.take_append_drop]
      · obtain ⟨⟨front, back⟩, later, equal⟩ := Option.map_eq_some_iff.mp found
        simp only [Prod.mk.injEq] at equal
        obtain ⟨rfl, rfl⟩ := equal
        have inner := inductionHypothesis later
        refine ⟨by rw [List.length_append, inner.1]; omega, ?_⟩
        rw [List.flatten_cons, inner.2, List.append_assoc]

/-- A frame that was read takes its length off the stream. -/
theorem length_readFrame {stream rest : Stream} {message : Octets}
    (found : readFrame stream = .frame message rest) :
    rest.octets.length < stream.octets.length := by
  unfold readFrame at found
  split at found
  next high low chunks first =>
    have head := length_takeExact? first
    unfold readBody at found
    split at found
    · cases found
    · split at found
      next body others second =>
        have tail := length_takeExact? second
        cases found
        simp only [Stream.octets]
        rw [head.2]
        simp only at tail
        rw [tail.2]
        simp only [List.length_append, List.length_cons]
        omega
      · unfold missing at found
        split at found <;> cases found
  · unfold missing at found
    split at found <;> cases found

/-- The octets of a frame; a message that is too long has none. -/
def frame? (message : Octets) : Except Failure Octets :=
  if maxFrame < message.length then .error (.frameTooLong message.length)
  else .ok (octets16 (UInt16.ofNat message.length) ++ message)

end SplitDns.Exchange
