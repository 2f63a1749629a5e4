import SplitDns.Proofs.Exchange.Frames

/-!
# Messages across a stream

Messages are written to a stream one after another, and a stream is read message by message until a
reading gives none. `readFrames_returns_written` says that what was written arrives, and
`tellsBreaks_iff` what the last reading tells of the octets at the end: a stream that breaks off
behind one octet of a length passes for one that was closed.
-/

namespace SplitDns.Exchange

variable {State : Type} {octets message tail : Octets} {messages frames : List Octets}
  {stream later : Stream} {chunks : List Octets} {last : FrameRead}

/-! ### Writing -/

/-- What takes octets, all of them or with a failure. -/
abbrev Sink (State : Type) :=
  Octets → State → Except IoError Unit × State

/-- Writes a message in a frame. -/
def writeFrame (sink : Sink State) (message : Octets) (state : State) :
    Except Failure Unit × State :=
  match frame? message with
  | .error cause => (.error cause, state)
  | .ok octets =>
      let (result, state) := sink octets state
      (result.mapError .streamWrite, state)

/-- Writes messages in frames, down to one that cannot be written. -/
def writeFrames (sink : Sink State) : List Octets → State → Except Failure Unit × State
  | [], state => (.ok (), state)
  | message :: rest, state =>
      match writeFrame sink message state with
      | (.error cause, state) => (.error cause, state)
      | (.ok (), state) => writeFrames sink rest state

/-- Keeps all octets. -/
def buffer : Sink Octets :=
  fun octets written => (.ok (), written ++ octets)

theorem writeFrame_of_long (long : 65535 < message.length) (sink : Sink State) (state : State) :
    writeFrame sink message state = (.error (.frameTooLong message.length), state) := by
  simp only [writeFrame, frame?_eq, if_neg (Nat.not_le.mpr long)]

theorem writeFrame_of_le (short : message.length ≤ 65535) (sink : Sink State) (state : State) :
    writeFrame sink message state =
      ((sink (framed message) state).1.mapError .streamWrite, (sink (framed message) state).2) := by
  simp only [writeFrame, frame?_eq, if_pos short]

theorem writeFrames_buffer (fits : ∀ message ∈ messages, FitsFrame message) (written : Octets) :
    writeFrames buffer messages written = (.ok (), written ++ messages.flatMap framed) := by
  induction messages generalizing written with
  | nil => simp [writeFrames]
  | cons message rest inductionHypothesis =>
      have here : writeFrame buffer message written = (.ok (), written ++ framed message) :=
        writeFrame_of_le (fits message List.mem_cons_self).2 buffer written
      have later := inductionHypothesis
        (fun other found => fits other (List.mem_cons_of_mem message found))
        (written ++ framed message)
      simp only [writeFrames, here, later, List.flatMap_cons, List.append_assoc]

/-! ### Reading -/

/-- Reads frames until a reading gives none: the messages, and what came of the last reading. -/
def readFrames (stream : Stream) : List Octets × FrameRead :=
  match found : readFrame stream with
  | .frame message rest =>
      have _shorter := length_readFrame found
      let (messages, last) := readFrames rest
      (message :: messages, last)
  | last => ([], last)
  termination_by stream.octets.length

theorem readFrames_of_frame (found : readFrame stream = .frame message later) :
    readFrames stream = (message :: (readFrames later).1, (readFrames later).2) := by
  rw [readFrames]
  split
  next other rest again =>
    rw [found] at again
    cases again
    rfl
  next none => exact absurd found (none message later)

theorem readFrames_of_unreadable (unreadable : Unreadable stream.octets) :
    readFrames stream = ([], readFrame stream) := by
  rw [readFrames]
  split
  next message later found => exact absurd found (readFrame_of_unreadable unreadable message later)
  next => rfl

/-- What comes after the octets does not depend on how many of them are read. -/
theorem ending_of_readFrame (found : readFrame stream = .frame message later) :
    later.ending = stream.ending := by
  unfold readFrame at found
  split at found
  · unfold readBody at found
    split at found
    · cases found
    · split at found
      · cases found
        rfl
      · exact absurd found (not_frame_missing fun equal => by cases equal)
  · exact absurd found (not_frame_missing fun equal => by cases equal)

theorem Cuts.unreadable (cuts : Cuts octets frames tail) : Unreadable tail := by
  induction cuts with
  | stop unreadable => exact unreadable
  | frame _ _ inductionHypothesis => exact inductionHypothesis

theorem Cuts.eq_append (cuts : Cuts octets frames tail) :
    octets = frames.flatMap framed ++ tail := by
  induction cuts with
  | stop => rfl
  | frame _ _ inductionHypothesis =>
      rw [List.flatMap_cons, List.append_assoc, ← inductionHypothesis]

theorem cuts_flatMap (fits : ∀ message ∈ messages, FitsFrame message) :
    Cuts (messages.flatMap framed) messages [] := by
  induction messages with
  | nil => exact .stop .empty
  | cons message rest inductionHypothesis =>
      exact .frame (fits message List.mem_cons_self)
        (inductionHypothesis fun other found => fits other (List.mem_cons_of_mem message found))

/-- A stream is read frame by frame, and the last reading is one of what is no frame. -/
theorem readFrames_of_cuts (cuts : Cuts octets frames tail) (joined : stream.octets = octets) :
    ∃ rest : Stream, rest.octets = tail ∧ rest.ending = stream.ending ∧
      readFrames stream = (frames, readFrame rest) := by
  induction cuts generalizing stream with
  | stop unreadable =>
      exact ⟨stream, joined, rfl, readFrames_of_unreadable (joined ▸ unreadable)⟩
  | frame fits _ inductionHypothesis =>
      obtain ⟨later, found, laterOctets⟩ := readFrame_framed fits joined
      obtain ⟨rest, restOctets, ending, read⟩ := inductionHypothesis laterOctets
      refine ⟨rest, restOctets, ending.trans (ending_of_readFrame found), ?_⟩
      rw [readFrames_of_frame found, read]

/-! ### The end of a stream -/

/-- What a reading tells of octets that are no frame, where the stream ends behind them. -/
inductive Tells : Octets → FrameRead → Prop where
  | none : Tells [] .closed
  | single (octet : UInt8) : Tells [octet] .closed
  | short {high low : UInt8} (rest : Octets) (below : (word16 high low).toNat < 12) :
      Tells (high :: low :: rest) (.failed (.frameTooShort (word16 high low).toNat))
  | cutOff {high low : UInt8} {rest : Octets} (long : 12 ≤ (word16 high low).toNat)
      (missing : rest.length < (word16 high low).toNat) :
      Tells (high :: low :: rest) (.failed (.streamRead .earlyEof))

theorem takeExact?_of_lt {count : Nat} (missing : chunks.flatten.length < count) :
    takeExact? count chunks = none := by
  cases found : takeExact? count chunks with
  | none => rfl
  | some parts =>
      obtain ⟨size, split⟩ := length_takeExact? found
      rw [split, List.length_append, size] at missing
      omega

theorem readFrame_of_few (few : stream.octets.length < 2) (closed : stream.ending = .closed) :
    readFrame stream = .closed := by
  simp only [readFrame, takeExact?_of_lt few, missing, closed]

theorem readFrame_of_length {high low : UInt8} {rest : Octets}
    (joined : stream.octets = high :: low :: rest) :
    ∃ behind : List Octets, behind.flatten = rest ∧
      readFrame stream = readBody (word16 high low).toNat { stream with chunks := behind } := by
  have split : stream.chunks.flatten = [high, low] ++ rest := joined
  obtain ⟨behind, sizeTaken, behindOctets⟩ := takeExact?_of_flatten split
  have size : takeExact? 2 stream.chunks = some ([high, low], behind) := sizeTaken
  exact ⟨behind, behindOctets, by simp only [readFrame, size]⟩

theorem readBody_of_short {length : Nat} (below : length < 12) (stream : Stream) :
    readBody length stream = .failed (.frameTooShort length) :=
  if_pos below

theorem readBody_of_missing {length : Nat} (long : 12 ≤ length)
    (few : stream.octets.length < length) (closed : stream.ending = .closed) :
    readBody length stream = .failed (.streamRead .earlyEof) := by
  have whole : ¬length < headerLength := Nat.not_lt.mpr long
  simp only [readBody, if_neg whole, takeExact?_of_lt few, missing, closed]

theorem tells_readFrame (unreadable : Unreadable stream.octets)
    (closed : stream.ending = .closed) : Tells stream.octets (readFrame stream) := by
  generalize joined : stream.octets = octets at unreadable
  cases unreadable with
  | empty =>
      rw [readFrame_of_few (by simp [joined]) closed]
      exact .none
  | single octet =>
      rw [readFrame_of_few (by simp [joined]) closed]
      exact .single octet
  | short rest below =>
      obtain ⟨behind, _, read⟩ := readFrame_of_length joined
      rw [read, readBody_of_short below]
      exact .short rest below
  | @cutOff high low rest missing =>
      obtain ⟨behind, behindOctets, read⟩ := readFrame_of_length joined
      by_cases below : (word16 high low).toNat < 12
      · rw [read, readBody_of_short below]
        exact .short rest below
      · have long := Nat.le_of_not_lt below
        have few : ({ stream with chunks := behind } : Stream).octets.length <
            (word16 high low).toNat := by
          rw [Stream.octets, behindOctets]
          exact missing
        rw [read, readBody_of_missing long few closed]
        exact .cutOff long missing

theorem tells_readFrames (cuts : Cuts chunks.flatten frames tail) :
    ∃ last, readFrames ⟨chunks, .closed⟩ = (frames, last) ∧ Tells tail last := by
  have joined : (⟨chunks, .closed⟩ : Stream).octets = chunks.flatten := rfl
  obtain ⟨rest, rfl, ending, read⟩ := readFrames_of_cuts cuts joined
  exact ⟨readFrame rest, read, tells_readFrame cuts.unreadable ending⟩

/--
Messages that fit are all written, and the octets are read back as these messages and then as
closed, in whatever chunks they arrive. A message that is too long is refused before anything is
written, and any other one goes out in one frame.
-/
theorem readFrames_returns_written :
    (∀ messages : List Octets,
      (∀ message ∈ messages, 12 ≤ message.length ∧ message.length ≤ 65535) →
        ∃ octets, writeFrames buffer messages [] = (.ok (), octets) ∧
          ∀ chunks : List Octets, chunks.flatten = octets →
            readFrames ⟨chunks, .closed⟩ = (messages, .closed)) ∧
    ∀ (State : Type) (sink : Sink State) (message : Octets) (state : State),
      (65535 < message.length →
        writeFrame sink message state = (.error (.frameTooLong message.length), state)) ∧
      (message.length ≤ 65535 →
        writeFrame sink message state =
          ((sink (framed message) state).1.mapError .streamWrite,
            (sink (framed message) state).2)) := by
  constructor
  · intro messages fits
    refine ⟨messages.flatMap framed, writeFrames_buffer fits [], fun chunks joined => ?_⟩
    have cuts : Cuts chunks.flatten messages [] := joined ▸ cuts_flatMap fits
    obtain ⟨last, read, tells⟩ := tells_readFrames cuts
    cases tells
    exact read
  · intro State sink message state
    exact ⟨fun long => writeFrame_of_long long sink state,
      fun short => writeFrame_of_le short sink state⟩

/-- The shortest and the longest message arrive octet by octet. -/
theorem readFrames_returns_written_extremes :
    let messages : List Octets := [List.replicate 12 0, List.replicate 65535 255]
    (∀ message ∈ messages, 12 ≤ message.length ∧ message.length ≤ 65535) ∧
      readFrames ⟨(messages.flatMap framed).map fun octet => [octet], .closed⟩ =
        (messages, .closed) ∧
      writeFrame buffer (List.replicate 65536 0) [1] = (.error (.frameTooLong 65536), [1]) := by
  intro messages
  have fits : ∀ message ∈ messages, 12 ≤ message.length ∧ message.length ≤ 65535 := by
    intro message found
    simp only [messages, List.mem_cons, List.not_mem_nil, or_false] at found
    rcases found with rfl | rfl
    · rw [List.length_replicate]
      decide
    · rw [List.length_replicate]
      decide
  obtain ⟨arrive, refuse⟩ := readFrames_returns_written
  obtain ⟨octets, written, read⟩ := arrive messages fits
  rw [writeFrames_buffer fits, List.nil_append] at written
  cases written
  refine ⟨fits, read _ (List.flatMap_singleton' _), ?_⟩
  have refused := (refuse Octets buffer (List.replicate 65536 0) [1]).1
  rw [List.length_replicate] at refused
  exact refused (by decide)

/-! ### Breaks -/

/-- The octets end inside a length or inside a message. -/
inductive Torn : Octets → Prop where
  | length (octet : UInt8) : Torn [octet]
  | message {high low : UInt8} {rest : Octets} (missing : rest.length < (word16 high low).toNat) :
      Torn (high :: low :: rest)

/--
The last reading gives a stream as closed only if every octet belongs to a message that was read,
and fails if the octets end inside a length or a message.
-/
def TellsBreaks (chunks : List Octets) : Prop :=
  let (messages, last) := readFrames ⟨chunks, .closed⟩
  (last = .closed → chunks.flatten = messages.flatMap framed) ∧
    ∀ tail, chunks.flatten = messages.flatMap framed ++ tail → Torn tail →
      ∃ cause, last = .failed cause

theorem Tells.eq_closed_iff (tells : Tells tail last) : last = .closed ↔ tail.length ≤ 1 := by
  cases tells with
  | none => simp
  | single octet => simp
  | short rest below => simp
  | cutOff long missing => simp

theorem Tells.exists_failed (tells : Tells tail last) (longer : 1 < tail.length) :
    ∃ cause, last = .failed cause := by
  cases tells with
  | none => cases longer
  | single octet => exact absurd longer (Nat.lt_irrefl 1)
  | short rest below => exact ⟨_, rfl⟩
  | cutOff long missing => exact ⟨_, rfl⟩

theorem Torn.ne_nil (torn : Torn tail) : tail ≠ [] := by
  cases torn <;> exact List.cons_ne_nil _ _

/--
A stream that ends is cut into frames, which are read, and octets behind them that are no frame. The
last reading gives it as closed if there is at most one of these octets, and fails otherwise. So it
tells breaks from the end of the stream unless exactly one octet is left.
-/
theorem tellsBreaks_iff (chunks : List Octets) :
    ∃ frames tail last, Cuts chunks.flatten frames tail ∧
      (∀ others otherTail, Cuts chunks.flatten others otherTail →
        others = frames ∧ otherTail = tail) ∧
      readFrames ⟨chunks, .closed⟩ = (frames, last) ∧ Tells tail last ∧
      (last = .closed ↔ tail.length ≤ 1) ∧
      (TellsBreaks chunks ↔ tail.length ≠ 1) := by
  obtain ⟨frames, tail, cuts⟩ := exists_cuts chunks.flatten
  obtain ⟨last, read, tells⟩ := tells_readFrames cuts
  have whole := cuts.eq_append
  refine ⟨frames, tail, last, cuts, fun _ _ again => cuts.unique again, read, tells,
    tells.eq_closed_iff, ?_⟩
  simp only [TellsBreaks, read]
  constructor
  · rintro ⟨complete, _⟩ single
    have all := whole.symm.trans (complete (tells.eq_closed_iff.mpr (Nat.le_of_eq single)))
    rw [List.append_right_eq_self] at all
    rw [all] at single
    cases single
  · intro notSingle
    refine ⟨fun closed => ?_, fun other otherWhole torn => ?_⟩
    · have few := tells.eq_closed_iff.mp closed
      have empty : tail = [] := List.eq_nil_of_length_eq_zero (by omega)
      rw [whole, empty, List.append_nil]
    · obtain rfl : tail = other := List.append_cancel_left (whole.symm.trans otherWhole)
      have filled := List.length_pos_iff.mpr torn.ne_nil
      exact tells.exists_failed (by omega)

/-- One octet of a length, and then the end. -/
theorem single_octet_passes :
    readFrames ⟨[[0]], .closed⟩ = ([], .closed) ∧ Torn [0] ∧ ¬TellsBreaks [[0]] := by
  have cuts : Cuts ([[0]] : List Octets).flatten [] [0] := .stop (.single 0)
  obtain ⟨last, read, tells⟩ := tells_readFrames cuts
  cases tells
  refine ⟨read, .length 0, ?_⟩
  simp [TellsBreaks, read]

end SplitDns.Exchange
