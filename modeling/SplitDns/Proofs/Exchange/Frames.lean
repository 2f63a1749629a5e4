import SplitDns.Exchange.Frame

/-!
# Frames of a stream

A stream is cut into frames one after another, down to octets that no frame can be read from. How
the octets come in chunks does not matter. `exists_cuts` and `Cuts.unique` say that there is one
such cut, and `readFrame_framed` and `readFrame_of_unreadable` that a stream is read along it.
-/

namespace SplitDns.Exchange

variable {octets message rest tail : Octets} {stream : Stream}

/-- The octets of a frame that holds a message. -/
def framed (message : Octets) : Octets :=
  octets16 (UInt16.ofNat message.length) ++ message

/-- The message is neither too short nor too long for a frame. -/
def FitsFrame (message : Octets) : Prop :=
  12 ≤ message.length ∧ message.length ≤ 65535

/-- Octets that do not begin with a frame. -/
inductive Unreadable : Octets → Prop where
  | empty : Unreadable []
  | single (octet : UInt8) : Unreadable [octet]
  /-- The length is less than that of a header. -/
  | short {high low : UInt8} (rest : Octets) (below : (word16 high low).toNat < 12) :
      Unreadable (high :: low :: rest)
  /-- The octets end inside the frame. -/
  | cutOff {high low : UInt8} {rest : Octets} (missing : rest.length < (word16 high low).toNat) :
      Unreadable (high :: low :: rest)

/-- The octets are frames, one for each message, with octets behind them that are no frame. -/
inductive Cuts : Octets → List Octets → Octets → Prop where
  | stop {tail : Octets} (unreadable : Unreadable tail) : Cuts tail [] tail
  | frame {message rest tail : Octets} {others : List Octets} (fits : FitsFrame message)
      (later : Cuts rest others tail) : Cuts (framed message ++ rest) (message :: others) tail

/-! ### Cutting -/

theorem exists_frame_of_not_unreadable (readable : ¬Unreadable octets) :
    ∃ message rest, FitsFrame message ∧ octets = framed message ++ rest := by
  match octets with
  | [] => exact absurd .empty readable
  | [octet] => exact absurd (.single octet) readable
  | high :: low :: body =>
      have long : 12 ≤ (word16 high low).toNat :=
        Nat.le_of_not_lt fun below => readable (.short body below)
      have whole : (word16 high low).toNat ≤ body.length :=
        Nat.le_of_not_lt fun missing => readable (.cutOff missing)
      have size : (body.take (word16 high low).toNat).length = (word16 high low).toNat := by
        rw [List.length_take, Nat.min_eq_left whole]
      refine ⟨body.take (word16 high low).toNat, body.drop (word16 high low).toNat, ?_, ?_⟩
      · rw [FitsFrame, size]
        exact ⟨long, Nat.le_of_lt_succ (word16 high low).toNat_lt⟩
      · simp [framed, size, octets16]

theorem exists_cuts (octets : Octets) : ∃ frames tail, Cuts octets frames tail := by
  induction size : octets.length using Nat.strongRecOn generalizing octets with
  | ind length inductionHypothesis =>
      by_cases unreadable : Unreadable octets
      · exact ⟨[], octets, .stop unreadable⟩
      · obtain ⟨message, rest, fits, rfl⟩ := exists_frame_of_not_unreadable unreadable
        have shorter : rest.length < length := by
          rw [← size]
          simp [framed, octets16]
          omega
        obtain ⟨frames, tail, later⟩ := inductionHypothesis rest.length shorter rest rfl
        exact ⟨message :: frames, tail, .frame fits later⟩

theorem toNat_length (fits : FitsFrame message) :
    (UInt16.ofNat message.length).toNat = message.length :=
  UInt16.toNat_ofNat_of_lt' (Nat.lt_succ_of_le fits.2)

theorem not_unreadable_framed (fits : FitsFrame message) :
    ¬ Unreadable (framed message ++ rest) := by
  intro unreadable
  have length := toNat_length fits
  rw [framed, octets16] at unreadable
  cases unreadable with
  | short _ below =>
      rw [word16_octets, length] at below
      exact absurd fits.1 (Nat.not_le.mpr below)
  | cutOff missing =>
      rw [word16_octets, length] at missing
      simp only [List.append_eq, List.nil_append, List.length_append] at missing
      omega

theorem framed_injective {other otherRest : Octets} (fits : FitsFrame message)
    (otherFits : FitsFrame other) (same : framed message ++ rest = framed other ++ otherRest) :
    other = message ∧ otherRest = rest := by
  have sizes := congrArg (List.take 2) same
  have bodies := congrArg (List.drop 2) same
  simp only [framed, octets16, List.cons_append, List.nil_append, List.take_succ_cons,
    List.take_zero, List.drop_succ_cons, List.drop_zero, List.cons.injEq, and_true]
    at sizes bodies
  have words : UInt16.ofNat message.length = UInt16.ofNat other.length := by
    rw [← word16_octets (UInt16.ofNat message.length), sizes.1, sizes.2, word16_octets]
  have lengths : message.length = other.length := by
    rw [← toNat_length fits, words, toNat_length otherFits]
  obtain ⟨rfl, rfl⟩ := List.append_inj bodies lengths
  exact ⟨rfl, rfl⟩

theorem Cuts.unique {frames others : List Octets} {otherTail : Octets}
    (cuts : Cuts octets frames tail) (again : Cuts octets others otherTail) :
    others = frames ∧ otherTail = tail := by
  induction cuts generalizing others with
  | stop unreadable =>
      cases again with
      | stop => exact ⟨rfl, rfl⟩
      | frame fits => exact absurd unreadable (not_unreadable_framed fits)
  | @frame message rest tail later fits _ inductionHypothesis =>
      -- The octets are no variable here, so the other cut is taken of a name for them.
      generalize whole : framed message ++ rest = octets at again
      cases again with
      | stop unreadable =>
          rw [← whole] at unreadable
          exact absurd unreadable (not_unreadable_framed fits)
      | frame otherFits otherLater =>
          obtain ⟨rfl, rfl⟩ := framed_injective fits otherFits whole
          obtain ⟨rfl, rfl⟩ := inductionHypothesis otherLater
          exact ⟨rfl, rfl⟩

/-! ### Reading -/

theorem exists_takeExact? {count : Nat} {chunks : List Octets}
    (enough : count ≤ chunks.flatten.length) :
    ∃ taken rest, takeExact? count chunks = some (taken, rest) := by
  induction chunks generalizing count with
  | nil =>
      rw [Nat.le_zero.mp enough]
      exact ⟨[], [], rfl⟩
  | cons chunk others inductionHypothesis =>
      rw [takeExact?]
      split
      · exact ⟨_, _, rfl⟩
      · have later : count - chunk.length ≤ others.flatten.length := by
          rw [List.flatten_cons, List.length_append] at enough
          omega
        obtain ⟨taken, rest, found⟩ := inductionHypothesis later
        rw [found]
        exact ⟨_, _, rfl⟩

/-- What stands at the start of the octets is taken off the chunks. -/
theorem takeExact?_of_flatten {front back : Octets} {chunks : List Octets}
    (joined : chunks.flatten = front ++ back) :
    ∃ others, takeExact? front.length chunks = some (front, others) ∧ others.flatten = back := by
  have enough : front.length ≤ chunks.flatten.length := by
    rw [joined, List.length_append]
    omega
  obtain ⟨taken, others, found⟩ := exists_takeExact? enough
  obtain ⟨size, split⟩ := length_takeExact? found
  obtain ⟨rfl, rest⟩ := List.append_inj (split.symm.trans joined) size
  exact ⟨others, found, rest⟩

theorem readFrame_framed (fits : FitsFrame message)
    (joined : stream.octets = framed message ++ rest) :
    ∃ later, readFrame stream = .frame message later ∧ later.octets = rest := by
  rw [framed, List.append_assoc] at joined
  obtain ⟨behind, sizeTaken, behindOctets⟩ := takeExact?_of_flatten joined
  obtain ⟨later, messageTaken, laterOctets⟩ := takeExact?_of_flatten behindOctets
  have long : ¬message.length < headerLength := Nat.not_lt.mpr fits.1
  have size : takeExact? 2 stream.chunks =
      some ([highOctet (UInt16.ofNat message.length), lowOctet (UInt16.ofNat message.length)],
        behind) := sizeTaken
  refine ⟨{ stream with chunks := later }, ?_, laterOctets⟩
  simp only [readFrame, size, readBody, word16_octets, toNat_length fits, long, if_false,
    messageTaken]

theorem not_frame_missing {ended : FrameRead} {later : Stream}
    (other : ended ≠ .frame message later) : missing stream ended ≠ .frame message later := by
  unfold missing
  cases stream.ending with
  | closed => exact other
  | silent =>
      intro equal
      cases equal

/-- A frame that was read stood at the start of the stream. -/
theorem eq_framed_of_readFrame {later : Stream} (found : readFrame stream = .frame message later) :
    FitsFrame message ∧ stream.octets = framed message ++ later.octets := by
  unfold readFrame at found
  split at found
  next high low chunks sizeTaken =>
      obtain ⟨_, sizeSplit⟩ := length_takeExact? sizeTaken
      unfold readBody at found
      split at found
      next => cases found
      next long =>
        split at found
        next body others bodyTaken =>
          obtain ⟨length, bodySplit⟩ := length_takeExact? bodyTaken
          cases found
          refine ⟨⟨?_, ?_⟩, ?_⟩
          · rw [length]
            exact Nat.le_of_not_lt long
          · rw [length]
            exact Nat.le_of_lt_succ (word16 high low).toNat_lt
          · have joined : chunks.flatten = message ++ others.flatten := bodySplit
            rw [Stream.octets, sizeSplit, joined, framed, length, UInt16.ofNat_toNat]
            simp [octets16, Stream.octets]
        next => exact absurd found (not_frame_missing fun equal => by cases equal)
  next => exact absurd found (not_frame_missing fun equal => by cases equal)

theorem readFrame_of_unreadable (unreadable : Unreadable stream.octets) :
    ∀ message later, readFrame stream ≠ .frame message later := by
  intro message later found
  obtain ⟨fits, joined⟩ := eq_framed_of_readFrame found
  rw [joined] at unreadable
  exact not_unreadable_framed fits unreadable

theorem frame?_eq (message : Octets) :
    frame? message =
      if message.length ≤ 65535 then .ok (framed message)
      else .error (.frameTooLong message.length) := by
  unfold frame? maxFrame
  by_cases fits : message.length ≤ 65535
  · rw [if_pos fits, if_neg (Nat.not_lt.mpr fits), framed]
  · rw [if_neg fits, if_pos (Nat.lt_of_not_le fits)]

end SplitDns.Exchange
