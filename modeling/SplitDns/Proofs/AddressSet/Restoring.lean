import SplitDns.Proofs.Address.Resolvers
import SplitDns.Proofs.AddressSet.Ordering
import SplitDns.Proofs.Text.Lines

/-!
# Sets restored from their dump

A dump has one line for every set and one for each of its members. Names of sets and written
addresses have no blanks, so that each line is read back as the call it was written for, and the
calls of a dump make the same sets of an empty store. `dump_restores` says so of all that can happen
to sets, and that a call that fails changes none of them.
-/

namespace SplitDns.AddressSet

open SplitDns.Address
open SplitDns.Text

/-! ### Lines -/

namespace Call

/-- The words of the line that creates a set or adds a member. -/
def words : Call → List (List Char)
  | .create set =>
      ["create".toList, set.toList, "hash:ip".toList, "family".toList, "inet".toList]
  | .add set address => ["add".toList, set.toList, address.toText]
  | .remove _ _ | .test _ _ | .save => []

def line (call : Call) : List Char :=
  join [' '] call.words

/-- The call has a line, in which its words can be told apart. -/
inductive IsLine : Call → Prop where
  | create {set : String} (valid : isValidName set = true) : IsLine (.create set)
  | add {set : String} (valid : isValidName set = true) (address : Ip) : IsLine (.add set address)

end Call

/-- The call that a line of a dump stands for. -/
def readLine? (line : List Char) : Option Call :=
  match (split ' ' line).map String.ofList with
  | ["create", set, "hash:ip", "family", "inet"] => some (.create set)
  | ["add", set, address] => (Ip.parse? address.toList).map (.add set)
  | _ => none

/-- The calls that the lines of a dump stand for. -/
def readDump? (text : String) : Option (List Call) :=
  (lines text.toList).mapM readLine?

variable {call : Call} {calls others : List Call} {set : String}

theorem solid_of_isValidName (valid : isValidName set = true) : Solid set.toList := by
  unfold isValidName at valid
  simp only [Bool.and_eq_true, List.all_eq_true, Bool.not_eq_true'] at valid
  exact fun character found => (valid.2 character found).1

theorem Call.IsLine.solid (isLine : call.IsLine) : ∀ word ∈ call.words, Solid word := by
  have literal (text : String)
      (plain : (text.toList.all fun character => !isBlank character) = true) :
      Solid text.toList := by
    simpa [Solid] using plain
  cases isLine with
  | create valid =>
      simp only [Call.words, List.forall_mem_cons]
      exact ⟨literal "create" (by decide), solid_of_isValidName valid,
        literal "hash:ip" (by decide), literal "family" (by decide), literal "inet" (by decide),
        List.forall_mem_nil _⟩
  | add valid address =>
      simp only [Call.words, List.forall_mem_cons]
      exact ⟨literal "add" (by decide), solid_of_isValidName valid, address.solid_toText,
        List.forall_mem_nil _⟩

/-- A line has no blanks but those between its words. -/
theorem Call.IsLine.not_mem_line (isLine : call.IsLine) {character : Char}
    (blank : isBlank character = true) (other : character ≠ ' ') : character ∉ call.line := by
  intro found
  rcases mem_join found with space | ⟨word, inWords, inWord⟩
  · exact other (List.mem_singleton.mp space)
  · rw [isLine.solid word inWords character inWord] at blank
    cases blank

theorem Call.IsLine.words_ne_nil (isLine : call.IsLine) : call.words ≠ [] := by
  cases isLine <;> exact List.cons_ne_nil _ _

theorem Call.IsLine.readLine?_line (isLine : call.IsLine) : readLine? call.line = some call := by
  have parts : split ' ' call.line = call.words := by
    apply split_join isLine.words_ne_nil
    intro word found space
    have visible := isLine.solid word found ' ' space
    revert visible
    decide
  rw [readLine?, parts]
  cases isLine with
  | create valid => simp [Call.words]
  | add valid address => simp [Call.words]

theorem readDump?_lines {text : String} (isLine : ∀ call ∈ calls, call.IsLine)
    (written : text.toList = calls.flatMap fun call => call.line ++ ['\n']) :
    readDump? text = some calls := by
  have noFeed : ∀ line ∈ calls.map Call.line, '\n' ∉ line := by
    intro line found
    obtain ⟨call, inCalls, rfl⟩ := List.mem_map.mp found
    exact (isLine call inCalls).not_mem_line (by decide) (by decide)
  have kept : (calls.map Call.line).map dropReturn = calls.map Call.line := by
    rw [List.map_map]
    apply List.map_congr_left
    intro call inCalls
    have noReturn : '\r' ∉ call.line :=
      (isLine call inCalls).not_mem_line (by decide) (by decide)
    exact if_neg fun last => noReturn (List.mem_of_getLast? last)
  have cut : lines text.toList = calls.map Call.line := by
    rw [written, ← kept, ← lines_flatMap noFeed, List.flatMap_map]
  rw [readDump?, cut]
  clear cut kept noFeed written
  induction calls with
  | nil => rfl
  | cons call rest inductionHypothesis =>
      have later := inductionHypothesis fun other found =>
        isLine other (List.mem_cons_of_mem _ found)
      rw [List.map_cons, List.mapM_cons, (isLine call List.mem_cons_self).readLine?_line, later]
      rfl

/-! ### Calls of a dump -/

/-- The calls that make sets with their members. -/
def callsFor (pairs : List (String × List Ip)) : List Call :=
  pairs.flatMap fun pair => .create pair.1 :: pair.2.map (.add pair.1)

namespace Memory

variable {memory : Memory} {sets : Sets} {before addresses : List Ip} {address : Ip}

theorem toList_dumpSet (pair : String × List Ip) :
    (dumpSet pair).toList =
      ((.create pair.1 :: pair.2.map (.add pair.1)) : List Call).flatMap
        fun call => call.line ++ ['\n'] := by
  rw [dumpSet, String.toList_append, String.toList_join, List.flatMap_cons]
  congr 1
  · simp [Call.line, Call.words, join]
  · rw [List.flatMap_map, List.flatMap_map]
    congr 1
    funext address
    simp [Call.line, Call.words, join, Ip.text]

theorem toList_dump (memory : Memory) :
    memory.dump.toList =
      (callsFor memory.sets.pairs).flatMap fun call => call.line ++ ['\n'] := by
  rw [dump, String.toList_join, callsFor, List.flatMap_assoc, List.flatMap_map]
  congr 1
  funext pair
  exact toList_dumpSet pair

theorem IsRegular.isLine (regular : memory.IsRegular) :
    ∀ call ∈ callsFor memory.sets.pairs, call.IsLine := by
  intro call found
  obtain ⟨⟨set, addresses⟩, inPairs, inCalls⟩ := List.mem_flatMap.mp found
  have valid : isValidName set = true := by
    apply regular.validNames
    rw [SortedMap.contains, SortedMap.find?_eq_some_iff.mpr inPairs]
    rfl
  rcases List.mem_cons.mp inCalls with rfl | added
  · exact .create valid
  · obtain ⟨address, _, rfl⟩ := List.mem_map.mp added
    exact .add valid address

/-! ### Replaying -/

/-- The calls all succeed, and make these sets. -/
structure Replays (calls : List Call) (memory : Memory) (sets : Sets) : Prop where
  succeeds : ∀ result ∈ (backend.performAll calls memory).1, result = .ok .done
  sets : (backend.performAll calls memory).2.sets = sets
  answering : (backend.performAll calls memory).2.IsAnswering

theorem replays_nil (answering : memory.IsAnswering) : Replays [] memory memory.sets where
  succeeds := List.forall_mem_nil _
  sets := rfl
  answering := answering

theorem Replays.append {middle : Sets} (first : Replays calls memory middle)
    (second : Replays others (backend.performAll calls memory).2 sets) :
    Replays (calls ++ others) memory sets := by
  constructor
  case succeeds =>
    rw [Backend.performAll_append]
    exact List.forall_mem_append.mpr ⟨first.succeeds, second.succeeds⟩
  case sets =>
    rw [Backend.performAll_append]
    exact second.sets
  case answering =>
    rw [Backend.performAll_append]
    exact second.answering

theorem replays_create (answering : memory.IsAnswering) (valid : isValidName set = true)
    (fresh : memory.sets.contains set = false) :
    Replays [.create set] memory (memory.sets.put set []) := by
  have created : memory.create set = (.ok (), (memory.log (.create set)).put set []) := by
    have named : checkName set = .ok () := if_pos valid
    simp [create, named, injected, log, answering.failAll, fresh]
  have performed : backend.perform (.create set) memory =
      (.ok .done, (memory.log (.create set)).put set []) := by
    simp only [Backend.perform, backend, created]
    rfl
  have kept := answering.validNames.perform (.create set)
  constructor
  case succeeds => simp [Backend.performAll, performed]
  case sets =>
    simp only [Backend.performAll, performed]
    rfl
  case answering =>
    simp only [Backend.performAll, performed] at kept ⊢
    exact ⟨answering.failing, answering.failAll, kept⟩

theorem replays_add (answering : memory.IsAnswering)
    (found : memory.sets.find? set = some before)
    (last : ∀ member ∈ before, member.sortKey < address.sortKey) :
    Replays [.add set address] memory (memory.sets.put set (before ++ [address])) := by
  have there : memory.sets.contains set = true := by
    rw [SortedMap.contains, found]
    rfl
  have listed : members memory.sets set = before := by
    rw [members, found, Option.getD_some]
  have performed : backend.perform (.add set address) memory =
      (.ok .done, (memory.log (.add set address)).put set (before ++ [address])) := by
    simp only [Backend.perform, backend, add_eq, answering.permit_of_contains "add" there, listed,
      insertMember_of_last last]
    rfl
  have kept := answering.validNames.perform (.add set address)
  constructor
  case succeeds => simp [Backend.performAll, performed]
  case sets =>
    simp only [Backend.performAll, performed]
    rfl
  case answering =>
    simp only [Backend.performAll, performed] at kept ⊢
    exact ⟨answering.failing, answering.failAll, kept⟩

theorem replays_adds (answering : memory.IsAnswering)
    (found : memory.sets.find? set = some before) (ordered : InOrder (before ++ addresses)) :
    Replays (addresses.map (.add set)) memory (memory.sets.put set (before ++ addresses)) := by
  induction addresses generalizing memory before with
  | nil =>
      have same : memory.sets.put set (before ++ []) = memory.sets := by
        apply SortedMap.ext_find?
        intro other
        rw [SortedMap.find?_put, List.append_nil]
        split
        next equal => rw [equal, found]
        next => rfl
      rw [same]
      exact replays_nil answering
  | cons address rest inductionHypothesis =>
      have last : ∀ member ∈ before, member.sortKey < address.sortKey :=
        fun member inBefore =>
          (List.pairwise_append.mp ordered).2.2 member inBefore address List.mem_cons_self
      have first := replays_add answering found last
      have foundNext : (backend.performAll [.add set address] memory).2.sets.find? set =
          some (before ++ [address]) := by
        rw [first.sets, SortedMap.find?_put, if_pos rfl]
      have joined : before ++ address :: rest = before ++ [address] ++ rest := by simp
      rw [joined] at ordered ⊢
      have later := inductionHypothesis first.answering foundNext ordered
      rw [first.sets, SortedMap.put_put] at later
      exact first.append later

theorem replays_set (answering : memory.IsAnswering) (valid : isValidName set = true)
    (fresh : memory.sets.contains set = false) (ordered : InOrder addresses) :
    Replays (.create set :: addresses.map (.add set)) memory (memory.sets.put set addresses) := by
  have first := replays_create answering valid fresh
  have found : (backend.performAll [.create set] memory).2.sets.find? set = some [] := by
    rw [first.sets, SortedMap.find?_put, if_pos rfl]
  have later := replays_adds first.answering found ordered
  rw [first.sets, SortedMap.put_put] at later
  exact first.append later

/-- The calls for sets make them, one set after another. -/
theorem replays_callsFor {pairs : List (String × List Ip)} (answering : memory.IsAnswering)
    (ordered : Ordered pairs) (fresh : ∀ pair ∈ pairs, memory.sets.contains pair.1 = false)
    (valid : ∀ pair ∈ pairs, isValidName pair.1 = true ∧ InOrder pair.2) :
    Replays (callsFor pairs) memory
      (pairs.foldl (fun sets pair => sets.put pair.1 pair.2) memory.sets) := by
  induction pairs generalizing memory with
  | nil => exact replays_nil answering
  | cons pair rest inductionHypothesis =>
      obtain ⟨less, restOrdered⟩ := List.pairwise_cons.mp ordered
      obtain ⟨named, inOrder⟩ := valid pair List.mem_cons_self
      have first := replays_set answering named (fresh pair List.mem_cons_self) inOrder
      have freshNext (other : String × List Ip) (found : other ∈ rest) :
          (backend.performAll (.create pair.1 :: pair.2.map (.add pair.1)) memory).2.sets.contains
            other.1 = false := by
        have different : other.1 ≠ pair.1 := by
          intro same
          have impossible := less other found
          rw [same] at impossible
          exact String.lt_irrefl _ impossible
        rw [first.sets, SortedMap.contains, SortedMap.find?_put, if_neg different]
        exact fresh other (List.mem_cons_of_mem pair found)
      have later := inductionHypothesis first.answering restOrdered freshNext
        fun other found => valid other (List.mem_cons_of_mem pair found)
      rw [first.sets] at later
      exact first.append later

theorem isAnswering_new (strict : Bool) : (new strict).IsAnswering :=
  ⟨rfl, rfl, hasValidNames_new strict⟩

/-- The calls of a dump make the same sets anew. -/
theorem IsRegular.replays (regular : memory.IsRegular) (strict : Bool) :
    Replays (callsFor memory.sets.pairs) (new strict) memory.sets := by
  have valid : ∀ pair ∈ memory.sets.pairs, isValidName pair.1 = true ∧ InOrder pair.2 := by
    rintro ⟨set, addresses⟩ inPairs
    have found := SortedMap.find?_eq_some_iff.mpr inPairs
    refine ⟨regular.validNames set ?_, regular.inOrder set addresses found⟩
    rw [SortedMap.contains, found]
    rfl
  have made := replays_callsFor (isAnswering_new strict) memory.sets.ordered (fun _ _ => rfl) valid
  have whole : memory.sets.pairs.foldl (fun sets pair => sets.put pair.1 pair.2)
      (new strict).sets = memory.sets := SortedMap.ofList_pairs memory.sets
  rwa [whole] at made

theorem IsRegular.readDump?_dump (regular : memory.IsRegular) :
    readDump? memory.dump = some (callsFor memory.sets.pairs) :=
  readDump?_lines regular.isLine memory.toList_dump

/-- A dump determines the sets. -/
theorem IsRegular.sets_eq_of_dump_eq {other : Memory} (regular : memory.IsRegular)
    (otherRegular : other.IsRegular) (same : other.dump = memory.dump) :
    other.sets = memory.sets := by
  have calls : callsFor other.sets.pairs = callsFor memory.sets.pairs := by
    have read := regular.readDump?_dump
    rw [← same, otherRegular.readDump?_dump] at read
    exact Option.some.inj read
  have made := otherRegular.replays true
  rw [calls] at made
  exact made.sets.symm.trans (regular.replays true).sets

/--
Whatever happened to sets in memory, a call that fails changes none of them. A dump is read line by
line as calls that all succeed in an empty store and make the same sets with the same members of it,
so that sets with the same dump are the same.
-/
theorem dump_restores (strict : Bool) (steps : List Step) :
    (∀ call cause,
      (backend.perform call ((new strict).after steps)).1 = .error cause →
        (backend.perform call ((new strict).after steps)).2.sets =
          ((new strict).after steps).sets) ∧
    (∀ text, ((new strict).after steps).save.1 = .ok text →
      ∃ calls, readDump? text = some calls ∧ ∀ fresh : Bool,
        (∀ result ∈ (backend.performAll calls (new fresh)).1, result = .ok .done) ∧
        (backend.performAll calls (new fresh)).2.sets = ((new strict).after steps).sets) ∧
    ∀ (otherStrict : Bool) (others : List Step),
      ((new otherStrict).after others).dump = ((new strict).after steps).dump →
        ((new otherStrict).after others).sets = ((new strict).after steps).sets := by
  have regular := (isRegular_new strict).after steps
  refine ⟨fun call cause failed => sets_of_failed failed, fun text saved => ?_,
    fun otherStrict others same =>
      regular.sets_eq_of_dump_eq ((isRegular_new otherStrict).after others) same⟩
  have written : text = ((new strict).after steps).dump := by
    rw [save] at saved
    cases permitted : (((new strict).after steps).log .save).injected "save" none with
    | error cause =>
        rw [permitted] at saved
        cases saved
    | ok done =>
        rw [permitted] at saved
        cases saved
        rfl
  rw [written]
  refine ⟨_, regular.readDump?_dump, fun fresh => ?_⟩
  have replays := regular.replays fresh
  exact ⟨replays.succeeds, replays.sets⟩

/-- A lenient test made a set, a name was refused, and failures of both kinds were switched on. -/
theorem dump_restores_troubled :
    let four : Ip := .v4 ⟨192, 0, 2, 1⟩
    let six : Ip := .v6 ⟨[0, 0, 0, 0, 0, 0xFFFF, 0xC000, 0x0201], rfl⟩
    let steps : List Step :=
      [.call (.add "b" six), .call (.add "b" four), .failOn four, .call (.remove "b" four),
        .call (.test "a" six), .call (.create "a b"), .setFailing true, .call (.remove "b" six),
        .setFailing false]
    let memory := (new false).after steps
    let text := "create a hash:ip family inet\ncreate b hash:ip family inet\n" ++
      "add b 192.0.2.1\nadd b ::ffff:192.0.2.1\n"
    let calls : List Call := [.create "a", .create "b", .add "b" four, .add "b" six]
    (backend.perform (.remove "b" four) memory).2.sets = memory.sets ∧
      memory.save.1 = .ok text ∧ readDump? text = some calls ∧
      ∀ fresh : Bool, (backend.performAll calls (new fresh)).2.sets = memory.sets := by
  intro four six steps memory text calls
  have failed : (backend.perform (.remove "b" four) memory).1 =
      .error (.commandFailed "del" (.code 1) "injected failure") := by
    decide +kernel
  have saved : memory.save.1 = .ok text := by
    decide +kernel
  have read : readDump? text = some calls := by
    decide +kernel
  obtain ⟨keeps, restores, _⟩ := dump_restores false steps
  refine ⟨keeps _ _ failed, saved, read, fun fresh => ?_⟩
  obtain ⟨found, same, replayed⟩ := restores text saved
  rw [read] at same
  cases same
  exact (replayed fresh).2

end Memory

end SplitDns.AddressSet
