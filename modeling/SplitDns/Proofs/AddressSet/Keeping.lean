import SplitDns.AddressSet.Command
import SplitDns.Proofs.Address.Written
import SplitDns.Proofs.AddressSet.Meaning
import SplitDns.Proofs.Text.Searching

/-!
# Sets kept by a tool and sets in memory

A tool that keeps named sets tells by its exit status and on its error stream what became of a
command. Then the backend that runs the tool does what calls mean, as the strict store in memory
does, and nobody can tell the two apart by their results.
-/

namespace SplitDns.AddressSet

open SplitDns.Address
open SplitDns.Text

variable {State : Type}

/-! ### Sets kept by a tool -/

/-- A call that is written as the arguments of a command. -/
inductive IsCommand : Call → List String → Prop where
  | create (set : String) :
      IsCommand (.create set) ["create", set, "hash:ip", "family", "inet", "-exist"]
  | createSized (set : String) (count : Nat) :
      IsCommand (.create set)
        ["create", set, "hash:ip", "family", "inet", "maxelem", decimal count, "-exist"]
  | add (set : String) (address : Ipv4) :
      IsCommand (.add set (.v4 address)) ["add", set, (Ip.v4 address).text, "-exist"]
  | remove (set : String) (address : Ipv4) :
      IsCommand (.remove set (.v4 address)) ["del", set, (Ip.v4 address).text]
  | test (set : String) (address : Ipv4) :
      IsCommand (.test set (.v4 address)) ["test", set, (Ip.v4 address).text]

/-- Why a command is not carried out. -/
inductive Complaint where
  | setMissing
  | notAdded
  | notInSet
  deriving DecidableEq

/-- What stands on the error stream. -/
def Complaint.text : Complaint → String
  | .setMissing => "does not exist"
  | .notAdded => "it's not added"
  | .notInSet => "is NOT in set"

/-- The complaint when something becomes of a call. -/
def Verdict.complaint? : Verdict → Call → Option Complaint
  | .done, _ => none
  | .notMember, .remove _ _ => some .notAdded
  | .notMember, _ => some .notInSet
  | .setMissing, _ => some .setMissing

namespace Output

/-- A text stands on the error stream. -/
def Mentions (output : Output) (text : String) : Prop :=
  (utf8 text).data.toList <:+: output.stderr

instance (output : Output) (text : String) : Decidable (output.Mentions text) :=
  inferInstanceAs (Decidable (_ <:+: _))

/-- A run that ends well, or badly with one of the complaints and no other. -/
def Tells (output : Output) : Option Complaint → Prop
  | none => output.status.isSuccess = true
  | some complaint =>
      output.status.isSuccess = false ∧
        ∀ other : Complaint, output.Mentions other.text ↔ other = complaint

end Output

/--
A tool that keeps named sets of IPv4 addresses: in time, it does what the call means that a command
stands for, and tells what became of it.
-/
def KeepsSets (runner : Runner State) (program : String) (limit : Duration)
    (contents : State → Contents) : Prop :=
  ∀ call arguments state verdict after, isValidName call.set = true →
    IsCommand call arguments → Answers (contents state) call verdict after →
      ∃ output next, runner program arguments limit state = (.ok output, next) ∧
        output.Tells (verdict.complaint? call) ∧ contents next = after

section Telling

variable {output : Output} {complaint : Complaint}

/-- The octets on the error stream are read as a text that holds the same complaints. -/
theorem isPartOf_complaint (output : Output) (complaint : Complaint) :
    isPartOf complaint.text output.complaint = true ↔ output.Mentions complaint.text := by
  have all : (complaint.text.toList.all fun character => decide (IsAscii character)) = true := by
    cases complaint <;> decide
  have ascii : ∀ character ∈ complaint.text.toList, IsAscii character := by
    intro character found
    exact of_decide_eq_true (List.all_eq_true.mp all character found)
  have octets : (utf8 complaint.text).data.toList =
      complaint.text.toList.map asciiOctet := by
    cases complaint <;> decide
  rw [isPartOf, containsText_iff, Output.complaint, String.toList_ofList,
    infix_lossyUtf8_iff ascii, Output.Mentions, octets]

theorem isSetMissing_trim (text : String) :
    isSetMissing (String.ofList (trim text.toList)) = isSetMissing text := by
  have first : ∃ character, "does not exist".toList.head? = some character ∧
      isBlank character = false := ⟨'d', by decide, rfl⟩
  have last : ∃ character, "does not exist".toList.getLast? = some character ∧
      isBlank character = false := ⟨'t', by decide, rfl⟩
  have read : (String.ofList (trim text.toList)).toList = trim text.toList :=
    String.toList_ofList
  rw [Bool.eq_iff_iff, isSetMissing, isSetMissing, isPartOf, isPartOf, containsText_iff,
    containsText_iff, read]
  exact infix_trim_iff first last text.toList

theorem isMemberMissing_iff (tells : output.Tells (some complaint)) :
    isMemberMissing output.complaint = true ↔ complaint ≠ .setMissing := by
  have notInSet := (isPartOf_complaint output .notInSet).trans (tells.2 .notInSet)
  have notAdded := (isPartOf_complaint output .notAdded).trans (tells.2 .notAdded)
  rw [isMemberMissing, Bool.or_eq_true]
  refine (or_congr notInSet notAdded).trans ?_
  cases complaint <;> simp

namespace CommandSettings

variable {settings : CommandSettings} {runner : Runner State} {arguments : List String}
  {state next : State} {set : String}

theorem failure_eq (tells : output.Tells (some .setMissing)) :
    settings.failure set arguments output = .notFound set := by
  have missing : isSetMissing output.complaint = true :=
    (isPartOf_complaint output .setMissing).mpr ((tells.2 .setMissing).mpr rfl)
  rw [failure, isSetMissing_trim, if_pos missing]

theorem run_eq (ran : runner settings.program arguments settings.limit state = (.ok output, next)) :
    settings.run runner arguments state = (.ok output, next) := by
  rw [run, ran]
  rfl

/-- The result of a run that only says whether it succeeded. -/
theorem runSuccessfully_eq {complaint? : Option Complaint}
    (ran : runner settings.program arguments settings.limit state = (.ok output, next))
    (set : String) (tells : output.Tells complaint?)
    (plain : complaint? = none ∨ complaint? = some .setMissing) :
    settings.runSuccessfully runner set arguments state =
      (if complaint?.isNone then .ok output else .error (.notFound set), next) := by
  rcases plain with rfl | rfl
  · rw [Output.Tells] at tells
    simp [runSuccessfully, run_eq ran, Except.bind, tells]
  · simp [runSuccessfully, run_eq ran, Except.bind, tells.1, failure_eq tells]

/-- The result of a run that says whether an address is a member. -/
theorem runOnMember_eq {complaint? : Option Complaint}
    (ran : runner settings.program arguments settings.limit state = (.ok output, next))
    (set : String) (tells : output.Tells complaint?) :
    settings.runOnMember runner set arguments state =
      (match complaint? with
        | none => .ok true
        | some .setMissing => .error (.notFound set)
        | some _ => .ok false, next) := by
  cases complaint? with
  | none =>
      rw [Output.Tells] at tells
      simp [runOnMember, run_eq ran, Except.bind, tells]
  | some complaint =>
      have memberMissing := isMemberMissing_iff tells
      cases complaint with
      | setMissing =>
          have noMember : isMemberMissing output.complaint = false := by simpa using memberMissing
          simp [runOnMember, run_eq ran, Except.bind, tells.1, noMember, failure_eq tells]
      | notAdded =>
          simp [runOnMember, run_eq ran, Except.bind, tells.1, memberMissing.mpr]
      | notInSet =>
          simp [runOnMember, run_eq ran, Except.bind, tells.1, memberMissing.mpr]

end CommandSettings

end Telling

namespace CommandSettings

variable {settings : CommandSettings} {runner : Runner State} {contents : State → Contents}

/-- The arguments that a call is run with. -/
def arguments (settings : CommandSettings) : Call → List String
  | .create set => settings.createArguments set
  | .add set address => ["add", set, address.text, "-exist"]
  | .remove set address => ["del", set, address.text]
  | .test set address => ["test", set, address.text]
  | .save => ["save"]

theorem isCommand_arguments (settings : CommandSettings) {call : Call} (plain : call.IsPlain) :
    IsCommand call (settings.arguments call) := by
  cases call with
  | create set =>
      cases capacity : settings.capacity with
      | none =>
          rw [arguments, createArguments, capacity]
          exact .create set
      | some count =>
          rw [arguments, createArguments, capacity]
          exact .createSized set count
  | add set address =>
      cases address with
      | v4 address => exact .add set address
      | v6 address => cases plain
  | remove set address =>
      cases address with
      | v4 address => exact .remove set address
      | v6 address => cases plain
  | test set address =>
      cases address with
      | v4 address => exact .test set address
      | v6 address => cases plain
  | save => exact absurd plain id

theorem check_eq (set : String) {address : Ip} (version : address.isV6 = false) :
    check set address = checkName set := by
  rw [check, version]
  cases checkName set <;> rfl

/-- The result of a call is what the run tells that became of it. -/
theorem perform_of_tells {call : Call} {verdict : Verdict} {before after : Contents}
    {state next : State} {output : Output} (plain : call.IsPlain)
    (valid : isValidName call.set = true) (answers : Answers before call verdict after)
    (ran : runner settings.program (settings.arguments call) settings.limit state =
      (.ok output, next))
    (tells : output.Tells (verdict.complaint? call)) :
    (settings.backend runner).perform call state = (verdict.result call, next) := by
  have named : checkName call.set = .ok () := if_pos valid
  cases call with
  | create set =>
      have possible : verdict.complaint? (.create set) = none ∨
          verdict.complaint? (.create set) = some .setMissing := by
        cases answers with
        | create => exact .inl rfl
        | missing => exact .inr rfl
      have result := runSuccessfully_eq ran set tells possible
      rw [Call.set] at named
      rw [arguments] at result
      simp only [Backend.perform, backend, create, named, result]
      cases answers with
      | create => rfl
      | missing => rfl
  | add set address =>
      have possible : verdict.complaint? (.add set address) = none ∨
          verdict.complaint? (.add set address) = some .setMissing := by
        cases answers with
        | add => exact .inl rfl
        | missing => exact .inr rfl
      have result := runSuccessfully_eq ran set tells possible
      rw [Call.set, ← check_eq set plain] at named
      rw [arguments] at result
      simp only [Backend.perform, backend, add, named, result]
      cases answers with
      | add => rfl
      | missing => rfl
  | remove set address =>
      have result := runOnMember_eq ran set tells
      rw [Call.set, ← check_eq set plain] at named
      rw [arguments] at result
      simp only [Backend.perform, backend, remove, named, result]
      cases verdict <;> rfl
  | test set address =>
      have result := runOnMember_eq ran set tells
      rw [Call.set, ← check_eq set plain] at named
      rw [arguments] at result
      simp only [Backend.perform, backend, test, named, result]
      cases verdict <;> rfl
  | save => exact absurd plain id

/-- The tool is not run for a name that no set can have. -/
theorem perform_of_invalid {call : Call} {state : State} (plain : call.IsPlain)
    (invalid : isValidName call.set = false) :
    (settings.backend runner).perform call state =
      (.error (.invalidName call.set), state) := by
  have refused : checkName call.set = .error (.invalidName call.set) :=
    if_neg (Bool.eq_false_iff.mp invalid)
  cases call with
  | create set =>
      rw [Call.set] at refused
      simp only [Backend.perform, backend, create, refused]
      rfl
  | add set address =>
      rw [Call.set, ← check_eq set plain] at refused
      simp only [Backend.perform, backend, add, refused]
      rfl
  | remove set address =>
      rw [Call.set, ← check_eq set plain] at refused
      simp only [Backend.perform, backend, remove, refused]
      rfl
  | test set address =>
      rw [Call.set, ← check_eq set plain] at refused
      simp only [Backend.perform, backend, test, refused]
      rfl
  | save => exact absurd plain id

/-- The backend that runs a tool that keeps sets does what calls mean. -/
theorem meets_command (keeps : KeepsSets runner settings.program settings.limit contents) :
    Meets (settings.backend runner) (fun _ => True) contents where
  occurs _ _ _ _ := trivial
  performs call state verdict after _ plain valid answers := by
    obtain ⟨output, next, ran, tells, kept⟩ := keeps call (settings.arguments call) state verdict
      after valid (settings.isCommand_arguments plain) answers
    rw [perform_of_tells plain valid answers ran tells]
    exact ⟨rfl, kept⟩
  refuses call state _ plain invalid := by
    rw [perform_of_invalid plain invalid]
    exact ⟨rfl, rfl⟩

end CommandSettings

/--
A backend that runs a tool that keeps sets gives the same results as a strict store in memory, call
by call, and the two hold the same sets after any of the calls. No call fails but for a name that no
set can have or a set that does not exist.
-/
theorem command_agrees_with_memory (settings : CommandSettings) (runner : Runner State)
    (contents : State → Contents)
    (keeps : KeepsSets runner settings.program settings.limit contents) (state : State)
    (memory : Memory) (reliable : memory.IsReliable) (same : contents state = memory.contents)
    (calls : List Call) (plain : ∀ call ∈ calls, call.IsPlain) :
    ((settings.backend runner).performAll calls state).1 =
        (Memory.backend.performAll calls memory).1 ∧
      (∀ result ∈ ((settings.backend runner).performAll calls state).1, IsExpected result) ∧
      ∀ front, front <+: calls →
        contents ((settings.backend runner).performAll front state).2 =
          (Memory.backend.performAll front memory).2.contents := by
  have meets := CommandSettings.meets_command keeps
  have agrees {front : List Call} (begins : front <+: calls) :=
    meets.performAll_agrees Memory.meets_memory trivial reliable same fun call found =>
      plain call (begins.subset found)
  refine ⟨(agrees List.prefix_rfl).1, ?_, ?_⟩
  · exact meets.isExpected_performAll trivial plain
  · intro front begins
    exact (agrees begins).2

/-! ### A tool that keeps its sets as lists -/

/-- A command that is not carried out. -/
def refusal (text : String) : Output :=
  ⟨.code 1, [], (utf8 text).data.toList⟩

def listTool : Runner Sets := fun _ arguments _ sets =>
  let missing := refusal "ipset v7.15: The set with the given name does not exist"
  match arguments with
  | "create" :: set :: _ =>
      (.ok ⟨.code 0, [], []⟩, if sets.contains set then sets else sets.put set [])
  | ["add", set, text, "-exist"] =>
      match sets.find? set, Ip.parse? text.toList with
      | some members, some address =>
          (.ok ⟨.code 0, [], []⟩, sets.put set (insertMember address members))
      | _, _ => (.ok missing, sets)
  | ["del", set, text] =>
      match sets.find? set, Ip.parse? text.toList with
      | some members, some address =>
          if address ∈ members then
            (.ok ⟨.code 0, [], []⟩, sets.put set (removeMember address members))
          else
            (.ok (refusal "ipset v7.15: Element cannot be deleted from the set: it's not added"),
              sets)
      | _, _ => (.ok missing, sets)
  | ["test", set, text] =>
      match sets.find? set, Ip.parse? text.toList with
      | some members, some address =>
          if address ∈ members then (.ok ⟨.code 0, [], []⟩, sets)
          else (.ok (refusal "ipset v7.15: Warning: the address is NOT in set"), sets)
      | _, _ => (.ok missing, sets)
  | _ => (.ok (refusal "ipset v7.15: Unknown argument"), sets)

theorem tells_refusal :
    (refusal "ipset v7.15: The set with the given name does not exist").Tells
        (some .setMissing) ∧
      (refusal "ipset v7.15: Element cannot be deleted from the set: it's not added").Tells
        (some .notAdded) ∧
      (refusal "ipset v7.15: Warning: the address is NOT in set").Tells (some .notInSet) := by
  refine ⟨⟨rfl, ?_⟩, ⟨rfl, ?_⟩, ⟨rfl, ?_⟩⟩
  all_goals
    intro other
    cases other <;> decide +kernel

theorem keepsSets_listTool (program : String) (limit : Duration) :
    KeepsSets listTool program limit contentsOf := by
  intro call arguments sets verdict after valid command answers
  obtain ⟨setMissing, notAdded, notInSet⟩ := tells_refusal
  cases command with
  | create set =>
      cases answers with
      | create => exact ⟨_, _, rfl, rfl, contentsOf_create sets set⟩
      | missing uses => exact absurd rfl (uses set)
  | createSized set count =>
      cases answers with
      | create => exact ⟨_, _, rfl, rfl, contentsOf_create sets set⟩
      | missing uses => exact absurd rfl (uses set)
  | add set address =>
      simp only [listTool, Ip.parse?_text_v4]
      cases answers with
      | add _ found =>
          obtain ⟨list, there, rfl⟩ := contentsOf_eq_some_iff.mp found
          rw [there]
          exact ⟨_, _, rfl, rfl, contentsOf_put_insertMember _⟩
      | missing _ absent =>
          have here : sets.find? set = none := Option.map_eq_none_iff.mp absent
          rw [here]
          exact ⟨_, _, rfl, setMissing, rfl⟩
  | remove set address =>
      simp only [listTool, Ip.parse?_text_v4]
      cases answers with
      | remove found member =>
          obtain ⟨list, there, rfl⟩ := contentsOf_eq_some_iff.mp found
          simp only [there, if_pos (show _ ∈ list from member)]
          exact ⟨_, _, rfl, rfl, contentsOf_put_removeMember _⟩
      | removeOther found other =>
          obtain ⟨list, there, rfl⟩ := contentsOf_eq_some_iff.mp found
          simp only [there, if_neg (show _ ∉ list from other)]
          exact ⟨_, _, rfl, notAdded, rfl⟩
      | missing _ absent =>
          have here : sets.find? set = none := Option.map_eq_none_iff.mp absent
          rw [here]
          exact ⟨_, _, rfl, setMissing, rfl⟩
  | test set address =>
      simp only [listTool, Ip.parse?_text_v4]
      cases answers with
      | test found member =>
          obtain ⟨list, there, rfl⟩ := contentsOf_eq_some_iff.mp found
          simp only [there, if_pos (show _ ∈ list from member)]
          exact ⟨_, _, rfl, rfl, rfl⟩
      | testOther found other =>
          obtain ⟨list, there, rfl⟩ := contentsOf_eq_some_iff.mp found
          simp only [there, if_neg (show _ ∉ list from other)]
          exact ⟨_, _, rfl, notInSet, rfl⟩
      | missing _ absent =>
          have here : sets.find? set = none := Option.map_eq_none_iff.mp absent
          rw [here]
          exact ⟨_, _, rfl, setMissing, rfl⟩

/-- Calls that come to every result. -/
def variedCalls : List Call :=
  let address := .v4 ⟨192, 0, 2, 1⟩
  [.add "firewall" address, .create "firewall", .create "firewall", .test "firewall" address,
    .add "firewall" address, .add "firewall" address, .test "firewall" address,
    .remove "firewall" address, .remove "firewall" address, .test "elsewhere" address,
    .create "fire wall", .remove "" address]

theorem command_agrees_with_memory_varied :
    ((CommandSettings.default.backend listTool).performAll variedCalls .empty).1 =
        [.error (.notFound "firewall"), .ok .done, .ok .done, .ok (.membership false), .ok .done,
          .ok .done, .ok (.membership true), .ok (.membership true), .ok (.membership false),
          .error (.notFound "elsewhere"), .error (.invalidName "fire wall"),
          .error (.invalidName "")] ∧
      contentsOf ((CommandSettings.default.backend listTool).performAll
          (variedCalls.take 6) .empty).2 "firewall" = some {.v4 ⟨192, 0, 2, 1⟩} := by
  have reliable : (Memory.new true).IsReliable := ⟨rfl, rfl, rfl⟩
  have plain : ∀ call ∈ variedCalls, call.IsPlain := by
    simp [variedCalls, Call.IsPlain, Ip.isV6]
  obtain ⟨results, _, sets⟩ := command_agrees_with_memory .default listTool contentsOf
    (keepsSets_listTool "ipset" (.ofSeconds 3)) .empty (.new true) reliable rfl variedCalls plain
  constructor
  · rw [results]
    decide +kernel
  · rw [sets _ (List.take_prefix 6 variedCalls)]
    have listed :
        (Memory.backend.performAll (variedCalls.take 6) (.new true)).2.sets.find? "firewall" =
          some [.v4 ⟨192, 0, 2, 1⟩] := by
      decide +kernel
    refine contentsOf_eq_some_iff.mpr ⟨_, listed, ?_⟩
    ext address
    simp

end SplitDns.AddressSet
