import SplitDns.Admin.Report
import SplitDns.Proofs.AddressMap.Matching
import SplitDns.Proofs.AddressSet.Asking
import SplitDns.Proofs.FirstOccurrences
import SplitDns.Proofs.Outcome
import SplitDns.Proofs.Text.ByteOrder

/-!
# What a look-up reports

A look-up reports what the sets hold when it begins. It asks them about every text once and
remembers the answer, which stays true, since questions change no member.
-/

namespace SplitDns.Admin

open SplitDns.Address
open SplitDns.AddressSet
open SplitDns.AddressSet.Memory (Asked IsAnswering)
open SplitDns.Pattern (StandsIn)
open SplitDns.Text

variable {classes : List ClassSettings} {memory start : Memory} {known : Membership}
  {seen texts : List String}

/-- The classes whose sets hold an address, in the order of classes. -/
def holding (memory : Memory) (classes : List ClassSettings) (address : Ip) : List String :=
  (classes.filter fun settings => (members memory.sets settings.set).contains address).map
    ClassSettings.name

/-- The classes whose sets hold the address that a text gives, if it gives one. -/
def holdersOf (memory : Memory) (classes : List ClassSettings) (text : String) : List String :=
  match Ip.parse? text.toList with
  | some address => holding memory classes address
  | none => []

/-- One question to each class, if the text gives an address. -/
def questions (classes : List ClassSettings) (text : String) : List Call :=
  match Ip.parse? text.toList with
  | some address => classes.map fun settings => .test settings.set address
  | none => []

theorem holding_cons_of_isMember {settings : ClassSettings} {address : Ip}
    (member : memory.IsMember settings.set address) :
    holding memory (settings :: classes) address =
      settings.name :: holding memory classes address := by
  have listed : (members memory.sets settings.set).contains address = true :=
    List.contains_iff_mem.mpr member
  rw [holding, List.filter_cons, if_pos listed]
  rfl

theorem holding_cons_of_not_isMember {settings : ClassSettings} {address : Ip}
    (absent : ¬ memory.IsMember settings.set address) :
    holding memory (settings :: classes) address = holding memory classes address := by
  have unlisted : ¬ (members memory.sets settings.set).contains address = true :=
    mt List.contains_iff_mem.mp absent
  rw [holding, List.filter_cons, if_neg unlisted]
  rfl

/-! ### One text -/

theorem holders_spec (answering : memory.IsAnswering) (classes : List ClassSettings)
    (address : Ip) :
    ∃ next, holders Memory.backend address classes memory =
        (holding memory classes address, next) ∧
      Asked (classes.map fun settings => .test settings.set address) memory next := by
  induction classes generalizing memory with
  | nil => exact ⟨memory, rfl, .refl memory⟩
  | cons settings rest inductionHypothesis =>
      have asked := Memory.asked_test memory settings.set address
      obtain ⟨next, others, askedRest⟩ := inductionHypothesis (asked.answering answering)
      have same : holding (memory.test settings.set address).2 rest address =
          holding memory rest address := by
        simp only [holding, asked.members]
      have here : Memory.backend.test settings.set address memory =
          ((memory.test settings.set address).1, (memory.test settings.set address).2) := rfl
      refine ⟨next, ?_, asked.trans askedRest⟩
      rw [holders, here]
      simp only
      rw [others, same]
      by_cases member : memory.IsMember settings.set address
      · rw [answering.test_eq_true_iff.mpr member, holding_cons_of_isMember member]
        rfl
      · have answer := mt answering.test_eq_true_iff.mp member
        rw [holding_cons_of_not_isMember member]
        cases tested : (memory.test settings.set address).1 with
        | error cause => rfl
        | ok found =>
            cases found with
            | false => rfl
            | true => exact absurd tested answer

theorem memberOf_spec (answering : memory.IsAnswering) (classes : List ClassSettings)
    (text : String) :
    ∃ next, memberOf Memory.backend classes text memory = (holdersOf memory classes text, next) ∧
      Asked (questions classes text) memory next := by
  unfold memberOf holdersOf questions
  cases Ip.parse? text.toList with
  | none => exact ⟨memory, rfl, .refl memory⟩
  | some address => exact holders_spec answering classes address

/-! ### Many texts -/

/--
What is known after some texts were seen: the answers for those texts, as the sets gave them at the
start, each text asked for when it first came.
-/
structure Looked (classes : List ClassSettings) (start : Memory) (seen texts : List String)
    (known : Membership) (memory : Memory) : Prop where
  first : IsFirstOccurrences seen texts
  known : ∀ text, known.find? text =
    if text ∈ texts then some (holdersOf start classes text) else none
  asked : Asked (texts.flatMap (questions classes)) start memory

theorem looked_nil (classes : List ClassSettings) (start : Memory) :
    Looked classes start [] [] .empty start where
  first := .empty
  known text := by simp
  asked := .refl start

theorem Looked.addressEntry (looked : Looked classes start seen texts known memory)
    (answering : start.IsAnswering) (text : String) :
    ∃ moreTexts moreKnown next,
      addressEntry Memory.backend classes text known memory =
        (⟨text, holdersOf start classes text⟩, moreKnown, next) ∧
      Looked classes start (seen ++ [text]) moreTexts moreKnown next := by
  unfold Admin.addressEntry
  rw [looked.known]
  by_cases old : text ∈ texts
  · rw [if_pos old]
    exact ⟨texts, known, memory, rfl, looked.first.again ((looked.first.mem_iff text).mp old),
      looked.known, looked.asked⟩
  · obtain ⟨next, told, asked⟩ := memberOf_spec (looked.asked.answering answering) classes text
    have same : holdersOf memory classes text = holdersOf start classes text := by
      simp only [holdersOf, holding, looked.asked.members]
    rw [if_neg old]
    simp only
    rw [told, same]
    refine ⟨texts ++ [text], _, next, rfl, ?_, ?_, ?_⟩
    · exact looked.first.anew (mt (looked.first.mem_iff text).mpr old)
    · intro other
      rw [SortedMap.find?_put, looked.known]
      by_cases equal : other = text
      · simp [equal]
      · simp [equal]
    · rw [List.flatMap_append, List.flatMap_singleton]
      exact looked.asked.trans asked

theorem Looked.addressEntries (looked : Looked classes start seen texts known memory)
    (answering : start.IsAnswering) (more : List String) :
    ∃ moreTexts moreKnown next,
      addressEntries Memory.backend classes more known memory =
        (more.map fun text => ⟨text, holdersOf start classes text⟩, moreKnown, next) ∧
      Looked classes start (seen ++ more) moreTexts moreKnown next := by
  induction more generalizing seen texts known memory with
  | nil =>
      rw [List.append_nil]
      exact ⟨texts, known, memory, rfl, looked⟩
  | cons text rest inductionHypothesis =>
      obtain ⟨middleTexts, middleKnown, middle, entry, middleLooked⟩ :=
        looked.addressEntry answering text
      obtain ⟨moreTexts, moreKnown, next, entries, moreLooked⟩ := inductionHypothesis middleLooked
      rw [List.append_assoc] at moreLooked
      refine ⟨moreTexts, moreKnown, next, ?_, moreLooked⟩
      rw [Admin.addressEntries, entry]
      simp only
      rw [entries]
      rfl

/-- The entry of a name, with what the sets of a memory hold. -/
def reportOf (memory : Memory) (classes : List ClassSettings) (store : Pattern.Store)
    (pair : String × List String) : NameEntry :=
  ⟨pair.1, store.className (store.classify pair.1),
    pair.2.map fun text => ⟨text, holdersOf memory classes text⟩⟩

theorem Looked.nameEntries (looked : Looked classes start seen texts known memory)
    (answering : start.IsAnswering) (store : Pattern.Store) (pairs : List (String × List String)) :
    ∃ moreTexts moreKnown next,
      nameEntries Memory.backend classes store pairs known memory =
        (pairs.map (reportOf start classes store), next) ∧
      Looked classes start (seen ++ pairs.flatMap Prod.snd) moreTexts moreKnown next := by
  induction pairs generalizing seen texts known memory with
  | nil =>
      rw [List.flatMap_nil, List.append_nil]
      exact ⟨texts, known, memory, rfl, looked⟩
  | cons pair rest inductionHypothesis =>
      obtain ⟨middleTexts, middleKnown, middle, entries, middleLooked⟩ :=
        looked.addressEntries answering pair.2
      obtain ⟨moreTexts, moreKnown, next, others, moreLooked⟩ := inductionHypothesis middleLooked
      rw [List.append_assoc, ← List.flatMap_cons] at moreLooked
      refine ⟨moreTexts, moreKnown, next, ?_, moreLooked⟩
      rw [Admin.nameEntries, entries]
      simp only
      rw [others]
      rfl

/--
A look-up with an accepted pattern reports the names of the snapshot that contain it, in the order
of their octets, with the class that the pattern files give them now, and each of their addresses in
recorded order with the classes whose sets hold it. Every text is asked about once, at most one
question for each class, and no set has other members afterwards.
-/
theorem Domain.lookup_reports {domain : Domain} {given pattern : String} {snapshot : Snapshot}
    {files : Files.Store} (accepted : Pattern.normalize given = .ok pattern)
    (read : domain.snapshot files = .ok snapshot) (answering : memory.IsAnswering) :
    let store := domain.patternStore files
    ∃ entries final texts,
      domain.lookup Memory.backend given memory files = (.ok entries, final) ∧
      entries = (snapshot.pairs.filter fun pair => decide (StandsIn pattern pair.1)).map
        (fun pair => ⟨pair.1, store.className (store.classify pair.1),
          pair.2.map fun text => ⟨text, holdersOf memory domain.classes text⟩⟩) ∧
      entries.Pairwise (fun earlier later =>
        (utf8 earlier.name).data.toList < (utf8 later.name).data.toList) ∧
      IsFirstOccurrences (entries.flatMap fun entry => entry.addresses.map AddressEntry.address)
        texts ∧
      final.calls = memory.calls ++ texts.flatMap (questions domain.classes) ∧
      ∀ set address, final.IsMember set address ↔ memory.IsMember set address := by
  intro store
  have proper := Pattern.proper_of_normalize accepted
  obtain ⟨texts, known, final, reported, looked⟩ := (looked_nil domain.classes memory).nameEntries
    answering store (snapshot.matching pattern)
  rw [Snapshot.matching_eq proper] at reported looked
  have listed (recorded : List String) :
      (recorded.map fun text =>
        (⟨text, holdersOf memory domain.classes text⟩ : AddressEntry)).map AddressEntry.address =
          recorded := by
    rw [List.map_map]
    exact List.map_id recorded
  refine ⟨_, final, texts, ?_, rfl, ?_, ?_, looked.asked.calls, ?_⟩
  · have normal : (Pattern.normalize given).mapError Error.pattern = .ok pattern := by
      rw [accepted]
      rfl
    rw [Domain.lookup, normal]
    simp only
    rw [read]
    simp only
    rw [Snapshot.matching_eq proper, reported]
    rfl
  · apply List.pairwise_map.mpr
    apply (snapshot.ordered.filter _).imp
    intro earlier later less
    exact utf8_lt less
  · have first := looked.first
    rw [List.nil_append] at first
    rw [List.flatMap_map]
    simp only [listed]
    exact first
  · intro set address
    rw [Memory.IsMember, Memory.IsMember, looked.asked.members]

/-- Two classes, the first one with a pattern for one of two names. -/
def inquiry : Domain :=
  ⟨[⟨"first", "first.txt", "192.0.2.53", "one"⟩, ⟨"second", "second.txt", "192.0.2.54", "two"⟩],
    ⟨"map.json", "sets.conf"⟩⟩

/-- An address that two names share, and a text that is none. -/
def inquirySnapshot : Snapshot :=
  .ofList [("video.example", ["unknown", "192.0.2.1"]), ("a.example", ["192.0.2.1"])]

def inquiryFiles : Files.Store :=
  .ofList [("first.txt", .file (utf8 "video\n")),
    ("map.json", .file (utf8 inquirySnapshot.toJson))]

/-- The shared address is in the set of the second class. -/
def inquirySets : Memory :=
  (Memory.backend.performAll [.add "two" (.v4 ⟨192, 0, 2, 1⟩)] (Memory.new false)).2

theorem Domain.lookup_reports_shared :
    Pattern.normalize "Example" = .ok "example" ∧
    inquiry.snapshot inquiryFiles = .ok inquirySnapshot ∧
    inquirySets.IsAnswering ∧
    (inquiry.lookup Memory.backend "Example" inquirySets inquiryFiles).1 =
      .ok [⟨"a.example", "direct", [⟨"192.0.2.1", ["second"]⟩]⟩,
        ⟨"video.example", "first", [⟨"unknown", []⟩, ⟨"192.0.2.1", ["second"]⟩]⟩] ∧
    (inquiry.lookup Memory.backend "Example" inquirySets inquiryFiles).2.calls =
      [.add "two" (.v4 ⟨192, 0, 2, 1⟩), .test "one" (.v4 ⟨192, 0, 2, 1⟩),
        .test "two" (.v4 ⟨192, 0, 2, 1⟩)] := by
  have accepted : Pattern.normalize "Example" = .ok "example" := by decide +kernel
  have read : inquiry.snapshot inquiryFiles = .ok inquirySnapshot := by decide +kernel
  have answering : inquirySets.IsAnswering :=
    ⟨by decide +kernel, by decide +kernel, (Memory.hasValidNames_new false).performAll _⟩
  obtain ⟨entries, final, texts, done, reported, _⟩ :=
    Domain.lookup_reports accepted read answering
  refine ⟨accepted, read, answering, ?_, by decide +kernel⟩
  rw [done, reported, Except.ok.injEq]
  decide +kernel

end SplitDns.Admin
