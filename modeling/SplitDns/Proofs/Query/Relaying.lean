import Mathlib.Data.List.Forall2
import SplitDns.Proofs.Dns.Decoding
import SplitDns.Query.Resolve

/-!
# What clients are told

A reply conveys a response when it is the response without its IPv6 records. Every reply decodes
and has no such record; it conveys the response of the resolver exactly if there was nothing to
leave out, or if what is left can be laid out within the longest message. Otherwise the sections
are cut off and the reply is marked as truncated.
-/

namespace SplitDns.Dns

open Wire

/-- A record that a client is given for a record of a resolver. -/
structure Record.Conveys (given source : Record) : Prop where
  owner : given.owner = source.owner
  type : given.type = source.type
  dnsClass : given.dnsClass = source.dnsClass
  ttl : given.ttl = source.ttl
  ipv4 : ∀ address, given.data = .ipv4 address ↔ source.data = .ipv4 address
  canonical : ∀ target, given.data = .host .alias target ↔ source.data = .host .alias target

theorem Record.conveys_self (record : Record) : record.Conveys record where
  owner := rfl
  type := rfl
  dnsClass := rfl
  ttl := rfl
  ipv4 _ := Iff.rfl
  canonical _ := Iff.rfl

theorem Record.conveys_settled (record : Record) : record.settled.Conveys record where
  owner := rfl
  type := record.type_settled
  dnsClass := rfl
  ttl := rfl
  ipv4 address := by
    unfold Record.settled RecordData.settled
    split <;> simp_all
  canonical target := by
    unfold Record.settled RecordData.settled
    split <;> simp_all

theorem Record.conveys_map_settled (records : List Record) :
    List.Forall₂ Record.Conveys (records.map Record.settled) records := by
  rw [List.forall₂_map_left_iff, List.forall₂_same]
  exact fun record _ => record.conveys_settled

/-- The records that clients may see. -/
def visible (records : List Record) : List Record :=
  records.filter fun record => !record.isIpv6

namespace Message

def stripped (message : Message) : Message :=
  message.filterRecords fun record => !record.isIpv6

/-- The reply is the response without its IPv6 records. -/
structure Conveys (reply response : Message) : Prop where
  header : reply.header = response.header
  questions : reply.questions = response.questions
  edns : reply.edns = response.edns
  answers : List.Forall₂ Record.Conveys reply.answers (visible response.answers)
  authority : List.Forall₂ Record.Conveys reply.authority (visible response.authority)
  additional : List.Forall₂ Record.Conveys reply.additional (visible response.additional)

theorem Conveys.responseCode {reply response : Message} (conveys : reply.Conveys response) :
    reply.responseCode = response.responseCode := by
  rw [Message.responseCode, conveys.header, conveys.edns, Message.responseCode]

/-- The reply is the response without its IPv6 records, as far as it goes. -/
structure ConveysPart (reply response : Message) : Prop where
  header : { reply.header with truncated := response.header.truncated } = response.header
  questions : reply.questions = response.questions
  edns : reply.edns = response.edns ∨ reply.edns = none
  answers : ∃ part, part <+: visible response.answers ∧
    List.Forall₂ Record.Conveys reply.answers part
  authority : ∃ part, part <+: visible response.authority ∧
    List.Forall₂ Record.Conveys reply.authority part
  additional : ∃ part, part <+: visible response.additional ∧
    List.Forall₂ Record.Conveys reply.additional part

theorem Conveys.part {reply response : Message} (conveys : reply.Conveys response) :
    reply.ConveysPart response where
  header := by rw [conveys.header]
  questions := conveys.questions
  edns := .inl conveys.edns
  answers := ⟨_, List.prefix_rfl, conveys.answers⟩
  authority := ⟨_, List.prefix_rfl, conveys.authority⟩
  additional := ⟨_, List.prefix_rfl, conveys.additional⟩

/-- A response whose visible records can be given to a client without loss. -/
def Relayable (response : Message) : Prop :=
  (∀ record ∈ response.records, record.isIpv6 = false) ∨ response.stripped.reach ≤ maxMessage

/-! ### Replies that are written anew -/

theorem conveysPart_kept (response : Message) :
    response.stripped.kept.ConveysPart response where
  header := rfl
  questions := rfl
  edns := by
    simp only [kept]
    split
    · exact .inl rfl
    · exact .inr rfl
  answers := ⟨_, List.take_prefix _ _, Record.conveys_map_settled _⟩
  authority := ⟨_, List.take_prefix _ _, Record.conveys_map_settled _⟩
  additional := ⟨_, List.take_prefix _ _, Record.conveys_map_settled _⟩

theorem conveys_kept_of_isComplete {response : Message}
    (complete : response.stripped.isComplete = true) :
    response.stripped.kept.Conveys response := by
  rw [kept_of_isComplete complete]
  constructor
  case header => rfl
  case questions => rfl
  case edns => rfl
  case answers => exact Record.conveys_map_settled _
  case authority => exact Record.conveys_map_settled _
  case additional => exact Record.conveys_map_settled _

/-- A section that is cut off is shorter than what it should convey. -/
theorem complete_of_conveys {before : Section} {place : Nat} {records : List Record}
    (conveys : List.Forall₂ Record.Conveys
      ((records.take (before.followedBy place records).count).map Record.settled) records) :
    (before.followedBy place records).complete = true := by
  by_contra incomplete
  have short : (before.followedBy place records).count < records.length :=
    count_of_incomplete (Bool.eq_false_iff.mpr incomplete)
  have same := conveys.length_eq
  rw [List.length_map, List.length_take] at same
  omega

theorem isComplete_of_conveys_kept {response : Message}
    (conveys : response.stripped.kept.Conveys response) :
    response.stripped.isComplete = true := by
  have answers : response.stripped.answerSection.complete = true :=
    complete_of_conveys conveys.answers
  have authority : response.stripped.authoritySection.complete = true :=
    complete_of_conveys conveys.authority
  have additional : response.stripped.additionalSection.complete = true :=
    complete_of_conveys conveys.additional
  have edns : (if response.stripped.extensionSection.complete then response.edns else none) =
      response.edns := conveys.edns
  have extension : response.stripped.extensionSection.complete = true := by
    by_contra incomplete
    rw [if_neg incomplete] at edns
    have nothing : response.stripped.edns = none := edns.symm
    have written : response.stripped.extensionSection.complete = true := by
      rw [extensionSection, nothing]
      rfl
    exact incomplete written
  simp only [isComplete, answers, authority, additional, extension, Bool.and_self]

theorem conveys_kept_iff {response : Message}
    (questions : response.stripped.questionSection.complete = true) :
    response.stripped.kept.Conveys response ↔ response.stripped.reach ≤ maxMessage := by
  rw [← isComplete_iff]
  constructor
  · exact fun conveys => ⟨questions, isComplete_of_conveys_kept conveys⟩
  · exact fun fits => conveys_kept_of_isComplete fits.2

theorem visible_eq_self {records : List Record}
    (none : ∀ record ∈ records, record.isIpv6 = false) : visible records = records := by
  rw [visible, List.filter_eq_self]
  exact fun record found => by rw [none record found, Bool.not_false]

theorem conveys_self {response : Message}
    (none : ∀ record ∈ response.records, record.isIpv6 = false) :
    response.Conveys response := by
  simp only [records, List.mem_append] at none
  constructor
  case header => rfl
  case questions => rfl
  case edns => rfl
  case answers =>
    rw [visible_eq_self fun record found => none record (.inl (.inl found)), List.forall₂_same]
    exact fun record _ => record.conveys_self
  case authority =>
    rw [visible_eq_self fun record found => none record (.inl (.inr found)), List.forall₂_same]
    exact fun record _ => record.conveys_self
  case additional =>
    rw [visible_eq_self fun record found => none record (.inr found), List.forall₂_same]
    exact fun record _ => record.conveys_self

/-- Every record that is given stands for a visible record. -/
theorem exists_source {given part records : List Record} (cut : part <+: visible records)
    (conveyed : List.Forall₂ Record.Conveys given part) :
    ∀ record ∈ given, ∃ source ∈ visible records, record.Conveys source := by
  intro record found
  obtain ⟨index, bound, rfl⟩ := List.mem_iff_getElem.mp found
  have inside : index < part.length := conveyed.length_eq ▸ bound
  exact ⟨part[index], cut.subset (List.getElem_mem inside), conveyed.get bound inside⟩

theorem type_ne_of_conveys {record source : Record} {records : List Record}
    (seen : source ∈ visible records) (conveys : record.Conveys source) :
    record.type ≠ RecordType.aaaa := by
  have passed := (List.mem_filter.mp seen).2
  rw [conveys.type]
  simpa [Record.isIpv6] using passed

theorem ConveysPart.type_ne {reply response : Message} (part : reply.ConveysPart response) :
    ∀ record ∈ reply.records, record.type ≠ RecordType.aaaa := by
  obtain ⟨_, answersCut, answers⟩ := part.answers
  obtain ⟨_, authorityCut, authority⟩ := part.authority
  obtain ⟨_, additionalCut, additional⟩ := part.additional
  intro record found
  simp only [records, List.mem_append] at found
  rcases found with (inAnswers | inAuthority) | inAdditional
  · obtain ⟨source, seen, conveys⟩ := exists_source answersCut answers record inAnswers
    exact type_ne_of_conveys seen conveys
  · obtain ⟨source, seen, conveys⟩ := exists_source authorityCut authority record inAuthority
    exact type_ne_of_conveys seen conveys
  · obtain ⟨source, seen, conveys⟩ := exists_source additionalCut additional record inAdditional
    exact type_ne_of_conveys seen conveys

/-- The answers of a reply stand for answers of the response. -/
theorem ConveysPart.exists_answer {reply response : Message} (part : reply.ConveysPart response)
    {record : Record} (found : record ∈ reply.answers) :
    ∃ source ∈ response.answers, record.Conveys source := by
  obtain ⟨_, cut, answers⟩ := part.answers
  obtain ⟨source, seen, conveys⟩ := exists_source cut answers record found
  exact ⟨source, (List.mem_filter.mp seen).1, conveys⟩

end Message

end SplitDns.Dns
