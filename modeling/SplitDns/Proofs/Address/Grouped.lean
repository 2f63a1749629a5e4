import SplitDns.Proofs.Address.Written
import SplitDns.Proofs.Outcome

/-!
# Written IPv6 addresses

The written form of an IPv6 address is read back as the address: groups have no colons in them, the
double colon stands for the zero groups that were left out, and an address that maps an IPv4
address ends in a dotted form. No text is read both as an IPv4 and as an IPv6 address.
-/

namespace SplitDns.Address

open SplitDns.Text

namespace Ipv6

variable {text part : List Char}

/-! ### Groups -/

theorem isSome_of_group? {group : UInt16} (read : group? part = some group) :
    ∀ character ∈ part, (hexDigit? character).isSome = true := by
  rw [group?] at read
  split at read
  · cases read
  · obtain ⟨digits, digitsRead, _⟩ := Option.map_eq_some_iff.mp read
    exact isSome_of_mapM digitsRead

theorem group?_groupText (group : UInt16) : group? (groupText group) = some group := by
  obtain ⟨digits, read, same⟩ := exists_hexDigits group.toNat
  have filled : (groupText group).isEmpty = false :=
    List.isEmpty_eq_false_iff.mpr Nat.toDigits_ne_nil
  have short : (groupText group).length ≤ 4 :=
    (Nat.length_toDigits_le_iff (by decide) (by decide)).mpr group.toNat_lt
  have inside : ((groupText group).isEmpty || decide (4 < (groupText group).length)) = false := by
    rw [filled, Bool.false_or, decide_eq_false (Nat.not_lt.mpr short)]
  rw [group?, inside, groupText, read]
  simp only [Bool.false_eq_true, if_false, Option.map_some, same, UInt16.ofNat_toNat]

theorem groupText_ne_nil (group : UInt16) : groupText group ≠ [] :=
  Nat.toDigits_ne_nil

theorem not_mem_groupText {character : Char} (other : hexDigit? character = none)
    (group : UInt16) : character ∉ groupText group := by
  intro found
  have digit := isSome_of_group? (group?_groupText group) character found
  rw [other] at digit
  cases digit

theorem mapM_groupText (groups : List UInt16) :
    (groups.map groupText).mapM group? = some groups := by
  induction groups with
  | nil => rfl
  | cons group rest inductionHypothesis =>
      rw [List.map_cons, List.mapM_cons, group?_groupText, inductionHypothesis]
      rfl

theorem groupsWithDotted?_groupText (groups : List UInt16) :
    groupsWithDotted? (groups.map groupText) = some groups := by
  induction groups with
  | nil => rfl
  | cons group rest inductionHypothesis =>
      cases rest with
      | nil => simp only [List.map_cons, List.map_nil, groupsWithDotted?, group?_groupText]
      | cons second others =>
          rw [List.map_cons] at inductionHypothesis
          rw [List.map_cons, List.map_cons, groupsWithDotted?, group?_groupText,
            inductionHypothesis]
          · rfl
          · exact fun impossible => nomatch impossible

theorem joinGroups_cons_cons (group second : UInt16) (others : List UInt16) :
    joinGroups (group :: second :: others) =
      groupText group ++ ':' :: joinGroups (second :: others) := by
  simp [joinGroups, join]

theorem head?_joinGroups (group : UInt16) (others : List UInt16) (rest : List Char) :
    (joinGroups (group :: others) ++ rest).head? ≠ some ':' := by
  obtain ⟨first, digits, text⟩ := List.exists_cons_of_ne_nil (groupText_ne_nil group)
  have begun : (joinGroups (group :: others) ++ rest).head? = some first := by
    cases others with
    | nil => simp [joinGroups, join, text]
    | cons second later => simp [joinGroups_cons_cons, text]
  rw [begun]
  rintro ⟨⟩
  have free : ':' ∉ groupText group := not_mem_groupText rfl group
  rw [text] at free
  exact free List.mem_cons_self

theorem colonParts_joinGroups (groups : List UInt16) :
    colonParts (joinGroups groups) = groups.map groupText := by
  cases groups with
  | nil => rfl
  | cons group rest =>
      have filled : joinGroups (group :: rest) ≠ [] := by
        cases rest with
        | nil => exact groupText_ne_nil group
        | cons second others => simp [joinGroups, join]
      rw [colonParts, List.isEmpty_eq_false_iff.mpr filled, joinGroups]
      apply split_join
      · exact List.cons_ne_nil _ _
      · intro part found
        obtain ⟨other, _, rfl⟩ := List.mem_map.mp found
        exact not_mem_groupText rfl other

/-! ### The double colon -/

theorem cutDoubleColon?_cons {character : Char} {rest : List Char}
    (single : character ≠ ':' ∨ rest.head? ≠ some ':') :
    cutDoubleColon? (character :: rest) =
      (cutDoubleColon? rest).map fun parts => (character :: parts.1, parts.2) := by
  apply cutDoubleColon?.eq_2
  rintro others rfl rfl
  exact single.elim (· rfl) (· rfl)

theorem cutDoubleColon?_append (free : ':' ∉ part) (rest : List Char) :
    cutDoubleColon? (part ++ rest) =
      (cutDoubleColon? rest).map fun parts => (part ++ parts.1, parts.2) := by
  induction part with
  | nil => simp
  | cons character others inductionHypothesis =>
      have other := List.ne_of_not_mem_cons free
      rw [List.cons_append, cutDoubleColon?_cons (.inl (Ne.symm other)),
        inductionHypothesis (List.not_mem_of_not_mem_cons free), Option.map_map]
      rfl

/-- Groups with single colons between them have no double colon. -/
theorem cutDoubleColon?_joinGroups (groups : List UInt16) (rest : List Char) :
    cutDoubleColon? (joinGroups groups ++ rest) =
      (cutDoubleColon? rest).map fun parts => (joinGroups groups ++ parts.1, parts.2) := by
  induction groups with
  | nil => simp [joinGroups, join]
  | cons group others inductionHypothesis =>
      have free : ':' ∉ groupText group := not_mem_groupText rfl group
      cases others with
      | nil => exact cutDoubleColon?_append free rest
      | cons second later =>
          have single := head?_joinGroups second later rest
          rw [joinGroups_cons_cons, List.append_assoc, List.cons_append,
            cutDoubleColon?_append free, cutDoubleColon?_cons (.inr single), inductionHypothesis,
            Option.map_map, Option.map_map]
          simp [Function.comp_def]

theorem eq_of_cutDoubleColon? {before after : List Char}
    (found : cutDoubleColon? text = some (before, after)) :
    text = before ++ ':' :: ':' :: after := by
  fun_induction cutDoubleColon? text generalizing before with
  | case1 rest =>
      cases found
      rfl
  | case2 character rest _ inductionHypothesis =>
      obtain ⟨⟨front, back⟩, cut, equal⟩ := Option.map_eq_some_iff.mp found
      cases equal
      rw [inductionHypothesis cut, List.cons_append]
  | case3 => cases found

/-! ### The zero groups that are left out -/

theorem exists_longestZeros (start : Nat) (groups : List UInt16) :
    ∃ front length back, longestZeros start groups = (start + front.length, length) ∧
      groups = front ++ List.replicate length 0 ++ back := by
  induction groups generalizing start with
  | nil => exact ⟨[], 0, [], rfl, rfl⟩
  | cons group rest inductionHypothesis =>
      rw [longestZeros]
      split
      · refine ⟨[], leadingZeros (group :: rest), (group :: rest).dropWhile (· == 0), rfl, ?_⟩
        have zeros : (group :: rest).takeWhile (· == 0) =
            List.replicate (leadingZeros (group :: rest)) 0 := by
          apply List.eq_replicate_of_mem
          intro other found
          exact beq_iff_eq.mp (List.all_eq_true.mp List.all_takeWhile other found)
        rw [List.nil_append, ← zeros, List.takeWhile_append_dropWhile]
      · obtain ⟨front, length, back, place, joined⟩ := inductionHypothesis (start + 1)
        refine ⟨group :: front, length, back, ?_, ?_⟩
        · rw [place, List.length_cons]
          congr 1
          omega
        · rw [joined]
          simp

/-! ### Whole addresses -/

theorem ofGroups?_groups (address : Ipv6) : ofGroups? address.groups = some address :=
  dif_pos address.length_groups

/-- What the double colon leaves out are the zero groups between its two sides. -/
theorem parse?_shortened {address : Ipv6} {front back : List UInt16} {length : Nat}
    (several : 1 < length) (joined : address.groups = front ++ List.replicate length 0 ++ back) :
    parse? (joinGroups front ++ [':', ':'] ++ joinGroups back) = some address := by
  have total : front.length + length + back.length = 8 := by
    rw [← address.length_groups, joined, List.length_append, List.length_append,
      List.length_replicate]
  have missing : 8 - front.length - back.length = length := by omega
  have cut : cutDoubleColon? (joinGroups front ++ [':', ':'] ++ joinGroups back) =
      some (joinGroups front, joinGroups back) := by
    rw [List.append_assoc, cutDoubleColon?_joinGroups]
    simp [cutDoubleColon?]
  simp only [parse?, cut, colonParts_joinGroups, mapM_groupText, groupsWithDotted?_groupText,
    missing, ← joined, ofGroups?_groups]
  rw [if_pos (by omega)]

theorem parse?_joinGroups (address : Ipv6) :
    parse? (joinGroups address.groups) = some address := by
  have uncut : cutDoubleColon? (joinGroups address.groups) = none := by
    have none := cutDoubleColon?_joinGroups address.groups []
    rwa [List.append_nil] at none
  simp only [parse?, uncut, colonParts_joinGroups, groupsWithDotted?_groupText,
    Option.bind_some, ofGroups?_groups]

theorem group?_dotted (address : Ipv4) : group? address.toText = none := by
  have point : '.' ∈ address.toText := by simp [Ipv4.toText, Ipv4.octets, join]
  cases read : group? address.toText with
  | none => rfl
  | some group => cases isSome_of_group? read '.' point

theorem parse?_mapped {address : Ipv6} {high low : UInt16}
    (mapped : address.groups = [0, 0, 0, 0, 0, 0xFFFF, high, low]) :
    parse? ("::ffff:".toList ++
      Ipv4.toText ⟨highOctet high, lowOctet high, highOctet low, lowOctet low⟩) =
        some address := by
  generalize whole : Ipv4.mk (highOctet high) (lowOctet high) (highOctet low) (lowOctet low) =
    dotted
  have parts : colonParts ('f' :: 'f' :: 'f' :: 'f' :: ':' :: dotted.toText) =
      [['f', 'f', 'f', 'f'], dotted.toText] := by
    have free : ':' ∉ ['f', 'f', 'f', 'f'] := by decide
    have apart := split_append free dotted.toText
    rw [split_of_not_mem (Ipv4.not_mem_of_parse? (Ipv4.parse?_toText dotted))] at apart
    exact apart
  have last : groupsWithDotted? [dotted.toText] = some [high, low] := by
    simp only [groupsWithDotted?, group?_dotted, Ipv4.parse?_toText, Option.map_some, ← whole,
      word16_octets]
  have back : groupsWithDotted? [['f', 'f', 'f', 'f'], dotted.toText] =
      some [0xFFFF, high, low] := by
    rw [groupsWithDotted?, last]
    · rfl
    · exact fun impossible => nomatch impossible
  have cut : cutDoubleColon? ("::ffff:".toList ++ dotted.toText) =
      some ([], 'f' :: 'f' :: 'f' :: 'f' :: ':' :: dotted.toText) := rfl
  simp only [parse?, cut, parts, back]
  rw [← ofGroups?_groups address, mapped]
  rfl

/-- The written form is read back. -/
@[simp]
theorem parse?_toText (address : Ipv6) : parse? address.toText = some address := by
  unfold toText
  split
  next high low mapped => exact parse?_mapped mapped
  next =>
      obtain ⟨front, length, back, place, joined⟩ := exists_longestZeros 0 address.groups
      simp only [place, Nat.zero_add]
      split
      next several =>
          have first : address.groups.take front.length = front := by simp [joined]
          have before : front.length + length = (front ++ List.replicate length 0).length := by
            rw [List.length_append, List.length_replicate]
          have last : address.groups.drop (front.length + length) = back := by
            rw [joined, before, List.drop_left]
          rw [first, last]
          exact parse?_shortened several joined
      next => exact parse?_joinGroups address

/-! ### Texts of addresses -/

theorem isWritten_of_groupsWithDotted? {parts : List (List Char)} {groups : List UInt16}
    (read : groupsWithDotted? parts = some groups) :
    ∀ part ∈ parts, ∀ character ∈ part, IsWritten character := by
  fun_induction groupsWithDotted? parts generalizing groups with
  | case1 => exact fun _ impossible => nomatch impossible
  | case2 last group lastRead =>
      intro part found character inPart
      rw [List.mem_singleton.mp found] at inPart
      exact .inl (isSome_of_group? lastRead character inPart)
  | case3 last _ =>
      obtain ⟨dotted, parsed, _⟩ := Option.map_eq_some_iff.mp read
      intro part found character inPart
      rw [List.mem_singleton.mp found] at inPart
      exact (Ipv4.isSome_of_parse? parsed inPart).imp_right .inl
  | case4 first rest _ inductionHypothesis =>
      obtain ⟨group, firstRead, others⟩ := Option.bind_eq_some_iff.mp read
      obtain ⟨later, laterRead, _⟩ := Option.map_eq_some_iff.mp others
      intro part found character inPart
      rcases List.mem_cons.mp found with rfl | inRest
      · exact .inl (isSome_of_group? firstRead character inPart)
      · exact inductionHypothesis laterRead part inRest character inPart

theorem isWritten_of_colonParts
    (written : ∀ part ∈ colonParts text, ∀ character ∈ part, IsWritten character) :
    ∀ character ∈ text, IsWritten character := by
  intro character found
  have filled : text.isEmpty = false := List.isEmpty_eq_false_iff.mpr (List.ne_nil_of_mem found)
  rw [colonParts, filled] at written
  rcases mem_of_mem_split ':' found with colon | ⟨part, inText, inPart⟩
  · exact .inr (.inr colon)
  · exact written part inText character inPart

/-- A text that is read as an address is one list of groups, or two with a double colon between. -/
theorem parse?_cases {address : Ipv6} (parsed : parse? text = some address) :
    (groupsWithDotted? (colonParts text) = some address.groups) ∨
      ∃ before after front back, text = before ++ ':' :: ':' :: after ∧
        (colonParts before).mapM group? = some front ∧
        groupsWithDotted? (colonParts after) = some back := by
  have groups {list : List UInt16} (made : ofGroups? list = some address) :
      list = address.groups := by
    unfold ofGroups? at made
    split at made
    · cases made
      rfl
    · cases made
  rw [parse?] at parsed
  split at parsed
  next =>
      obtain ⟨list, read, made⟩ := Option.bind_eq_some_iff.mp parsed
      exact .inl (groups made ▸ read)
  next before after cut =>
      split at parsed
      next front back frontRead backRead =>
          exact .inr ⟨before, after, front, back, eq_of_cutDoubleColon? cut, frontRead, backRead⟩
      next => cases parsed

theorem isWritten_of_parse? {address : Ipv6} (parsed : parse? text = some address) :
    ∀ character ∈ text, IsWritten character := by
  rcases parse?_cases parsed with whole | ⟨before, after, front, back, rfl, frontRead, backRead⟩
  · exact isWritten_of_colonParts (isWritten_of_groupsWithDotted? whole)
  · intro character found
    simp only [List.mem_append, List.mem_cons] at found
    rcases found with inBefore | colon | colon | inAfter
    · apply isWritten_of_colonParts _ character inBefore
      intro part inParts other inPart
      obtain ⟨group, read⟩ := Option.isSome_iff_exists.mp (isSome_of_mapM frontRead part inParts)
      exact .inl (isSome_of_group? read other inPart)
    · exact .inr (.inr colon)
    · exact .inr (.inr colon)
    · exact isWritten_of_colonParts (isWritten_of_groupsWithDotted? backRead) character inAfter

/-- The text before the first colon is a group, or empty, so it is no IPv4 address. -/
theorem exists_split_of_parse? {address : Ipv6} (parsed : parse? text = some address) :
    ∃ part second others, split ':' text = part :: second :: others ∧ '.' ∉ part := by
  have free {part : List Char} (digit : (group? part).isSome = true) : '.' ∉ part := by
    intro point
    obtain ⟨group, read⟩ := Option.isSome_iff_exists.mp digit
    cases isSome_of_group? read '.' point
  rcases parse?_cases parsed with whole | ⟨before, after, front, back, rfl, frontRead, _⟩
  · have groups := address.length_groups
    have filled : text.isEmpty = false := by
      refine List.isEmpty_eq_false_iff.mpr fun empty => ?_
      subst empty
      rw [colonParts, List.isEmpty_nil, if_pos rfl, groupsWithDotted?] at whole
      rw [← Option.some.inj whole] at groups
      cases groups
    rw [colonParts, filled] at whole
    cases parts : split ':' text with
    | nil => exact absurd parts (split_ne_nil ':' text)
    | cons part rest =>
        simp only [parts, Bool.false_eq_true, if_false] at whole
        cases rest with
        | nil =>
            rw [groupsWithDotted?] at whole
            split at whole
            · rw [← Option.some.inj whole] at groups
              cases groups
            · obtain ⟨dotted, _, same⟩ := Option.map_eq_some_iff.mp whole
              rw [← same] at groups
              cases groups
        | cons second others =>
            rw [groupsWithDotted?] at whole
            · obtain ⟨group, read, _⟩ := Option.bind_eq_some_iff.mp whole
              exact ⟨part, second, others, rfl, free (Option.isSome_iff_exists.mpr ⟨group, read⟩)⟩
            · exact fun impossible => nomatch impossible
  · rw [split_append_separator]
    cases parts : split ':' before with
    | nil => exact absurd parts (split_ne_nil ':' before)
    | cons part rest =>
        have noPoint : '.' ∉ part := by
          cases before with
          | nil =>
              cases parts
              exact List.not_mem_nil
          | cons first others =>
              rw [colonParts, List.isEmpty_cons, parts] at frontRead
              exact free (isSome_of_mapM frontRead part List.mem_cons_self)
        cases rest with
        | nil => exact ⟨part, [], split ':' after, by simp [split], noPoint⟩
        | cons second others => exact ⟨part, second, _, rfl, noPoint⟩

theorem exists_cutFirst?_of_parse? {address : Ipv6} (parsed : parse? text = some address) :
    ∃ part rest, cutFirst? ':' text = some (part, rest) ∧ '.' ∉ part ∧ ':' ∈ text := by
  obtain ⟨part, second, others, parts, noPoint⟩ := exists_split_of_parse? parsed
  have free : ':' ∉ part := by
    apply not_mem_of_mem_split
    rw [parts]
    exact List.mem_cons_self
  have joined : text = part ++ ':' :: join [':'] (second :: others) := by
    rw [← join_split ':' text, parts]
    simp [join]
  refine ⟨part, join [':'] (second :: others), ?_, noPoint, ?_⟩
  · rw [joined, cutFirst?_append free]
  · rw [joined]
    exact List.mem_append_right part List.mem_cons_self

end Ipv6

end SplitDns.Address
