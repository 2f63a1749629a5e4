import SplitDns.Address.Resolver
import SplitDns.Proofs.Address.Grouped

/-!
# Written resolvers

Every form in which the address of a resolver may be written is read as what it stands for,
whatever blank space is around it. An IPv6 address without brackets has its colons to itself: none
of them is taken for the one before a port.
-/

namespace SplitDns.Address

open SplitDns.Text

/-! ### Characters -/

variable {text digits : List Char} {value : Nat}

theorem isWritten_of_isDecimal (decimal : IsDecimal text value) :
    ∀ character ∈ text, IsWritten character :=
  fun character found => .inl (hexDigit?_of_isDigit (decimal.digits character found))

theorem solid_of_isDecimal (decimal : IsDecimal text value) : Solid text :=
  solid_of_isWritten (isWritten_of_isDecimal decimal)

theorem head?_of_isWritten (written : ∀ character ∈ text, IsWritten character) :
    text.head? ≠ some '[' := by
  intro bracket
  have bracketWritten : IsWritten '[' := written '[' (List.mem_of_head? bracket)
  exact absurd bracketWritten (by decide)

/-! ### Addresses without port -/

namespace Ip

theorem parse?_of_v4 {address : Ipv4} (parsed : Ipv4.parse? text = some address) :
    Ip.parse? text = some (.v4 address) := by
  rw [Ip.parse?, parsed]

theorem parse?_of_v6 {address : Ipv6} (parsed : Ipv6.parse? text = some address) :
    Ip.parse? text = some (.v6 address) := by
  obtain ⟨_, _, _, _, colon⟩ := Ipv6.exists_cutFirst?_of_parse? parsed
  rw [Ip.parse?, Ipv4.parse?_of_colon colon, parsed]
  rfl

theorem parse?_cases {address : Ip} (parsed : Ip.parse? text = some address) :
    (∃ ipv4, address = .v4 ipv4 ∧ Ipv4.parse? text = some ipv4) ∨
      ∃ ipv6, address = .v6 ipv6 ∧ Ipv6.parse? text = some ipv6 := by
  rw [Ip.parse?] at parsed
  split at parsed
  next ipv4 read => exact .inl ⟨ipv4, (Option.some.inj parsed).symm, read⟩
  next =>
      obtain ⟨ipv6, read, same⟩ := Option.map_eq_some_iff.mp parsed
      exact .inr ⟨ipv6, same.symm, read⟩

theorem isWritten_of_parse? {address : Ip} (parsed : Ip.parse? text = some address) :
    ∀ character ∈ text, IsWritten character := by
  intro character found
  rcases parse?_cases parsed with ⟨_, _, read⟩ | ⟨_, _, read⟩
  · exact (Ipv4.isSome_of_parse? read found).imp_right .inl
  · exact Ipv6.isWritten_of_parse? read character found

theorem not_mem_of_parse? {address : Ip} (parsed : Ip.parse? text = some address)
    {character : Char} (unwritten : ¬IsWritten character) : character ∉ text :=
  fun found => unwritten (isWritten_of_parse? parsed character found)

@[simp]
theorem parse?_toText (address : Ip) : Ip.parse? address.toText = some address := by
  cases address with
  | v4 ipv4 => exact parse?_of_v4 (Ipv4.parse?_toText ipv4)
  | v6 ipv6 => exact parse?_of_v6 (Ipv6.parse?_toText ipv6)

theorem solid_toText (address : Ip) : Solid address.toText :=
  solid_of_isWritten (isWritten_of_parse? (parse?_toText address))

end Ip

theorem Ipv6.not_mem_of_parse? {address : Ipv6} (parsed : Ipv6.parse? text = some address)
    {character : Char} (unwritten : ¬IsWritten character) : character ∉ text :=
  fun found => unwritten (Ipv6.isWritten_of_parse? parsed character found)

theorem Ipv6.solid_of_parse? {address : Ipv6} (parsed : Ipv6.parse? text = some address) :
    Solid text :=
  solid_of_isWritten (Ipv6.isWritten_of_parse? parsed)

/-! ### Addresses with port -/

namespace Socket

variable {inside after : List Char} {ipv6 : Ipv6} {scope : UInt32} {port : UInt16}

theorem parse?_of_head (plain : text.head? ≠ some '[') :
    Socket.parse? text = do
      let (address, digits) ← cutFirst? ':' text
      return .v4 (← Ipv4.parse? address) (← port? digits) := by
  unfold Socket.parse?
  split
  · exact absurd rfl plain
  · rfl

theorem port?_eq_some_iff : port? text = some port ↔ IsDecimal text port.toNat := by
  have bounded : port.toNat ≤ 65535 := Nat.le_of_lt_succ port.toNat_lt
  rw [port?, Option.map_eq_some_iff]
  constructor
  · rintro ⟨value, read, rfl⟩
    obtain ⟨decimal, small⟩ := digits?_eq_some_iff.mp read
    rwa [UInt16.toNat_ofNat_of_lt' (Nat.lt_succ_of_le small)]
  · intro decimal
    exact ⟨port.toNat, digits?_eq_some_iff.mpr ⟨decimal, bounded⟩, UInt16.ofNat_toNat⟩

theorem scoped?_unscoped (read : Ipv6.parse? text = some ipv6) : scoped? text = some (ipv6, 0) := by
  have free : '%' ∉ text := Ipv6.not_mem_of_parse? read (by decide)
  rw [scoped?, cutFirst?_of_not_mem free, read]
  rfl

theorem scoped?_scope (read : Ipv6.parse? text = some ipv6)
    (decimal : IsDecimal digits scope.toNat) :
    scoped? (text ++ '%' :: digits) = some (ipv6, scope) := by
  have free : '%' ∉ text := Ipv6.not_mem_of_parse? read (by decide)
  have bounded : scope.toNat ≤ 4294967295 := Nat.le_of_lt_succ scope.toNat_lt
  have scopeRead := digits?_eq_some_iff.mpr ⟨decimal, bounded⟩
  simp only [scoped?, cutFirst?_append free, read, scopeRead, Option.bind_eq_bind,
    Option.bind_some, Option.pure_def, UInt32.ofNat_toNat]

theorem parse?_bracketed (free : ']' ∉ inside) (read : scoped? inside = some (ipv6, scope))
    (decimal : IsDecimal digits port.toNat) :
    Socket.parse? ('[' :: (inside ++ ']' :: ':' :: digits)) = some (.v6 ipv6 scope port) := by
  simp only [Socket.parse?, cutFirst?_append free, read, port?_eq_some_iff.mpr decimal,
    Option.bind_eq_bind, Option.bind_some, Option.pure_def]

theorem parse?_ipv6 (read : Ipv6.parse? inside = some ipv6)
    (decimal : IsDecimal digits port.toNat) :
    Socket.parse? ('[' :: (inside ++ ']' :: ':' :: digits)) = some (.v6 ipv6 0 port) :=
  parse?_bracketed (Ipv6.not_mem_of_parse? read (by decide)) (scoped?_unscoped read) decimal

theorem parse?_ipv6WithScope {scopeDigits : List Char} (read : Ipv6.parse? inside = some ipv6)
    (scopeDecimal : IsDecimal scopeDigits scope.toNat) (decimal : IsDecimal digits port.toNat) :
    Socket.parse? ('[' :: (inside ++ '%' :: scopeDigits ++ ']' :: ':' :: digits)) =
      some (.v6 ipv6 scope port) := by
  have free : ']' ∉ inside ++ '%' :: scopeDigits := by
    simp only [List.mem_append, List.mem_cons, not_or]
    exact ⟨Ipv6.not_mem_of_parse? read (by decide), by decide, scopeDecimal.not_mem rfl⟩
  exact parse?_bracketed free (scoped?_scope read scopeDecimal) decimal

theorem parse?_of_scoped?_none (free : ']' ∉ inside) (unread : scoped? inside = none) :
    Socket.parse? ('[' :: (inside ++ ']' :: after)) = none := by
  simp only [Socket.parse?, cutFirst?_append free, unread, Option.bind_eq_bind, Option.bind_some,
    Option.bind_none]

theorem parse?_of_port?_none (free : ']' ∉ inside)
    (unread : ∀ digits, after = ':' :: digits → port? digits = none) :
    Socket.parse? ('[' :: (inside ++ ']' :: after)) = none := by
  simp only [Socket.parse?, cutFirst?_append free, Option.bind_eq_bind, Option.bind_some]
  cases scoped? inside with
  | none => rfl
  | some found =>
      dsimp only [Option.bind]
      split
      next digits => rw [unread digits rfl]
      next => rfl

theorem parse?_ipv4 {address : Ipv4} (read : Ipv4.parse? text = some address)
    (decimal : IsDecimal digits port.toNat) :
    Socket.parse? (text ++ ':' :: digits) = some (.v4 address port) := by
  have free : ':' ∉ text := Ipv4.not_mem_of_parse? read
  have written : ∀ character ∈ text ++ ':' :: digits, IsWritten character := by
    intro character found
    rcases List.mem_append.mp found with inAddress | inPort
    · exact (Ipv4.isSome_of_parse? read inAddress).imp_right .inl
    · rcases List.mem_cons.mp inPort with colon | digit
      · exact .inr (.inr colon)
      · exact isWritten_of_isDecimal decimal character digit
  simp only [parse?_of_head (head?_of_isWritten written), cutFirst?_append free, read,
    port?_eq_some_iff.mpr decimal, Option.bind_eq_bind, Option.bind_some, Option.pure_def]

/-- An address alone is not split at one of its colons. -/
theorem parse?_of_ip {address : Ip} (parsed : Ip.parse? text = some address) :
    Socket.parse? text = none := by
  rw [parse?_of_head (head?_of_isWritten (Ip.isWritten_of_parse? parsed))]
  rcases Ip.parse?_cases parsed with ⟨ipv4, _, read⟩ | ⟨ipv6, _, read⟩
  · rw [cutFirst?_of_not_mem (Ipv4.not_mem_of_parse? read)]
    rfl
  · -- What stands before the first colon has no point, so it is no dotted address.
    obtain ⟨part, rest, cut, free, _⟩ := Ipv6.exists_cutFirst?_of_parse? read
    simp only [cut, Ipv4.parse?_of_not_mem free, Option.bind_eq_bind, Option.bind_some,
      Option.bind_none]

end Socket

/-! ### Resolvers -/

theorem readIp_eq_ok_iff {address : Ip} :
    readIp text = .ok address ↔ Ip.parse? text = some address := by
  unfold readIp
  split <;> simp [*]

theorem readResolver_padded {before text after : List Char} (filled : text ≠ [])
    (solid : Solid text)
    (blankBefore : ∀ character ∈ before, isBlank character = true)
    (blankAfter : ∀ character ∈ after, isBlank character = true) :
    readResolver (before ++ text ++ after) = readResolver text := by
  rw [readResolver, readResolver, trim_padded filled solid blankBefore blankAfter,
    solid.trim_eq]

/-- The forms of resolvers: what they stand for depends on the address and the digits alone. -/
inductive Regular : List Char → Socket → Prop where
  | alone {text : List Char} {address : Ip} (read : Ip.parse? text = some address) :
      Regular text (.ofIp 53 address)
  | ipv4 {text digits : List Char} {address : Ipv4} {port : UInt16}
      (read : Ipv4.parse? text = some address) (decimal : IsDecimal digits port.toNat) :
      Regular (text ++ ':' :: digits) (.v4 address port)
  | ipv6 {inside digits : List Char} {address : Ipv6} {port : UInt16}
      (read : Ipv6.parse? inside = some address) (decimal : IsDecimal digits port.toNat) :
      Regular ('[' :: (inside ++ ']' :: ':' :: digits)) (.v6 address 0 port)
  | ipv6WithScope {inside scopeDigits digits : List Char} {address : Ipv6} {scope : UInt32}
      {port : UInt16} (read : Ipv6.parse? inside = some address)
      (scopeDecimal : IsDecimal scopeDigits scope.toNat)
      (decimal : IsDecimal digits port.toNat) :
      Regular ('[' :: (inside ++ '%' :: scopeDigits ++ ']' :: ':' :: digits))
        (.v6 address scope port)
  | ipv6WithoutPort {inside : List Char} {address : Ipv6}
      (read : Ipv6.parse? inside = some address) :
      Regular ('[' :: (inside ++ [']'])) (.v6 address 0 53)

section Regular

variable {inside after scopeDigits : List Char} {socket : Socket} {scope : UInt32} {port : UInt16}

theorem readResolver_of_socket (trimmed : trim text = text)
    (parsed : Socket.parse? text = some socket) : readResolver text = .ok socket := by
  have filled : text ≠ [] := by
    rintro rfl
    cases parsed
  simp only [readResolver, trimmed, List.isEmpty_eq_false_iff.mpr filled, parsed,
    Bool.false_eq_true, if_false]

theorem readResolver_bracketed {address : Ip} (trimmed : trim ('[' :: (inside ++ ']' :: after)) =
      '[' :: (inside ++ ']' :: after)) (read : Ip.parse? inside = some address)
    (unparsed : Socket.parse? ('[' :: (inside ++ ']' :: after)) = none) :
    readResolver ('[' :: (inside ++ ']' :: after)) = readBracketed inside after := by
  have free : ']' ∉ inside := Ip.not_mem_of_parse? read (by decide)
  simp only [readResolver, trimmed, List.isEmpty_cons, unparsed, bracketed?, cutFirst?_append free,
    Bool.false_eq_true, if_false]

theorem readBracketed_withoutPort {address : Ip} (parsed : Ip.parse? inside = some address)
    (other : after.head? ≠ some ':') : readBracketed inside after = .ok (.ofIp 53 address) := by
  have read : readIp inside = .ok address := readIp_eq_ok_iff.mpr parsed
  unfold readBracketed
  rw [read]
  dsimp only [bind, Except.bind]
  split
  · exact absurd rfl other
  · rfl

theorem bracketed?_of_head (plain : text.head? ≠ some '[') : bracketed? text = none := by
  unfold bracketed?
  split
  · exact absurd rfl plain
  · rfl

theorem readResolver_plain (trimmed : trim text = text) (filled : text ≠ [])
    (plain : text.head? ≠ some '[') (unparsed : Socket.parse? text = none) :
    readResolver text = readPlain text := by
  simp only [readResolver, trimmed, List.isEmpty_eq_false_iff.mpr filled, unparsed,
    bracketed?_of_head plain, Bool.false_eq_true, if_false]

theorem readResolver_of_ip {address : Ip} (parsed : Ip.parse? text = some address) :
    Solid text ∧ readResolver text = .ok (.ofIp 53 address) := by
  have filled : text ≠ [] := by
    rintro rfl
    cases parsed
  have written := Ip.isWritten_of_parse? parsed
  have solid : Solid text := solid_of_isWritten written
  refine ⟨solid, ?_⟩
  rw [readResolver_plain solid.trim_eq filled (head?_of_isWritten written)
    (Socket.parse?_of_ip parsed), readPlain, parsed]
  rfl

theorem readResolver_ipv4 {address : Ipv4} (read : Ipv4.parse? text = some address)
    (decimal : IsDecimal digits port.toNat) :
    Solid (text ++ ':' :: digits) ∧
      readResolver (text ++ ':' :: digits) = .ok (.v4 address port) := by
  have solidText : Solid text :=
    solid_of_isWritten fun _ found => (Ipv4.isSome_of_parse? read found).imp_right .inl
  have solid : Solid (text ++ ':' :: digits) :=
    solid_append.mpr ⟨solidText, solid_cons.mpr ⟨rfl, solid_of_isDecimal decimal⟩⟩
  exact ⟨solid, readResolver_of_socket solid.trim_eq (Socket.parse?_ipv4 read decimal)⟩

theorem solid_inBrackets (solidInside : Solid inside) (decimal : IsDecimal digits port.toNat) :
    Solid ('[' :: (inside ++ ']' :: ':' :: digits)) := by
  simp only [solid_cons, solid_append, solidInside, solid_of_isDecimal decimal]
  decide

theorem readResolver_withoutPort {address : Ipv6} (parsed : Ipv6.parse? inside = some address) :
    Solid ('[' :: (inside ++ [']'])) ∧
      readResolver ('[' :: (inside ++ [']'])) = .ok (.v6 address 0 53) := by
  have free : ']' ∉ inside := Ipv6.not_mem_of_parse? parsed (by decide)
  have read := Ip.parse?_of_v6 parsed
  have solid : Solid ('[' :: (inside ++ [']'])) := by
    simp only [solid_cons, solid_append, solid_nil, Ipv6.solid_of_parse? parsed]
    decide
  have portless : Socket.parse? ('[' :: (inside ++ [']'])) = none :=
    Socket.parse?_of_port?_none free fun _ impossible => nomatch impossible
  refine ⟨solid, ?_⟩
  rw [readResolver_bracketed solid.trim_eq read portless]
  exact readBracketed_withoutPort read (by simp)

theorem readResolver_of_regular (regular : Regular text socket) :
    Solid text ∧ readResolver text = .ok socket := by
  cases regular with
  | alone read => exact readResolver_of_ip read
  | ipv4 read decimal => exact readResolver_ipv4 read decimal
  | ipv6 read decimal =>
      have solid := solid_inBrackets (Ipv6.solid_of_parse? read) decimal
      exact ⟨solid, readResolver_of_socket solid.trim_eq (Socket.parse?_ipv6 read decimal)⟩
  | @ipv6WithScope inside scopeDigits _ _ _ _ read scopeDecimal decimal =>
      have solidInside : Solid (inside ++ '%' :: scopeDigits) :=
        solid_append.mpr ⟨Ipv6.solid_of_parse? read,
          solid_cons.mpr ⟨rfl, solid_of_isDecimal scopeDecimal⟩⟩
      have solid := solid_inBrackets solidInside decimal
      exact ⟨solid, readResolver_of_socket solid.trim_eq
        (Socket.parse?_ipv6WithScope read scopeDecimal decimal)⟩
  | ipv6WithoutPort read => exact readResolver_withoutPort read

end Regular

/-! ### Written resolvers -/

/-- A resolver in one of the forms in which it may be written. -/
inductive Writes : String → Socket → Prop where
  | alone (address : Ip) : Writes address.text (.ofIp 53 address)
  | ipv4 (address : Ipv4) (port : UInt16) :
      Writes s!"{Ip.text (.v4 address)}:{decimal port.toNat}" (.v4 address port)
  | ipv6 (address : Ipv6) (port : UInt16) :
      Writes s!"[{Ip.text (.v6 address)}]:{decimal port.toNat}" (.v6 address 0 port)
  | ipv6WithScope (address : Ipv6) (scope : UInt32) (port : UInt16) :
      Writes s!"[{Ip.text (.v6 address)}%{decimal scope.toNat}]:{decimal port.toNat}"
        (.v6 address scope port)
  | ipv6WithoutPort (address : Ipv6) :
      Writes s!"[{Ip.text (.v6 address)}]" (.v6 address 0 53)

/-- What is written is in one of the forms. -/
theorem Writes.regular {text : String} {socket : Socket} (written : Writes text socket) :
    Regular text.toList socket := by
  cases written with
  | alone address =>
      rw [Ip.text, String.toList_ofList]
      exact .alone (Ip.parse?_toText address)
  | ipv4 address port =>
      have characters : s!"{Ip.text (.v4 address)}:{decimal port.toNat}".toList =
          address.toText ++ ':' :: digitsOf 10 port.toNat := by
        simp [decimal, Ip.text, Ip.toText, ToString.toString]
      rw [characters]
      exact .ipv4 (Ipv4.parse?_toText address) (isDecimal_digitsOf port.toNat)
  | ipv6 address port =>
      have characters : s!"[{Ip.text (.v6 address)}]:{decimal port.toNat}".toList =
          '[' :: (address.toText ++ ']' :: ':' :: digitsOf 10 port.toNat) := by
        simp [decimal, Ip.text, Ip.toText, ToString.toString]
      rw [characters]
      exact .ipv6 (Ipv6.parse?_toText address) (isDecimal_digitsOf port.toNat)
  | ipv6WithScope address scope port =>
      have characters :
          s!"[{Ip.text (.v6 address)}%{decimal scope.toNat}]:{decimal port.toNat}".toList =
            '[' :: (address.toText ++ '%' :: digitsOf 10 scope.toNat ++
              ']' :: ':' :: digitsOf 10 port.toNat) := by
        simp [decimal, Ip.text, Ip.toText, ToString.toString]
      rw [characters]
      exact .ipv6WithScope (Ipv6.parse?_toText address) (isDecimal_digitsOf scope.toNat)
        (isDecimal_digitsOf port.toNat)
  | ipv6WithoutPort address =>
      have characters :
          s!"[{Ip.text (.v6 address)}]".toList = '[' :: (address.toText ++ [']']) := by
        simp [Ip.text, Ip.toText, ToString.toString]
      rw [characters]
      exact .ipv6WithoutPort (Ipv6.parse?_toText address)

theorem parseResolver_padded {before text after : String} {socket : Socket}
    (blankBefore : ∀ character ∈ before.toList, isBlank character = true)
    (blankAfter : ∀ character ∈ after.toList, isBlank character = true)
    (solid : Solid text.toList) (read : readResolver text.toList = .ok socket) :
    parseResolver (before ++ text ++ after) = .ok socket := by
  have filled : text.toList ≠ [] := by
    intro empty
    rw [empty] at read
    cases read
  rw [parseResolver, String.toList_append, String.toList_append,
    readResolver_padded filled solid blankBefore blankAfter, read]

/--
Every written form is read as what it stands for, with any blank space around it. An address
without brackets is read as a whole, in whatever form it is written.
-/
theorem parseResolver_written {before after : String}
    (blankBefore : ∀ character ∈ before.toList, isBlank character = true)
    (blankAfter : ∀ character ∈ after.toList, isBlank character = true) :
    (∀ text socket, Writes text socket →
      parseResolver (before ++ text ++ after) = .ok socket) ∧
      ∀ (text : String) (address : Ip), Ip.parse? text.toList = some address →
        parseResolver (before ++ text ++ after) = .ok (.ofIp 53 address) := by
  constructor
  · intro text socket written
    obtain ⟨solid, read⟩ := readResolver_of_regular written.regular
    exact parseResolver_padded blankBefore blankAfter solid read
  · intro text address parsed
    obtain ⟨solid, read⟩ := readResolver_of_ip parsed
    exact parseResolver_padded blankBefore blankAfter solid read

/-- A link-local address with scope and port between blanks, and one that ends in a group alone. -/
theorem parseResolver_written_linkLocal :
    parseResolver (" " ++ "[fe80::1%3]:5353" ++ "\n") =
        .ok (.v6 ⟨[0xFE80, 0, 0, 0, 0, 0, 0, 1], rfl⟩ 3 5353) ∧
      parseResolver (" " ++ "fe80::5353" ++ "\n") =
        .ok (.v6 ⟨[0xFE80, 0, 0, 0, 0, 0, 0, 0x5353], rfl⟩ 0 53) := by
  have blankBefore : ∀ character ∈ " ".toList, isBlank character = true := by
    simp [isBlank]
  have blankAfter : ∀ character ∈ "\n".toList, isBlank character = true := by
    simp [isBlank]
  have written :
      Writes "[fe80::1%3]:5353" (.v6 ⟨[0xFE80, 0, 0, 0, 0, 0, 0, 1], rfl⟩ 3 5353) :=
    .ipv6WithScope ⟨[0xFE80, 0, 0, 0, 0, 0, 0, 1], rfl⟩ 3 5353
  have parsed : Ip.parse? "fe80::5353".toList =
      some (.v6 ⟨[0xFE80, 0, 0, 0, 0, 0, 0, 0x5353], rfl⟩) := by
    decide
  obtain ⟨forms, alone⟩ := parseResolver_written blankBefore blankAfter
  exact ⟨forms _ _ written, alone _ _ parsed⟩

end SplitDns.Address
