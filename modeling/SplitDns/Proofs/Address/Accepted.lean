import SplitDns.Proofs.Address.Resolvers

/-!
# Resolvers that are accepted

A text that is no socket address is cut at the bracket that closes its address, or at its last
colon, and each side is read by itself. So more is accepted than the regular forms: what stands
behind the bracket is passed over, the brackets may hold an IPv4 address, a port may have a plus
sign, and an IPv6 address with a port may do without brackets. `parseResolver_eq_ok_iff` tells all
that is accepted.
-/

namespace SplitDns.Address

open SplitDns.Text

/-- A text that is in none of the forms of resolvers, with what it is taken for. -/
inductive Irregular : List Char → Socket → Prop where
  /-- The text behind the bracket counts for nothing. -/
  | passedOver {inside after : List Char} {address : Ip} (read : Ip.parse? inside = some address)
      (filled : after ≠ []) (other : after.head? ≠ some ':') :
      Irregular ('[' :: (inside ++ ']' :: after)) (.ofIp 53 address)
  | ipv4InBrackets {inside : List Char} {address : Ipv4}
      (read : Ipv4.parse? inside = some address) :
      Irregular ('[' :: (inside ++ [']'])) (.v4 address 53)
  | ipv4InBracketsWithPort {inside digits : List Char} {address : Ipv4} {port : UInt16}
      (read : Ipv4.parse? inside = some address) (decimal : IsDecimal digits port.toNat) :
      Irregular ('[' :: (inside ++ ']' :: ':' :: digits)) (.v4 address port)
  | signedInBrackets {inside digits : List Char} {address : Ip} {port : UInt16}
      (read : Ip.parse? inside = some address) (decimal : IsDecimal digits port.toNat) :
      Irregular ('[' :: (inside ++ ']' :: ':' :: '+' :: digits)) (.ofIp port address)
  | signed {text digits : List Char} {address : Ip} {port : UInt16}
      (read : Ip.parse? text = some address) (decimal : IsDecimal digits port.toNat) :
      Irregular (text ++ ':' :: '+' :: digits) (.ofIp port address)
  | ipv6WithoutBrackets {text digits : List Char} {address : Ipv6} {port : UInt16}
      (read : Ipv6.parse? text = some address) (decimal : IsDecimal digits port.toNat)
      (whole : Ip.parse? (text ++ ':' :: digits) = none) :
      Irregular (text ++ ':' :: digits) (.v6 address 0 port)

variable {text inside after digits : List Char} {socket other : Socket} {port : UInt16}

/-! ### Parts of a text -/

theorem readPort_eq_ok_iff :
    readPort text = .ok port ↔ IsDecimal text port.toNat ∨
      ∃ digits, text = '+' :: digits ∧ IsDecimal digits port.toNat := by
  have bounded : port.toNat ≤ 65535 := Nat.le_of_lt_succ port.toNat_lt
  have number : readPort text = .ok port ↔ readNumber 65535 text = .ok port.toNat := by
    unfold readPort
    cases read : readNumber 65535 text with
    | error cause => simp [Except.map]
    | ok value =>
        have small : value < UInt16.size := Nat.lt_succ_of_le (readNumber_eq_ok_iff.mp read).2
        simp only [Except.map, Except.ok.injEq]
        constructor
        · rintro rfl
          exact (UInt16.toNat_ofNat_of_lt' small).symm
        · rintro rfl
          exact UInt16.ofNat_toNat
  rw [number, readNumber_eq_ok_iff, and_iff_left bounded]

theorem Ipv6.parse?_of_ipv4 {address : Ipv4} (read : Ipv4.parse? text = some address) :
    Ipv6.parse? text = none := by
  cases parsed : Ipv6.parse? text with
  | none => rfl
  | some ipv6 =>
      obtain ⟨_, _, _, _, colon⟩ := Ipv6.exists_cutFirst?_of_parse? parsed
      exact absurd colon (Ipv4.not_mem_of_parse? read)

namespace Ip

theorem parse?_of_mem {character : Char} (found : character ∈ text)
    (unwritten : ¬IsWritten character) : Ip.parse? text = none := by
  cases parsed : Ip.parse? text with
  | none => rfl
  | some address => exact absurd found (not_mem_of_parse? parsed unwritten)

theorem head?_of_parse? {address : Ip} (parsed : Ip.parse? text = some address)
    (rest : List Char) : (text ++ ':' :: rest).head? ≠ some '[' := by
  have plain := head?_of_isWritten (isWritten_of_parse? parsed)
  cases text with
  | nil => simp
  | cons first others => exact plain

end Ip

/-! ### Socket addresses -/

namespace Socket

theorem scoped?_cases {address : Ipv6} {scope : UInt32}
    (read : scoped? text = some (address, scope)) :
    (Ipv6.parse? text = some address ∧ scope = 0) ∨
      ∃ front digits, text = front ++ '%' :: digits ∧ Ipv6.parse? front = some address ∧
        IsDecimal digits scope.toNat := by
  unfold scoped? at read
  split at read
  next =>
    obtain ⟨found, parsed, same⟩ := Option.map_eq_some_iff.mp read
    cases same
    exact .inl ⟨parsed, rfl⟩
  next front digits cut =>
    obtain ⟨found, parsed, later⟩ := Option.bind_eq_some_iff.mp read
    obtain ⟨value, digitsRead, same⟩ := Option.bind_eq_some_iff.mp later
    cases same
    obtain ⟨decimal, small⟩ := digits?_eq_some_iff.mp digitsRead
    refine .inr ⟨front, digits, eq_of_cutFirst? cut, parsed, ?_⟩
    rwa [UInt32.toNat_ofNat_of_lt' (Nat.lt_succ_of_le small)]

theorem regular_of_parse? (parsed : Socket.parse? text = some socket) : Regular text socket := by
  unfold Socket.parse? at parsed
  split at parsed
  next rest =>
    obtain ⟨⟨inside, after⟩, cut, later⟩ := Option.bind_eq_some_iff.mp parsed
    obtain ⟨⟨address, scope⟩, read, last⟩ := Option.bind_eq_some_iff.mp later
    rw [eq_of_cutFirst? cut]
    dsimp only at last
    split at last
    next digits =>
      obtain ⟨port, portRead, same⟩ := Option.bind_eq_some_iff.mp last
      cases same
      have decimal := port?_eq_some_iff.mp portRead
      rcases scoped?_cases read with ⟨whole, rfl⟩ | ⟨front, scopeDigits, rfl, first, scopeDecimal⟩
      · exact .ipv6 whole decimal
      · exact .ipv6WithScope first scopeDecimal decimal
    next => cases last
  next =>
    obtain ⟨⟨front, digits⟩, cut, later⟩ := Option.bind_eq_some_iff.mp parsed
    obtain ⟨address, read, last⟩ := Option.bind_eq_some_iff.mp later
    obtain ⟨port, portRead, same⟩ := Option.bind_eq_some_iff.mp last
    cases same
    rw [eq_of_cutFirst? cut]
    exact .ipv4 read (port?_eq_some_iff.mp portRead)

/-- The first colon is inside of the address, and what stands before it has no points. -/
theorem parse?_of_ipv6 {address : Ipv6} (read : Ipv6.parse? text = some address)
    (rest : List Char) : Socket.parse? (text ++ ':' :: rest) = none := by
  obtain ⟨part, others, cut, noPoint, _⟩ := Ipv6.exists_cutFirst?_of_parse? read
  have joined : text ++ ':' :: rest = part ++ ':' :: (others ++ ':' :: rest) := by
    rw [eq_of_cutFirst? cut, List.append_assoc, List.cons_append]
  have plain := Ip.head?_of_parse? (Ip.parse?_of_v6 read) rest
  rw [parse?_of_head plain, joined, cutFirst?_append (not_mem_of_cutFirst? cut)]
  simp only [Ipv4.parse?_of_not_mem noPoint, Option.bind_eq_bind, Option.bind_some,
    Option.bind_none]

theorem port?_signed (digits : List Char) : port? ('+' :: digits) = none := by
  cases read : port? ('+' :: digits) with
  | none => rfl
  | some port =>
      exact absurd List.mem_cons_self ((port?_eq_some_iff.mp read).not_mem (by decide))

theorem scoped?_ipv4 {address : Ipv4} (read : Ipv4.parse? text = some address) :
    scoped? text = none := by
  have free : '%' ∉ text := Ip.not_mem_of_parse? (Ip.parse?_of_v4 read) (by decide)
  rw [scoped?, cutFirst?_of_not_mem free, Ipv6.parse?_of_ipv4 read]
  rfl

end Socket

/-! ### What is accepted -/

theorem readResolver_trim (text : List Char) : readResolver (trim text) = readResolver text := by
  rw [readResolver, readResolver, trim_trim]

theorem accepted_of_readBracketed (read : readBracketed inside after = .ok socket) :
    Regular ('[' :: (inside ++ ']' :: after)) socket ∨
      Irregular ('[' :: (inside ++ ']' :: after)) socket := by
  obtain ⟨address, addressRead, later⟩ := exists_of_bind_eq_ok read
  have parsed := readIp_eq_ok_iff.mp addressRead
  split at later
  next digits =>
    obtain ⟨port, portRead, same⟩ := exists_of_bind_eq_ok later
    cases same
    rcases readPort_eq_ok_iff.mp (eq_ok_of_mapError portRead) with
      decimal | ⟨unsigned, rfl, decimal⟩
    · rcases Ip.parse?_cases parsed with ⟨ipv4, rfl, ipv4Read⟩ | ⟨ipv6, rfl, ipv6Read⟩
      · exact .inr (.ipv4InBracketsWithPort ipv4Read decimal)
      · exact .inl (.ipv6 ipv6Read decimal)
    · exact .inr (.signedInBrackets parsed decimal)
  next other =>
    cases later
    by_cases empty : after = []
    · subst empty
      rcases Ip.parse?_cases parsed with ⟨ipv4, rfl, ipv4Read⟩ | ⟨ipv6, rfl, ipv6Read⟩
      · exact .inr (.ipv4InBrackets ipv4Read)
      · exact .inl (.ipv6WithoutPort ipv6Read)
    · refine .inr (.passedOver parsed empty ?_)
      intro colon
      obtain ⟨rest, begun⟩ := List.head?_eq_some_iff.mp colon
      exact other rest begun

theorem accepted_of_readPlain (read : readPlain text = .ok socket) :
    Regular text socket ∨ Irregular text socket := by
  unfold readPlain at read
  split at read
  next address parsed =>
    cases read
    exact .inl (.alone parsed)
  next whole =>
    split at read
    next front digits cut =>
      obtain ⟨address, addressRead, later⟩ := exists_of_bind_eq_ok read
      obtain ⟨port, portRead, same⟩ := exists_of_bind_eq_ok later
      cases same
      have parsed := readIp_eq_ok_iff.mp addressRead
      rw [eq_of_cutLast? cut] at whole ⊢
      rcases readPort_eq_ok_iff.mp (eq_ok_of_mapError portRead) with
        decimal | ⟨unsigned, rfl, decimal⟩
      · rcases Ip.parse?_cases parsed with ⟨ipv4, rfl, ipv4Read⟩ | ⟨ipv6, rfl, ipv6Read⟩
        · exact .inl (.ipv4 ipv4Read decimal)
        · exact .inr (.ipv6WithoutBrackets ipv6Read decimal whole)
      · exact .inr (.signed parsed decimal)
    next => cases read

theorem accepted_of_readResolver (read : readResolver text = .ok socket) :
    Regular (trim text) socket ∨ Irregular (trim text) socket := by
  unfold readResolver at read
  dsimp only at read
  split at read
  · cases read
  · split at read
    next found parsed =>
      cases read
      exact .inl (Socket.regular_of_parse? parsed)
    next =>
      split at read
      next inside after cut =>
        unfold bracketed? at cut
        split at cut
        next rest begun =>
          rw [begun, eq_of_cutFirst? cut]
          exact accepted_of_readBracketed read
        next => cases cut
      next => exact accepted_of_readPlain read

/-! ### What the irregular texts are taken for -/

theorem readBracketed_port {address : Ip} (read : Ip.parse? inside = some address)
    (portRead : readPort digits = .ok port) :
    readBracketed inside (':' :: digits) = .ok (.ofIp port address) := by
  simp only [readBracketed, readIp_eq_ok_iff.mpr read, portRead]
  rfl

theorem readPlain_port {address : Ip} (whole : Ip.parse? (text ++ ':' :: digits) = none)
    (free : ':' ∉ digits) (read : Ip.parse? text = some address)
    (portRead : readPort digits = .ok port) :
    readPlain (text ++ ':' :: digits) = .ok (.ofIp port address) := by
  simp only [readPlain, whole, cutLast?_append free, readWithPort, readIp_eq_ok_iff.mpr read,
    portRead]
  rfl

namespace Irregular

theorem parse?_eq_none (irregular : Irregular text socket) : Socket.parse? text = none := by
  cases irregular with
  | passedOver read filled other =>
      apply Socket.parse?_of_port?_none (Ip.not_mem_of_parse? read (by decide))
      rintro digits rfl
      exact absurd rfl other
  | ipv4InBrackets read | ipv4InBracketsWithPort read =>
      exact Socket.parse?_of_scoped?_none
        (Ip.not_mem_of_parse? (Ip.parse?_of_v4 read) (by decide)) (Socket.scoped?_ipv4 read)
  | signedInBrackets read =>
      apply Socket.parse?_of_port?_none (Ip.not_mem_of_parse? read (by decide))
      rintro digits same
      cases same
      exact Socket.port?_signed _
  | signed read =>
      rcases Ip.parse?_cases read with ⟨ipv4, rfl, ipv4Read⟩ | ⟨ipv6, rfl, ipv6Read⟩
      · rw [Socket.parse?_of_head (Ip.head?_of_parse? read _),
          cutFirst?_append (Ipv4.not_mem_of_parse? ipv4Read)]
        simp only [ipv4Read, Socket.port?_signed, Option.bind_eq_bind, Option.bind_some,
          Option.bind_none]
      · exact Socket.parse?_of_ipv6 ipv6Read _
  | ipv6WithoutBrackets read => exact Socket.parse?_of_ipv6 read _

theorem ip_eq_none (irregular : Irregular text socket) : Ip.parse? text = none := by
  cases irregular with
  | passedOver | ipv4InBrackets | ipv4InBracketsWithPort | signedInBrackets =>
      exact Ip.parse?_of_mem List.mem_cons_self (by decide)
  | @signed text digits =>
      have plus : '+' ∈ text ++ ':' :: '+' :: digits := by simp
      exact Ip.parse?_of_mem plus (by decide)
  | ipv6WithoutBrackets read decimal whole => exact whole

/-- Brackets with nothing behind them hold an IPv4 address. -/
theorem ipv6_eq_none (irregular : Irregular text socket)
    (cut : bracketed? text = some (inside, [])) : Ipv6.parse? inside = none := by
  have same {front back : List Char} {address : Ip} (read : Ip.parse? front = some address)
      (whole : bracketed? ('[' :: (front ++ ']' :: back)) = some (inside, [])) :
      front = inside ∧ back = [] := by
    rw [bracketed?, cutFirst?_append (Ip.not_mem_of_parse? read (by decide))] at whole
    cases whole
    exact ⟨rfl, rfl⟩
  cases irregular with
  | passedOver read filled => exact absurd (same read cut).2 filled
  | ipv4InBrackets read =>
      obtain ⟨rfl, _⟩ := same (Ip.parse?_of_v4 read) cut
      exact Ipv6.parse?_of_ipv4 read
  | ipv4InBracketsWithPort read => cases (same (Ip.parse?_of_v4 read) cut).2
  | signedInBrackets read => cases (same read cut).2
  | signed read =>
      rw [bracketed?_of_head (Ip.head?_of_parse? read _)] at cut
      cases cut
  | ipv6WithoutBrackets read =>
      rw [bracketed?_of_head (Ip.head?_of_parse? (Ip.parse?_of_v6 read) _)] at cut
      cases cut

theorem not_regular (irregular : Irregular text other) : ¬Regular text socket := by
  have unparsed := irregular.parse?_eq_none
  intro regular
  cases regular with
  | alone read => cases irregular.ip_eq_none.symm.trans read
  | ipv4 read decimal => cases unparsed.symm.trans (Socket.parse?_ipv4 read decimal)
  | ipv6 read decimal => cases unparsed.symm.trans (Socket.parse?_ipv6 read decimal)
  | ipv6WithScope read scopeDecimal decimal =>
      cases unparsed.symm.trans (Socket.parse?_ipv6WithScope read scopeDecimal decimal)
  | @ipv6WithoutPort inside address read =>
      have cut : bracketed? ('[' :: (inside ++ [']'])) = some (inside, []) :=
        cutFirst?_append (Ipv6.not_mem_of_parse? read (by decide)) []
      cases (irregular.ipv6_eq_none cut).symm.trans read

theorem readResolver_eq (irregular : Irregular text socket) (trimmed : trim text = text) :
    readResolver text = .ok socket := by
  have unparsed := irregular.parse?_eq_none
  cases irregular with
  | passedOver read filled other =>
      rw [readResolver_bracketed trimmed read unparsed]
      exact readBracketed_withoutPort read other
  | ipv4InBrackets read =>
      have parsed := Ip.parse?_of_v4 read
      rw [readResolver_bracketed trimmed parsed unparsed]
      exact readBracketed_withoutPort parsed (by simp)
  | ipv4InBracketsWithPort read decimal =>
      have parsed := Ip.parse?_of_v4 read
      rw [readResolver_bracketed trimmed parsed unparsed]
      exact readBracketed_port parsed (readPort_eq_ok_iff.mpr (.inl decimal))
  | signedInBrackets read decimal =>
      rw [readResolver_bracketed trimmed read unparsed]
      exact readBracketed_port read (readPort_eq_ok_iff.mpr (.inr ⟨_, rfl, decimal⟩))
  | @signed text digits address port read decimal =>
      have plus : '+' ∈ text ++ ':' :: '+' :: digits := by simp
      have free : ':' ∉ '+' :: digits :=
        List.not_mem_cons_of_ne_of_not_mem (by decide) (decimal.not_mem rfl)
      rw [readResolver_plain trimmed (by simp) (Ip.head?_of_parse? read _) unparsed]
      exact readPlain_port (Ip.parse?_of_mem plus (by decide)) free read
        (readPort_eq_ok_iff.mpr (.inr ⟨_, rfl, decimal⟩))
  | ipv6WithoutBrackets read decimal whole =>
      have parsed := Ip.parse?_of_v6 read
      rw [readResolver_plain trimmed (by simp) (Ip.head?_of_parse? parsed _) unparsed]
      exact readPlain_port whole (decimal.not_mem rfl) parsed
        (readPort_eq_ok_iff.mpr (.inl decimal))

end Irregular

/--
What is accepted, with what it is taken for: blank space around it does not matter, and beside the
forms of resolvers there are the irregular texts. No text is both.
-/
theorem parseResolver_eq_ok_iff (text : String) (socket : Socket) :
    (parseResolver text = .ok socket ↔
        Regular (trim text.toList) socket ∨ Irregular (trim text.toList) socket) ∧
      ∀ one other, Regular (trim text.toList) one → ¬Irregular (trim text.toList) other := by
  rw [parseResolver, ← readResolver_trim]
  refine ⟨⟨?_, ?_⟩, fun one other regular irregular => irregular.not_regular regular⟩
  · intro read
    rw [readResolver_trim] at read
    exact accepted_of_readResolver read
  · rintro (regular | irregular)
    · exact (readResolver_of_regular regular).2
    · exact irregular.readResolver_eq (trim_trim text.toList)

/-- A port without the colon before it is passed over, and the resolver has that of the protocol. -/
theorem parseResolver_passesOver :
    parseResolver "[::1]5353" = .ok (.v6 ⟨[0, 0, 0, 0, 0, 0, 0, 1], rfl⟩ 0 53) ∧
      ¬∃ socket, Regular (trim "[::1]5353".toList) socket := by
  have characters : trim "[::1]5353".toList = '[' :: ("::1".toList ++ ']' :: "5353".toList) := by
    decide
  have read : Ip.parse? "::1".toList = some (.v6 ⟨[0, 0, 0, 0, 0, 0, 0, 1], rfl⟩) := by
    decide
  have irregular : Irregular ('[' :: ("::1".toList ++ ']' :: "5353".toList))
      (.v6 ⟨[0, 0, 0, 0, 0, 0, 0, 1], rfl⟩ 0 53) :=
    .passedOver read (by decide) (by decide)
  rw [← characters] at irregular
  constructor
  · rw [parseResolver, ← readResolver_trim]
    exact irregular.readResolver_eq (trim_trim _)
  · rintro ⟨socket, regular⟩
    exact irregular.not_regular regular

end SplitDns.Address
