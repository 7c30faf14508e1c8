import Mathlib.Data.List.Infix

/-! # Textual IPv4 networks

Addresses and networks as the `ipaddress` module of Python reads and writes
them. An address is 32 bits; a network is an address together with a prefix
length, aligned to it (`Foundation.Ipv4.Network`). `parseNetwork` accepts a bare
address, a prefix length, a dotted netmask or a dotted hostmask and drops the
host bits (`IPv4Network(text, strict=False)`); `networkText` writes the network
address with its prefix length. Reading what was written gives the network back
(`Foundation.Ipv4.parseNetwork_networkText`).

Of IPv6 only the accepted texts matter (`isNetworkV6`); no text is accepted as
both (`Foundation.Ipv4.isNetworkV6_of_parseNetwork`).
-/

namespace Foundation.Ipv4

/-- The value of a string of decimal digits. -/
def decimal (digits : List Char) : Nat :=
  digits.foldl (fun value digit => 10 * value + (digit.toNat - '0'.toNat)) 0

/-- One octet of a dotted quad: one to three digits, no leading zero, at most
255. -/
def parseOctet (text : List Char) : Option Nat :=
  if text = [] then none
  else if ¬ text.all Char.isDigit then none
  else if 3 < text.length then none
  else if text ≠ ['0'] ∧ text.head? = some '0' then none
  else if 255 < decimal text then none
  else some (decimal text)

/-- A dotted quad. -/
def parseAddress (text : List Char) : Option (BitVec 32) :=
  match (text.splitOn '.').mapM parseOctet with
  | some [a, b, c, d] => some (BitVec.ofNat 32 (((a * 256 + b) * 256 + c) * 256 + d))
  | _ => none

/-- The four octets of an address, the highest first. -/
def octets (address : BitVec 32) : List Nat :=
  [address.toNat / 16777216, address.toNat / 65536 % 256, address.toNat / 256 % 256,
    address.toNat % 256]

/-- The dotted quad of an address. -/
def addressText (address : BitVec 32) : List Char :=
  ['.'].intercalate ((octets address).map (Nat.toDigits 10))

/-- The mask selecting a prefix of the given length. -/
def netmask (length : Nat) : BitVec 32 := BitVec.allOnes 32 <<< (32 - length)

/-- The prefix length a mask stands for, if it is a netmask. -/
def prefixOfMask (mask : BitVec 32) : Option Nat :=
  (List.range 33).find? fun length => netmask length == mask

/-- A prefix length in decimal. -/
def parsePrefix (bound : Nat) (text : List Char) : Option Nat :=
  if text = [] ∨ ¬ text.all Char.isDigit ∨ bound < decimal text then none
  else some (decimal text)

/-- The part after the slash: a prefix length, a netmask, or else a hostmask. -/
def parseMask (text : List Char) : Option Nat :=
  (parsePrefix 32 text).orElse fun _ =>
    (parseAddress text).bind fun mask =>
      (prefixOfMask mask).orElse fun _ => prefixOfMask (~~~ mask)

/-- An address with a prefix length and no bits beyond the prefix. -/
structure Network where
  address : BitVec 32
  prefixlen : Nat
  bounded : prefixlen ≤ 32
  aligned : address &&& netmask prefixlen = address
  deriving DecidableEq

/-- The network of the given prefix length around an address. -/
def Network.around (address : BitVec 32) (length : Nat) (bounded : length ≤ 32) : Network where
  address := address &&& netmask length
  prefixlen := length
  bounded := bounded
  aligned := by rw [BitVec.and_assoc, BitVec.and_self]

/-- The addresses of a network. -/
def Network.Contains (network : Network) (address : BitVec 32) : Prop :=
  address &&& netmask network.prefixlen = network.address

instance (network : Network) (address : BitVec 32) : Decidable (network.Contains address) :=
  inferInstanceAs (Decidable (_ = _))

/-- `IPv4Network(text, strict=False)`. -/
def parseNetwork (text : List Char) : Option Network :=
  match text.splitOn '/' with
  | [address] => (parseAddress address).map fun value => .around value 32 (Nat.le_refl 32)
  | [address, mask] =>
      (parseAddress address).bind fun value => (parseMask mask).bind fun length =>
        if bounded : length ≤ 32 then some (.around value length bounded) else none
  | _ => none

/-- `str(network)`. -/
def networkText (network : Network) : List Char :=
  addressText network.address ++ '/' :: Nat.toDigits 10 network.prefixlen

/-! ## Reading back what was written -/

private theorem octet_digits : ∀ value : Fin 256,
    parseOctet (Nat.toDigits 10 value) = some value.val ∧ '.' ∉ Nat.toDigits 10 value.val ∧
      '/' ∉ Nat.toDigits 10 value.val := by decide +kernel

private theorem prefix_digits : ∀ length : Fin 33,
    parsePrefix 32 (Nat.toDigits 10 length) = some length.val ∧
      '/' ∉ Nat.toDigits 10 length.val := by decide +kernel

/-- The octets of an address are bytes. -/
theorem octets_lt (address : BitVec 32) : ∀ value ∈ octets address, value < 256 := by
  have bound := address.isLt
  simp only [octets, List.mem_cons, List.not_mem_nil, or_false]
  rintro value (rfl | rfl | rfl | rfl) <;> omega

/-- The text of an address has no slash. -/
theorem not_mem_addressText (address : BitVec 32) : '/' ∉ addressText address := by
  have digits : ∀ value ∈ octets address, '/' ∉ Nat.toDigits 10 value := fun value octet =>
    (octet_digits ⟨value, octets_lt address value octet⟩).2.2
  simp only [octets, List.mem_cons, List.not_mem_nil, or_false, forall_eq_or_imp,
    forall_eq] at digits
  simp [addressText, octets, List.intercalate, digits]

/-- Reading the text of an address gives the address back. -/
theorem parseAddress_addressText (address : BitVec 32) :
    parseAddress (addressText address) = some address := by
  have parts : (addressText address).splitOn '.' = (octets address).map (Nat.toDigits 10) := by
    refine List.splitOn_intercalate _ ?_ (by simp [octets])
    intro part written
    obtain ⟨value, octet, rfl⟩ := List.mem_map.mp written
    exact (octet_digits ⟨value, octets_lt address value octet⟩).2.1
  have values : ((octets address).map (Nat.toDigits 10)).mapM parseOctet =
      some (octets address) := by
    rw [List.mapM_map]
    have bounds := octets_lt address
    generalize octets address = remaining at bounds
    induction remaining with
    | nil => rfl
    | cons value rest ih =>
        have head := (octet_digits ⟨value, bounds value List.mem_cons_self⟩).1
        simp only [List.mapM_cons, Function.comp_apply] at head ih ⊢
        rw [head, ih fun other member => bounds other (List.mem_cons_of_mem _ member)]
        rfl
  rw [parseAddress, parts, values]
  have bound := address.isLt
  simp only [octets]
  congr 1
  apply BitVec.eq_of_toNat_eq
  rw [BitVec.toNat_ofNat]
  omega

/-- Reading the text of a network gives the network back. -/
theorem parseNetwork_networkText (network : Network) :
    parseNetwork (networkText network) = some network := by
  obtain ⟨read, clean⟩ := prefix_digits ⟨network.prefixlen, Nat.lt_succ_of_le network.bounded⟩
  have parts : (networkText network).splitOn '/' =
      [addressText network.address, Nat.toDigits 10 network.prefixlen] := by
    rw [networkText, List.splitOn_append_cons_self_of_not_mem (not_mem_addressText _),
      List.splitOn_eq_singleton clean]
  rw [parseNetwork, parts]
  simp only [parseAddress_addressText, Option.bind_some, parseMask, read, Option.orElse_some,
    network.bounded, ↓reduceDIte, Network.around, network.aligned]

/-- Different networks are written differently. -/
theorem networkText_injective : Function.Injective networkText := fun first second same =>
  Option.some.inj (by
    rw [← parseNetwork_networkText first, same, parseNetwork_networkText])

/-- A bare address is the network of its full mask. -/
theorem parseNetwork_full_mask {text : List Char} (bare : '/' ∉ text) :
    parseNetwork (text ++ '/' :: "255.255.255.255".toList) = parseNetwork text := by
  have mask : parseMask "255.255.255.255".toList = some 32 := by decide +kernel
  have clean : '/' ∉ "255.255.255.255".toList := by decide
  rw [parseNetwork, parseNetwork, List.splitOn_append_cons_self_of_not_mem bare,
    List.splitOn_eq_singleton clean, List.splitOn_eq_singleton bare]
  simp only [mask, Option.bind_some, Nat.le_refl, ↓reduceDIte]
  cases parseAddress text <;> rfl

private theorem prefixOfMask_netmask : ∀ length : Fin 33,
    prefixOfMask (netmask length) = some length.val := by decide +kernel

/-- A dotted quad is no prefix length. -/
theorem parsePrefix_addressText (bound : Nat) (address : BitVec 32) :
    parsePrefix bound (addressText address) = none := by
  have dotted : ¬ ((addressText address).all Char.isDigit = true) := by
    intro digits
    have dot : '.' ∈ addressText address := by
      simp [addressText, octets, List.intercalate]
    have digit := List.all_eq_true.mp digits '.' dot
    exact absurd digit (by decide)
  rw [parsePrefix, if_pos (Or.inr (Or.inl dotted))]

/-- A network written with a dotted mask is read back. -/
theorem parseNetwork_masked (network : Network) :
    parseNetwork (addressText network.address ++ '/' :: addressText (netmask network.prefixlen)) =
      some network := by
  have mask : parseMask (addressText (netmask network.prefixlen)) = some network.prefixlen := by
    have found := prefixOfMask_netmask ⟨network.prefixlen, Nat.lt_succ_of_le network.bounded⟩
    rw [parseMask, parsePrefix_addressText, parseAddress_addressText]
    simp only [Option.orElse_none, Option.bind_some, found, Option.orElse_some]
  have parts : (addressText network.address ++
      '/' :: addressText (netmask network.prefixlen)).splitOn '/' =
        [addressText network.address, addressText (netmask network.prefixlen)] := by
    rw [List.splitOn_append_cons_self_of_not_mem (not_mem_addressText _),
      List.splitOn_eq_singleton (not_mem_addressText _)]
  rw [parseNetwork, parts]
  simp only [parseAddress_addressText, Option.bind_some, mask, network.bounded, ↓reduceDIte,
    Network.around, network.aligned]

/-! ## Networks as sets of addresses -/

/-- A netmask has the upper bits. -/
theorem getLsbD_netmask (length bit : Nat) :
    (netmask length).getLsbD bit = (decide (bit < 32) && decide (32 - length ≤ bit)) := by
  rw [netmask, BitVec.getLsbD_shiftLeft, BitVec.getLsbD_allOnes]
  by_cases low : bit < 32 <;> by_cases high : 32 - length ≤ bit <;> simp [low, high]
  omega

namespace Network

variable {first second : Network}

/-- A network contains its own address. -/
theorem contains_address (network : Network) : network.Contains network.address := network.aligned

/-- A shorter prefix leaves room for addresses a longer one does not. -/
theorem prefixlen_le_of_contains
    (within : ∀ address, first.Contains address → second.Contains address) :
    second.prefixlen ≤ first.prefixlen := by
  by_contra shorter
  -- the last address of the first network differs from its first one in the bit after the prefix
  have last : first.Contains (first.address ||| ~~~ netmask first.prefixlen) := by
    have masked : (first.address ||| ~~~ netmask first.prefixlen) &&& netmask first.prefixlen =
        first.address &&& netmask first.prefixlen := by
      apply BitVec.eq_of_getLsbD_eq
      intro bit bound
      rw [BitVec.getLsbD_and, BitVec.getLsbD_and, BitVec.getLsbD_or, BitVec.getLsbD_not]
      cases (netmask first.prefixlen).getLsbD bit <;> simp
    exact masked.trans first.aligned
  have same : (first.address ||| ~~~ netmask first.prefixlen) &&& netmask second.prefixlen =
      first.address &&& netmask second.prefixlen :=
    (within _ last).trans (within _ first.contains_address).symm
  have bit := congrArg (fun bits => bits.getLsbD (31 - first.prefixlen)) same
  have clear := congrArg (fun bits => bits.getLsbD (31 - first.prefixlen)) first.aligned
  have bound := second.bounded
  have beyond : ¬ 32 - first.prefixlen ≤ 31 - first.prefixlen := by omega
  have inside : 32 - second.prefixlen ≤ 31 - first.prefixlen := by omega
  have small : 31 - first.prefixlen < 32 := by omega
  simp only [BitVec.getLsbD_and, BitVec.getLsbD_or, BitVec.getLsbD_not, getLsbD_netmask, beyond,
    inside, small, decide_true, decide_false, Bool.and_false, Bool.not_false, Bool.and_true,
    Bool.or_true] at bit clear
  rw [← clear] at bit
  cases bit

/-- A network is given by its addresses. -/
theorem eq_of_contains (same : ∀ address, first.Contains address ↔ second.Contains address) :
    first = second := by
  have lengths : first.prefixlen = second.prefixlen :=
    Nat.le_antisymm (prefixlen_le_of_contains fun address => (same address).mpr)
      (prefixlen_le_of_contains fun address => (same address).mp)
  have within : second.Contains first.address := (same _).mp first.contains_address
  have addresses : first.address = second.address := by
    rw [← within, ← lengths, first.aligned]
  cases first
  cases second
  cases lengths
  cases addresses
  rfl

end Network

/-! ## IPv6 -/

/-- One group of an IPv6 address: up to four hexadecimal digits. -/
def isHextet (text : List Char) : Bool :=
  text ≠ [] && text.all (fun digit => digit.isDigit || ('a' ≤ digit && digit ≤ 'f') ||
    ('A' ≤ digit && digit ≤ 'F')) && text.length ≤ 4

/-- The groups of an IPv6 address, an IPv4 tail counting for two. The values of
those two are not needed, only that they are groups. -/
def hextets (text : List Char) : Option (List (List Char)) :=
  let parts := text.splitOn ':'
  if parts.length < 3 then none
  else if '.' ∈ parts.getLastD [] then
    (parseAddress (parts.getLastD [])).map fun _ => parts.dropLast ++ [['0'], ['0']]
  else some parts

/-- The positions strictly inside the list at which a group is empty. -/
def skips (parts : List (List Char)) : List Nat :=
  (List.range (parts.length - 1)).filter fun index => index ≠ 0 && parts.getD index [] == []

/-- An IPv6 address without scope: eight groups, or fewer around one `::`. -/
def isAddressV6 (text : List Char) : Bool :=
  match hextets text with
  | none => false
  | some parts =>
      if 9 < parts.length then false
      else match skips parts with
        | [] => parts.length == 8 && parts.all isHextet
        | [skip] =>
            let high := parts.take skip
            let low := parts.drop (skip + 1)
            let high := if parts.headD [] = [] then (if skip = 1 then some [] else none)
              else some high
            let low := if parts.getLastD [] = [] then (if low.length = 1 then some [] else none)
              else some low
            match high, low with
            | some high, some low =>
                high.length + low.length < 8 && high.all isHextet && low.all isHextet
            | _, _ => false
        | _ => false

/-- `IPv6Network(text, strict=False)` accepts the text. -/
def isNetworkV6 (text : List Char) : Bool :=
  let accepts := fun address : List Char =>
    match address.splitOn '%' with
    | [plain] => isAddressV6 plain
    | [plain, scope] => isAddressV6 plain && scope ≠ []
    | _ => false
  match text.splitOn '/' with
  | [address] => accepts address
  | [address, mask] => accepts address && (parsePrefix 128 mask).isSome
  | _ => false

/-- A text that is an address has only digits and dots. -/
theorem mem_of_parseAddress {text : List Char} {address : BitVec 32}
    (parsed : parseAddress text = some address) {char : Char} (member : char ∈ text) :
    char = '.' ∨ char.isDigit = true := by
  have quad : ∃ values, (text.splitOn '.').mapM parseOctet = some values := by
    rw [parseAddress] at parsed
    split at parsed
    · exact ⟨_, ‹_›⟩
    · cases parsed
  obtain ⟨values, read⟩ := quad
  have joined : ['.'].intercalate (text.splitOn '.') = text := List.intercalate_splitOn '.'
  rw [← joined] at member
  clear joined parsed
  generalize text.splitOn '.' = parts at read member
  induction parts generalizing values with
  | nil => simp [List.intercalate] at member
  | cons part rest ih =>
      rw [List.mapM_cons] at read
      obtain ⟨value, first, values', others, rfl⟩ := by
        simpa only [Option.bind_eq_bind, Option.bind_eq_some_iff, Option.pure_def,
          Option.some.injEq] using read
      have digits : char ∈ part → char.isDigit = true := by
        intro inside
        rw [parseOctet] at first
        split_ifs at first with empty clean
        exact List.all_eq_true.mp clean char inside
      rcases rest with _ | ⟨next, rest⟩
      · exact Or.inr (digits (by simpa [List.intercalate] using member))
      · have split : char ∈ part ∨ char = '.' ∨ char ∈ ['.'].intercalate (next :: rest) := by
          simpa [List.intercalate] using member
        rcases split with inside | rfl | later
        · exact Or.inr (digits inside)
        · exact Or.inl rfl
        · exact ih values' others later

/-- No text is both an IPv4 and an IPv6 network. -/
theorem isNetworkV6_of_parseNetwork {text : List Char} {network : Network}
    (parsed : parseNetwork text = some network) : isNetworkV6 text = false := by
  have plain : ∀ {address : List Char} {value : BitVec 32}, parseAddress address = some value →
      address.splitOn '%' = [address] ∧ isAddressV6 address = false := by
    intro address value read
    have percent : '%' ∉ address := fun member => by
      rcases mem_of_parseAddress read member with equal | digit
      · exact absurd equal (by decide)
      · exact absurd digit (by decide)
    have colon : ':' ∉ address := fun member => by
      rcases mem_of_parseAddress read member with equal | digit
      · exact absurd equal (by decide)
      · exact absurd digit (by decide)
    refine ⟨List.splitOn_eq_singleton percent, ?_⟩
    rw [isAddressV6, hextets, List.splitOn_eq_singleton colon]
    rfl
  rw [parseNetwork] at parsed
  split at parsed
  · rename_i address parts
    obtain ⟨value, read, _⟩ := Option.map_eq_some_iff.mp parsed
    rw [isNetworkV6, parts]
    simp only [(plain read).1, (plain read).2]
  · rename_i address mask parts
    obtain ⟨value, read, _⟩ := Option.bind_eq_some_iff.mp parsed
    rw [isNetworkV6, parts]
    simp only [(plain read).1, (plain read).2, Bool.false_and]
  · cases parsed

example : (isNetworkV6 "2001:db8::/32".toList, isNetworkV6 "::ffff:10.0.0.1".toList,
    isNetworkV6 ":1::".toList, isNetworkV6 "10.0.0.1".toList) = (true, true, false, false) := by
  decide +kernel

end Foundation.Ipv4
