import MediaHub.Policy.IpReadBack

namespace MediaHub.Policy

open Text (takeDigits ofDigits toDigit)

/-- What is read of a text holds no slash. -/
def ReadsNoSlash (s rest : Text) : Prop := ∃ front : Text, '/' ∉ front ∧ s = front ++ rest

namespace ReadsNoSlash

theorem refl (s : Text) : ReadsNoSlash s s := ⟨[], by simp, rfl⟩

theorem trans {s middle rest : Text} (h : ReadsNoSlash s middle)
    (hrest : ReadsNoSlash middle rest) : ReadsNoSlash s rest := by
  obtain ⟨front, hfront, rfl⟩ := h
  obtain ⟨next, hnext, rfl⟩ := hrest
  refine ⟨front ++ next, ?_, (List.append_assoc _ _ _).symm⟩
  simp [hfront, hnext]

theorem cons {c : Char} (hc : c ≠ '/') {s rest : Text} (h : ReadsNoSlash s rest) :
    ReadsNoSlash (c :: s) rest := by
  obtain ⟨front, hfront, rfl⟩ := h
  refine ⟨c :: front, ?_, rfl⟩
  simp [hfront, hc.symm]

theorem notMem {s : Text} (h : ReadsNoSlash s []) : '/' ∉ s := by
  obtain ⟨front, hfront, rfl⟩ := h
  simpa using hfront

end ReadsNoSlash

theorem toDigit_slash (radix : Nat) : toDigit radix '/' = none := by
  rfl

theorem takeDigits_readsNoSlash (radix : Nat) (s : Text) :
    ReadsNoSlash s (takeDigits radix s).2 := by
  induction s with
  | nil => exact ReadsNoSlash.refl []
  | cons c s ih =>
      rw [takeDigits]
      split
      · exact ReadsNoSlash.refl _
      · next digit hdigit =>
          apply ReadsNoSlash.cons _ ih
          rintro rfl
          rw [toDigit_slash] at hdigit
          simp at hdigit

theorem readNumber_readsNoSlash {radix maxDigits bound : Nat} {allowZeroPrefix : Bool}
    {s : Text} {number : Nat × Text}
    (h : readNumber radix maxDigits bound allowZeroPrefix s = some number) :
    ReadsNoSlash s number.2 := by
  rw [readNumber] at h
  split at h
  · simp at h
  · obtain rfl := Option.some.inj h
    exact takeDigits_readsNoSlash radix s

theorem readSeparator_readsNoSlash {α : Type} {separator : Char} (hseparator : separator ≠ '/')
    {inner : Text → Option (α × Text)}
    (hinner : ∀ {s read}, inner s = some read → ReadsNoSlash s read.2)
    {index : Nat} {s : Text} {read : α × Text}
    (h : readSeparator separator index inner s = some read) : ReadsNoSlash s read.2 := by
  unfold readSeparator at h
  split at h
  · exact hinner h
  · split at h
    · split at h
      · next heq => exact ReadsNoSlash.cons (heq ▸ hseparator) (hinner h)
      · exact nomatch h
    · exact nomatch h

theorem readOctets_readsNoSlash {remaining index : Nat} {s : Text} {octets : List Nat × Text}
    (h : readOctets index remaining s = some octets) : ReadsNoSlash s octets.2 := by
  induction remaining generalizing index s octets with
  | zero =>
      obtain rfl := Option.some.inj h
      exact ReadsNoSlash.refl s
  | succ remaining ih =>
      obtain ⟨octet, hoctet, h⟩ := Option.bind_eq_some_iff.1 h
      obtain ⟨rest, hrest, h⟩ := Option.bind_eq_some_iff.1 h
      obtain rfl := Option.some.inj h
      have hfirst : ReadsNoSlash s octet.2 :=
        readSeparator_readsNoSlash (by decide) readNumber_readsNoSlash hoctet
      have hnext : ReadsNoSlash octet.2 rest.2 := ih hrest
      exact hfirst.trans hnext

theorem readGroups_readsNoSlash (remaining index : Nat) (s : Text) :
    ReadsNoSlash s (readGroups index remaining s).2.2 := by
  induction remaining generalizing index s with
  | zero => exact ReadsNoSlash.refl s
  | succ remaining ih =>
      rw [readGroups]
      split
      · next octets rest hread =>
          split at hread
          · simp at hread
          · exact readSeparator_readsNoSlash (by decide) readOctets_readsNoSlash hread
      · split
        · next group rest hread =>
            have hfirst : ReadsNoSlash s rest :=
              readSeparator_readsNoSlash (by decide) readNumber_readsNoSlash hread
            exact hfirst.trans (ih (index + 1) rest)
        · exact ReadsNoSlash.refl s

theorem readIpv6Addr_readsNoSlash {s : Text} {groups : List Nat × Text}
    (h : readIpv6Addr s = some groups) : ReadsNoSlash s groups.2 := by
  have hhead := readGroups_readsNoSlash 8 0 s
  rw [readIpv6Addr] at h
  generalize readGroups 0 8 s = head at h hhead
  simp only at h
  split at h
  · obtain rfl := Option.some.inj h
    exact hhead
  · split at h
    · simp at h
    · split at h
      · next rest heq =>
          obtain rfl := Option.some.inj h
          have htail := readGroups_readsNoSlash (8 - (head.1.length + 1)) 0 rest
          rw [heq] at hhead
          apply hhead.trans
          exact ReadsNoSlash.cons (by decide) (ReadsNoSlash.cons (by decide) htail)
      · simp at h

theorem notMem_of_parseIpAddr {s : Text} {address : IpAddr} (h : parseIpAddr s = some address) :
    '/' ∉ s := by
  unfold parseIpAddr at h
  split at h
  · next octets rest hread =>
      split at h
      · next hrest =>
          subst hrest
          exact ReadsNoSlash.notMem (readOctets_readsNoSlash hread)
      · exact nomatch h
  · split at h
    · next groups hread => exact ReadsNoSlash.notMem (readIpv6Addr_readsNoSlash hread)
    · exact nomatch h

namespace IpNetwork

/-- No bit after the prefix is set. -/
def HostBitsZero (prefixLen : Nat) : IpAddr → Prop
  | .v4 address => ∀ i, prefixLen ≤ i → address.getMsbD i = false
  | .v6 address => ∀ i, prefixLen ≤ i → address.getMsbD i = false

theorem and_mask_eq_self_iff {w : Nat} {address mask : BitVec w} {prefixLen : Nat}
    (hmask : ∀ i < w, mask.getMsbD i = decide (i < prefixLen)) :
    address &&& mask = address ↔ ∀ i, prefixLen ≤ i → address.getMsbD i = false := by
  constructor
  · intro h i hi
    rw [← h, BitVec.getMsbD_and]
    rcases Nat.lt_or_ge i w with hlt | hge
    · rw [hmask i hlt, decide_eq_false (by omega), Bool.and_false]
    · rw [BitVec.getMsbD_of_ge _ _ hge, Bool.false_and]
  · intro h
    apply BitVec.eq_of_getMsbD_eq
    intro i hi
    rw [BitVec.getMsbD_and, hmask i hi]
    by_cases hlt : i < prefixLen
    · rw [decide_eq_true hlt, Bool.and_true]
    · rw [h i (by omega), Bool.false_and]

theorem maskIp_eq_self_iff {address : IpAddr} {prefixLen : Nat}
    (h : prefixLen ≤ maxPrefix address) :
    maskIp address prefixLen = address ↔ HostBitsZero prefixLen address := by
  cases address with
  | v4 address =>
      rw [maskIp, IpAddr.v4.injEq]
      exact and_mask_eq_self_iff fun i _ => getMsbD_mask h
  | v6 address =>
      rw [maskIp, IpAddr.v6.injEq]
      exact and_mask_eq_self_iff fun i _ => getMsbD_mask h

/-- Decimal digits, after a plus sign or none, stand for the number. -/
def NamesNumber (text : Text) (n : Nat) : Prop :=
  ∃ digits : List Nat, digits ≠ [] ∧ (∀ digit ∈ digits, digit < 10) ∧ ofDigits 10 digits = n ∧
    (text = digits.map Nat.digitChar ∨ text = '+' :: digits.map Nat.digitChar)

theorem parseUnsigned_eq_some_iff {bound n : Nat} {text : Text} :
    parseUnsigned bound text = some n ↔ NamesNumber text n ∧ n < bound := by
  have hread : ∀ unsigned : Text,
      (if (takeDigits 10 unsigned).1 ≠ [] ∧ (takeDigits 10 unsigned).2 = [] ∧
          ofDigits 10 (takeDigits 10 unsigned).1 < bound then
        some (ofDigits 10 (takeDigits 10 unsigned).1) else none) = some n ↔
      ∃ digits : List Nat, digits ≠ [] ∧ (∀ digit ∈ digits, digit < 10) ∧
        ofDigits 10 digits = n ∧ unsigned = digits.map Nat.digitChar ∧ n < bound := by
    intro unsigned
    constructor
    · intro h
      split at h
      · next hdigits =>
          obtain ⟨hne, hrest, hlt⟩ := hdigits
          obtain rfl := Option.some.inj h
          obtain ⟨heq, hall⟩ := Text.eq_map_digitChar_of_takeDigits (Prod.ext rfl hrest)
          exact ⟨_, hne, hall, rfl, heq, hlt⟩
      · cases h
    · rintro ⟨digits, hne, hall, rfl, rfl, hlt⟩
      have htake := Text.takeDigits_append (by decide) hall (Text.noDigit_nil 10)
      rw [List.append_nil] at htake
      rw [htake, if_pos ⟨hne, rfl, hlt⟩]
  have hplus : ∀ {digits : List Nat} {rest : Text}, (∀ digit ∈ digits, digit < 10) →
      digits.map Nat.digitChar ≠ '+' :: rest := by
    intro digits rest hall heq
    have hnot : ∀ digit < 10, Nat.digitChar digit ≠ '+' := by decide
    have hmem : '+' ∈ digits.map Nat.digitChar := heq ▸ List.mem_cons_self
    obtain ⟨digit, hdigit, hchar⟩ := List.mem_map.1 hmem
    exact hnot digit (hall digit hdigit) hchar
  unfold parseUnsigned
  split
  · next rest =>
      rw [hread]
      constructor
      · rintro ⟨digits, hne, hall, hvalue, heq, hlt⟩
        exact ⟨⟨digits, hne, hall, hvalue, Or.inr (congrArg _ heq)⟩, hlt⟩
      · rintro ⟨⟨digits, hne, hall, hvalue, heq | heq⟩, hlt⟩
        · exact absurd heq.symm (hplus hall)
        · exact ⟨digits, hne, hall, hvalue, (List.cons.inj heq).2, hlt⟩
  · next hunsigned =>
      rw [hread]
      constructor
      · rintro ⟨digits, hne, hall, hvalue, heq, hlt⟩
        exact ⟨⟨digits, hne, hall, hvalue, Or.inl heq⟩, hlt⟩
      · rintro ⟨⟨digits, hne, hall, hvalue, heq | heq⟩, hlt⟩
        · exact ⟨digits, hne, hall, hvalue, heq, hlt⟩
        · exact absurd heq (hunsigned _)

theorem maxPrefix_le (address : IpAddr) : maxPrefix address ≤ 128 := by
  rw [maxPrefix]
  split
  · decide
  · decide

/-- A text names a network when it is an address, or an address and a prefix in range with no host
bit set. -/
theorem parse_eq_some_iff {value : Text} {self : IpNetwork} :
    parse value = some self ↔
      (parseIpAddr value = some self.network ∧ self.prefixLen = maxPrefix self.network) ∨
      ∃ address prefixLen : Text, value = address ++ '/' :: prefixLen ∧
        parseIpAddr address = some self.network ∧ NamesNumber prefixLen self.prefixLen ∧
        self.prefixLen ≤ maxPrefix self.network ∧
        HostBitsZero self.prefixLen self.network := by
  obtain ⟨network, length⟩ := self
  constructor
  · intro h
    rw [parse] at h
    split at h
    · next address prefixLen hsplit =>
        obtain ⟨parsed, haddress, h⟩ := Option.bind_eq_some_iff.1 h
        obtain ⟨number, hpre, h⟩ := Option.bind_eq_some_iff.1 h
        split at h
        · simp at h
        · next hle =>
            simp only [ne_eq, ite_not] at h
            split at h
            · next hmask =>
                rw [hmask] at h
                obtain ⟨rfl, rfl⟩ := IpNetwork.mk.inj (Option.some.inj h)
                have hrange := Nat.le_of_not_lt hle
                exact Or.inr ⟨address, prefixLen, (Text.splitOnce_eq_some_iff.1 hsplit).2,
                  haddress, (parseUnsigned_eq_some_iff.1 hpre).1, hrange,
                  (maskIp_eq_self_iff hrange).1 hmask⟩
            · simp at h
    · obtain ⟨parsed, haddress, h⟩ := Option.bind_eq_some_iff.1 h
      obtain ⟨rfl, rfl⟩ := IpNetwork.mk.inj (Option.some.inj h)
      exact Or.inl ⟨haddress, rfl⟩
  · rintro (⟨haddress, hlength⟩ | ⟨address, prefixLen, rfl, haddress, hpre, hrange, hzero⟩)
    · have hsplit := Text.splitOnce_eq_none_iff.2 (notMem_of_parseIpAddr haddress)
      simp only at haddress hlength
      rw [parse, hsplit, hlength]
      simp [haddress]
    · have hsplit : Text.splitOnce '/' (address ++ '/' :: prefixLen) = some (address, prefixLen) :=
        Text.splitOnce_eq_some_iff.2 ⟨notMem_of_parseIpAddr haddress, rfl⟩
      simp only at haddress hpre hrange hzero
      have hmask := (maskIp_eq_self_iff hrange).2 hzero
      have hbound : length < 256 :=
        Nat.lt_of_le_of_lt (Nat.le_trans hrange (maxPrefix_le _)) (by decide)
      have hread := parseUnsigned_eq_some_iff.2 ⟨hpre, hbound⟩
      rw [parse, hsplit]
      simp only [haddress, hread, Option.bind_eq_bind, Option.bind_some]
      rw [if_neg (Nat.not_lt.2 hrange), hmask, if_neg (by simp)]

/-- The network as `write_condition_value` writes it. -/
def display (self : IpNetwork) : Text :=
  self.network.display ++ '/' :: Nat.toDigits 10 self.prefixLen

theorem namesNumber_toDigits (n : Nat) : NamesNumber (Nat.toDigits 10 n) n := by
  obtain ⟨digits, hdigits, hall, hvalue⟩ := Text.exists_digits (by decide : 1 < 10) n
  have hne : digits ≠ [] := by
    rintro rfl
    exact absurd hdigits (List.ne_nil_of_length_pos Nat.length_toDigits_pos)
  exact ⟨digits, hne, hall, hvalue, Or.inl hdigits⟩

/-- What is written of a network names it. -/
theorem parse_display {self : IpNetwork} (h : self.IsMasked) : parse self.display = some self := by
  obtain ⟨hrange, hmask⟩ := h
  exact parse_eq_some_iff.2 (Or.inr ⟨self.network.display, Nat.toDigits 10 self.prefixLen, rfl,
    parseIpAddr_display _, namesNumber_toDigits _, hrange, (maskIp_eq_self_iff hrange).1 hmask⟩)

/-- `-` on an unsigned integer, with no result below zero. -/
def checkedSub (a b : Nat) : Option Nat := if b ≤ a then some (a - b) else none

/-- `<<`, with no result for an amount of all bits or more. -/
def checkedShl {w : Nat} (value : BitVec w) (amount : Nat) : Option (BitVec w) :=
  if amount < w then some (value <<< amount) else none

/-- `mask_v4` and `mask_v6`, with no result on overflow. -/
def checkedMask {w : Nat} (address : BitVec w) (prefixLen : Nat) : Option (BitVec w) := do
  let mask ← if prefixLen = 0 then some 0 else do
    let amount ← checkedSub w prefixLen
    checkedShl (BitVec.allOnes w) amount
  return address &&& mask

def checkedMaskIp (address : IpAddr) (prefixLen : Nat) : Option IpAddr :=
  match address with
  | .v4 address => (checkedMask address prefixLen).map .v4
  | .v6 address => (checkedMask address prefixLen).map .v6

/-- `IpNetwork::parse`, with no result on overflow. -/
def checkedParse (value : Text) : Option (Option IpNetwork) :=
  match Text.splitOnce '/' value with
  | some (address, prefixLen) =>
      match parseIpAddr address, parseUnsigned 256 prefixLen with
      | some address, some prefixLen =>
          if prefixLen > maxPrefix address then some none
          else do
            let network ← checkedMaskIp address prefixLen
            return if network ≠ address then none else some { network, prefixLen }
      | _, _ => some none
  | none =>
      match parseIpAddr value with
      | some address => some (some { network := address, prefixLen := maxPrefix address })
      | none => some none

/-- `IpNetwork::contains`, with no result on overflow. -/
def checkedContains (self : IpNetwork) (address : IpAddr) : Option Bool :=
  match self.network, address with
  | .v4 network, .v4 address => (checkedMask address self.prefixLen).map (· == network)
  | .v6 network, .v6 address => (checkedMask address self.prefixLen).map (· == network)
  | _, _ => some false

theorem checkedMask_eq {w : Nat} (address : BitVec w) {prefixLen : Nat} (h : prefixLen ≤ w) :
    checkedMask address prefixLen =
      some (address &&&
        if prefixLen = 0 then 0 else BitVec.allOnes w <<< (w - prefixLen)) := by
  rw [checkedMask]
  split
  · rfl
  · have hamount : w - prefixLen < w := by omega
    simp [checkedSub, checkedShl, h, hamount]

theorem checkedMaskIp_eq {address : IpAddr} {prefixLen : Nat} (h : prefixLen ≤ maxPrefix address) :
    checkedMaskIp address prefixLen = some (maskIp address prefixLen) := by
  cases address with
  | v4 address => exact congrArg (Option.map IpAddr.v4) (checkedMask_eq address h)
  | v6 address => exact congrArg (Option.map IpAddr.v6) (checkedMask_eq address h)

theorem checkedParse_eq (value : Text) : checkedParse value = some (parse value) := by
  rw [checkedParse, parse]
  cases Text.splitOnce '/' value with
  | none =>
      cases parseIpAddr value with
      | none => rfl
      | some address => rfl
  | some parts =>
      obtain ⟨address, prefixLen⟩ := parts
      cases haddress : parseIpAddr address with
      | none => simp [haddress]
      | some network =>
          cases hpre : parseUnsigned 256 prefixLen with
          | none => simp [haddress, hpre]
          | some number =>
              simp only [haddress, hpre, Option.bind_eq_bind, Option.bind_some]
              split
              · rfl
              · next hle =>
                  rw [checkedMaskIp_eq (Nat.le_of_not_lt hle)]
                  rfl

theorem checkedContains_eq {self : IpNetwork} (h : self.prefixLen ≤ maxPrefix self.network)
    (address : IpAddr) : self.checkedContains address = some (self.contains address) := by
  obtain ⟨network, prefixLen⟩ := self
  cases network with
  | v4 network =>
      cases address with
      | v4 address => exact congrArg (Option.map (· == network)) (checkedMask_eq address h)
      | v6 address => rfl
  | v6 network =>
      cases address with
      | v4 address => rfl
      | v6 address => exact congrArg (Option.map (· == network)) (checkedMask_eq address h)

/-- Reading a network never overflows and takes the texts of an address with a prefix in range and
no host bit set; what is read holds the addresses of its family that agree with it on the prefix,
without overflow, and is what its written form names. -/
theorem ipNetwork_exact (value : Text) (self : IpNetwork) :
    checkedParse value = some (parse value) ∧
      (parse value = some self ↔
        (parseIpAddr value = some self.network ∧ self.prefixLen = maxPrefix self.network) ∨
        ∃ address prefixLen : Text, value = address ++ '/' :: prefixLen ∧
          parseIpAddr address = some self.network ∧ NamesNumber prefixLen self.prefixLen ∧
          self.prefixLen ≤ maxPrefix self.network ∧
          HostBitsZero self.prefixLen self.network) ∧
      (parse value = some self →
        parse self.display = some self ∧
        ∀ address : IpAddr,
          self.checkedContains address = some (self.contains address) ∧
          (self.contains address = true ↔ AgreeTo self.prefixLen address self.network)) := by
  refine ⟨checkedParse_eq value, parse_eq_some_iff, fun hparse => ?_⟩
  have hmasked : self.IsMasked := isMasked_of_parse hparse
  refine ⟨parse_display hmasked, fun address => ?_⟩
  exact ⟨checkedContains_eq hmasked.1 address, contains_iff_agreeTo hmasked address⟩

theorem ipNetwork_exact_ten :
    parse "10.0.0.0/8".toList = some ⟨.v4 0x0A000000#32, 8⟩ ∧
      parse (display ⟨.v4 0x0A000000#32, 8⟩) = some ⟨.v4 0x0A000000#32, 8⟩ ∧
      contains ⟨.v4 0x0A000000#32, 8⟩ (.v4 0x0A010203#32) = true := by
  have hparse : parse "10.0.0.0/8".toList = some ⟨.v4 0x0A000000#32, 8⟩ := by decide +kernel
  have hexact := (ipNetwork_exact "10.0.0.0/8".toList ⟨.v4 0x0A000000#32, 8⟩).2.2 hparse
  exact ⟨hparse, hexact.1, (hexact.2 _).2.2 (by unfold AgreeTo; decide)⟩

end IpNetwork

end MediaHub.Policy
