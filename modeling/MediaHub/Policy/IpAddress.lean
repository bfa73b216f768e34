import Mathlib.Algebra.GroupWithZero.Nat
import Mathlib.Tactic.Common
import MediaHub.Policy.Glob
import MediaHub.Text.Digits
import MediaHub.Text.Split

namespace MediaHub.Policy

open Text (takeDigits ofDigits toDigit NoDigit)

inductive IpAddr where
  | v4 (address : BitVec 32)
  | v6 (address : BitVec 128)
  deriving DecidableEq

namespace IpAddr

def isIpv4 : IpAddr → Bool
  | .v4 _ => true
  | .v6 _ => false

/-- `Ipv4Addr::from` of four octets. -/
def ofOctets (octets : List Nat) : BitVec 32 :=
  BitVec.ofNat 32 (octets.foldl (fun n octet => n * 256 + octet) 0)

/-- `Ipv6Addr::from` of eight groups. -/
def ofGroups (groups : List Nat) : BitVec 128 :=
  BitVec.ofNat 128 (groups.foldl (fun n group => n * 65536 + group) 0)

end IpAddr

/-- `str::parse` of an unsigned integer below `bound`: a leading plus sign is allowed. -/
def parseUnsigned (bound : Nat) (s : Text) : Option Nat :=
  let unsigned := match s with
    | '+' :: rest => rest
    | _ => s
  let digits := takeDigits 10 unsigned
  if digits.1 ≠ [] ∧ digits.2 = [] ∧ ofDigits 10 digits.1 < bound then
    some (ofDigits 10 digits.1)
  else none

/-- `Parser::read_number`. -/
def readNumber (radix maxDigits bound : Nat) (allowZeroPrefix : Bool) (s : Text) :
    Option (Nat × Text) :=
  let digits := takeDigits radix s
  if digits.1 = [] ∨ maxDigits < digits.1.length ∨ bound ≤ ofDigits radix digits.1 ∨
      (allowZeroPrefix = false ∧ s.head? = some '0' ∧ 1 < digits.1.length) then none
  else some (ofDigits radix digits.1, digits.2)

/-- `Parser::read_separator`. -/
def readSeparator {α : Type} (separator : Char) (index : Nat)
    (inner : Text → Option (α × Text)) (s : Text) : Option (α × Text) :=
  if index = 0 then inner s
  else
    match s with
    | c :: rest => if c = separator then inner rest else none
    | [] => none

/-- The groups of an IPv4 address from `index` on. -/
def readOctets (index : Nat) : Nat → Text → Option (List Nat × Text)
  | 0, s => some ([], s)
  | remaining + 1, s => do
      let octet ← readSeparator '.' index (readNumber 10 3 256 false) s
      let octets ← readOctets (index + 1) remaining octet.2
      return (octet.1 :: octets.1, octets.2)

/-- `Parser::read_ipv4_addr`. -/
def readIpv4Addr (s : Text) : Option (List Nat × Text) := readOctets 0 4 s

/-- `read_groups` of `Parser::read_ipv6_addr`, from `index` on: the groups, whether the last two
come from an embedded IPv4 address, and what follows. -/
def readGroups (index : Nat) : Nat → Text → List Nat × Bool × Text
  | 0, s => ([], false, s)
  | remaining + 1, s =>
      match if remaining = 0 then none else readSeparator ':' index readIpv4Addr s with
      | some (octets, rest) =>
          ([octets.getD 0 0 * 256 + octets.getD 1 0, octets.getD 2 0 * 256 + octets.getD 3 0],
            true, rest)
      | none =>
          match readSeparator ':' index (readNumber 16 4 65536 true) s with
          | some (group, rest) =>
              let groups := readGroups (index + 1) remaining rest
              (group :: groups.1, groups.2)
          | none => ([], false, s)

/-- `Parser::read_ipv6_addr`. -/
def readIpv6Addr (s : Text) : Option (List Nat × Text) :=
  let head := readGroups 0 8 s
  if head.1.length = 8 then some (head.1, head.2.2)
  else if head.2.1 then none
  else
    match head.2.2 with
    | ':' :: ':' :: rest =>
        let tail := readGroups 0 (8 - (head.1.length + 1)) rest
        some (head.1 ++ List.replicate (8 - head.1.length - tail.1.length) 0 ++ tail.1,
          tail.2.2)
    | _ => none

/-- `str::parse::<Ipv4Addr>`. -/
def parseIpv4Addr (s : Text) : Option (BitVec 32) :=
  match readIpv4Addr s with
  | some (octets, []) => some (IpAddr.ofOctets octets)
  | _ => none

/-- `str::parse::<IpAddr>`. -/
def parseIpAddr (s : Text) : Option IpAddr :=
  match readIpv4Addr s with
  | some (octets, rest) =>
      if rest = [] then some (.v4 (IpAddr.ofOctets octets)) else none
  | none =>
      match readIpv6Addr s with
      | some (groups, []) => some (.v6 (IpAddr.ofGroups groups))
      | _ => none

def maskV4 (address : BitVec 32) (prefixLen : Nat) : BitVec 32 :=
  let mask := if prefixLen = 0 then 0 else BitVec.allOnes 32 <<< (32 - prefixLen)
  address &&& mask

def maskV6 (address : BitVec 128) (prefixLen : Nat) : BitVec 128 :=
  let mask := if prefixLen = 0 then 0 else BitVec.allOnes 128 <<< (128 - prefixLen)
  address &&& mask

def maskIp (address : IpAddr) (prefixLen : Nat) : IpAddr :=
  match address with
  | .v4 address => .v4 (maskV4 address prefixLen)
  | .v6 address => .v6 (maskV6 address prefixLen)

/-- A mask keeps the bits in front. -/
theorem and_mask_eq_iff {w : Nat} {address network : BitVec w} {prefixLen : Nat} {mask : BitVec w}
    (hmask : ∀ i < w, mask.getMsbD i = decide (i < prefixLen)) (hle : prefixLen ≤ w)
    (hnetwork : network &&& mask = network) :
    address &&& mask = network ↔ ∀ i < prefixLen, address.getMsbD i = network.getMsbD i := by
  constructor
  · rintro rfl i hi
    rw [BitVec.getMsbD_and, hmask i (by omega), decide_eq_true hi, Bool.and_true]
  · intro h
    apply BitVec.eq_of_getMsbD_eq
    intro i hi
    rw [← hnetwork, BitVec.getMsbD_and, BitVec.getMsbD_and, hmask i hi]
    by_cases hlt : i < prefixLen
    · rw [h i hlt]
    · rw [decide_eq_false hlt, Bool.and_false, Bool.and_false]

theorem getMsbD_mask {w prefixLen i : Nat} (hle : prefixLen ≤ w) :
    (if prefixLen = 0 then 0 else BitVec.allOnes w <<< (w - prefixLen)).getMsbD i =
      decide (i < prefixLen) := by
  split
  · next hzero =>
      subst hzero
      simp
  · rw [BitVec.getMsbD_shiftLeft, BitVec.getMsbD_allOnes]
    apply decide_eq_decide.2
    omega

theorem maskV4_all (address : BitVec 32) : maskV4 address 32 = address := by
  show address &&& BitVec.allOnes 32 <<< 0 = address
  rw [BitVec.shiftLeft_zero, BitVec.and_allOnes]

theorem maskV6_all (address : BitVec 128) : maskV6 address 128 = address := by
  show address &&& BitVec.allOnes 128 <<< 0 = address
  rw [BitVec.shiftLeft_zero, BitVec.and_allOnes]

structure IpNetwork where
  network : IpAddr
  prefixLen : Nat
  deriving DecidableEq

namespace IpNetwork

/-- The length of a prefix that names one address. -/
def maxPrefix (address : IpAddr) : Nat := if address.isIpv4 then 32 else 128

def parse (value : Text) : Option IpNetwork :=
  match Text.splitOnce '/' value with
  | some (address, prefixLen) => do
      let address ← parseIpAddr address
      let prefixLen ← parseUnsigned 256 prefixLen
      if prefixLen > maxPrefix address then none
      else
        let network := maskIp address prefixLen
        if network ≠ address then none
        else some { network, prefixLen }
  | none => do
      let address ← parseIpAddr value
      some { network := address, prefixLen := maxPrefix address }

def contains (self : IpNetwork) (address : IpAddr) : Bool :=
  match self.network, address with
  | .v4 network, .v4 address => maskV4 address self.prefixLen == network
  | .v6 network, .v6 address => maskV6 address self.prefixLen == network
  | _, _ => false

/-- The address of a network has no bits after its prefix. -/
def IsMasked (self : IpNetwork) : Prop :=
  self.prefixLen ≤ maxPrefix self.network ∧ maskIp self.network self.prefixLen = self.network

theorem maskIp_maxPrefix (address : IpAddr) : maskIp address (maxPrefix address) = address := by
  cases address with
  | v4 address => exact congrArg IpAddr.v4 (maskV4_all address)
  | v6 address => exact congrArg IpAddr.v6 (maskV6_all address)

theorem isMasked_of_parse {value : Text} {self : IpNetwork} (h : parse value = some self) :
    self.IsMasked := by
  rw [parse] at h
  split at h
  · obtain ⟨address, _, h⟩ := Option.bind_eq_some_iff.1 h
    obtain ⟨prefixLen, _, h⟩ := Option.bind_eq_some_iff.1 h
    split at h
    · cases h
    · next hle =>
        simp only [ne_eq, ite_not] at h
        split at h
        · next hmask =>
            cases h
            rw [IsMasked, hmask]
            exact ⟨Nat.le_of_not_lt hle, hmask⟩
        · cases h
  · obtain ⟨address, _, h⟩ := Option.bind_eq_some_iff.1 h
    cases h
    exact ⟨Nat.le_refl _, maskIp_maxPrefix address⟩

/-- The first bits of two addresses are the same. -/
def AgreeTo (prefixLen : Nat) : IpAddr → IpAddr → Prop
  | .v4 left, .v4 right => ∀ i < prefixLen, left.getMsbD i = right.getMsbD i
  | .v6 left, .v6 right => ∀ i < prefixLen, left.getMsbD i = right.getMsbD i
  | _, _ => False

/-- A network holds the addresses that start as its own does. -/
theorem contains_iff_agreeTo {self : IpNetwork} (h : self.IsMasked) (address : IpAddr) :
    self.contains address = true ↔ AgreeTo self.prefixLen address self.network := by
  obtain ⟨network, prefixLen⟩ := self
  obtain ⟨hle, hmask⟩ := h
  cases network with
  | v4 network =>
      cases address with
      | v4 address =>
          show (maskV4 address prefixLen == network) = true ↔ _
          rw [beq_iff_eq]
          exact and_mask_eq_iff (fun i _ => getMsbD_mask hle) hle (IpAddr.v4.inj hmask)
      | v6 address => simp [contains, AgreeTo]
  | v6 network =>
      cases address with
      | v4 address => simp [contains, AgreeTo]
      | v6 address =>
          show (maskV6 address prefixLen == network) = true ↔ _
          rw [beq_iff_eq]
          exact and_mask_eq_iff (fun i _ => getMsbD_mask hle) hle (IpAddr.v6.inj hmask)

/-- A network of one address holds that address alone. -/
theorem contains_iff_of_maxPrefix {self : IpNetwork} (h : self.prefixLen = maxPrefix self.network)
    (address : IpAddr) : self.contains address = true ↔ address = self.network := by
  obtain ⟨network, prefixLen⟩ := self
  obtain rfl : prefixLen = maxPrefix network := h
  cases network with
  | v4 network =>
      cases address with
      | v4 address => simp [contains, maxPrefix, IpAddr.isIpv4, maskV4_all]
      | v6 address => simp [contains]
  | v6 network =>
      cases address with
      | v4 address => simp [contains]
      | v6 address => simp [contains, maxPrefix, IpAddr.isIpv4, maskV6_all]

end IpNetwork

namespace IpAddr

/-- `Ipv4Addr::octets` -/
def octets (address : BitVec 32) : List Nat :=
  [address.toNat / 16777216, address.toNat / 65536 % 256, address.toNat / 256 % 256,
    address.toNat % 256]

/-- `Ipv6Addr::segments` -/
def segments (address : BitVec 128) : List Nat :=
  (List.range 8).map fun i => address.toNat / 65536 ^ (7 - i) % 65536

theorem ofOctets_octets (address : BitVec 32) : ofOctets (octets address) = address := by
  have hlt := address.isLt
  apply BitVec.eq_of_toNat_eq
  simp only [ofOctets, octets, List.foldl_cons, List.foldl_nil, BitVec.toNat_ofNat]
  omega

theorem octets_lt (address : BitVec 32) : ∀ octet ∈ octets address, octet < 256 := by
  have hlt := address.isLt
  simp only [octets, List.mem_cons, List.not_mem_nil, or_false, forall_eq_or_imp, forall_eq]
  omega

theorem segments_eq (address : BitVec 128) :
    segments address = [address.toNat / 65536 ^ 7 % 65536, address.toNat / 65536 ^ 6 % 65536,
      address.toNat / 65536 ^ 5 % 65536, address.toNat / 65536 ^ 4 % 65536,
      address.toNat / 65536 ^ 3 % 65536, address.toNat / 65536 ^ 2 % 65536,
      address.toNat / 65536 ^ 1 % 65536, address.toNat / 65536 ^ 0 % 65536] := rfl

theorem ofGroups_segments (address : BitVec 128) : ofGroups (segments address) = address := by
  have hlt := address.isLt
  apply BitVec.eq_of_toNat_eq
  simp only [ofGroups, segments_eq, List.foldl_cons, List.foldl_nil, BitVec.toNat_ofNat]
  omega

@[simp] theorem length_segments (address : BitVec 128) : (segments address).length = 8 := by
  simp [segments]

theorem segments_lt (address : BitVec 128) : ∀ segment ∈ segments address, segment < 65536 := by
  intro segment h
  obtain ⟨i, _, rfl⟩ := List.mem_map.1 h
  exact Nat.mod_lt _ (by decide)

/-- `Display for Ipv4Addr` -/
def displayOctets (octets : List Nat) : Text :=
  ['.'].intercalate (octets.map (Nat.toDigits 10))

/-- `fmt_subslice` -/
def fmtSubslice (chunk : List Nat) : Text :=
  [':'].intercalate (chunk.map (Nat.toDigits 16))

structure Span where
  start : Nat
  len : Nat

/-- One step of the search for the longest run of zeros: the longest one so far and the current
one. -/
def growSpan (spans : Span × Span) (segment : Nat × Nat) : Span × Span :=
  if segment.1 = 0 then
    let current : Span :=
      ⟨if spans.2.len = 0 then segment.2 else spans.2.start, spans.2.len + 1⟩
    (if spans.1.len < current.len then current else spans.1, current)
  else (spans.1, ⟨0, 0⟩)

def zeroes (segments : List Nat) : Span :=
  (segments.zipIdx.foldl growSpan (⟨0, 0⟩, ⟨0, 0⟩)).1

/-- `Ipv6Addr::to_ipv4_mapped` -/
def toIpv4Mapped : List Nat → Option (List Nat)
  | [0, 0, 0, 0, 0, 65535, high, low] => some [high / 256, high % 256, low / 256, low % 256]
  | _ => none

/-- `Display for Ipv6Addr` -/
def displaySegments (segments : List Nat) : Text :=
  match toIpv4Mapped segments with
  | some ipv4 => "::ffff:".toList ++ displayOctets ipv4
  | none =>
      let zeroes := zeroes segments
      if 1 < zeroes.len then
        fmtSubslice (segments.take zeroes.start) ++
          "::".toList ++ fmtSubslice (segments.drop (zeroes.start + zeroes.len))
      else fmtSubslice segments

/-- `Display for IpAddr` -/
def display : IpAddr → Text
  | .v4 address => displayOctets (octets address)
  | .v6 address => displaySegments (segments address)

/-- The segments in a run are zero. -/
def Span.IsZero (span : Span) (segments : List Nat) : Prop :=
  ∀ i, span.start ≤ i → i < span.start + span.len → segments[i]? = some 0

theorem Span.isZero_concat {span : Span} {segments : List Nat} (h : span.IsZero segments)
    (segment : Nat) : span.IsZero (segments ++ [segment]) := by
  intro i hstart hend
  have hi := h i hstart hend
  have hlt : i < segments.length := (List.getElem?_eq_some_iff.1 hi).1
  rw [List.getElem?_append_left hlt, hi]

theorem zeroes_spans (segments : List Nat) :
    let spans := segments.zipIdx.foldl growSpan (⟨0, 0⟩, ⟨0, 0⟩)
    spans.1.IsZero segments ∧ spans.2.IsZero segments ∧
      (0 < spans.2.len → spans.2.start + spans.2.len = segments.length) := by
  induction segments using List.reverseRecOn with
  | nil =>
      refine ⟨fun i _ hi => ?_, fun i _ hi => ?_, fun h => ?_⟩
      · exact absurd hi (by simp)
      · exact absurd hi (by simp)
      · exact absurd h (by simp)
  | append_singleton segments segment ih =>
      obtain ⟨hlongest, hcurrent, hend⟩ := ih
      simp only [List.zipIdx_append, List.foldl_append, List.zipIdx_cons, List.zipIdx_nil,
        List.foldl_cons, List.foldl_nil, Nat.zero_add]
      generalize segments.zipIdx.foldl growSpan (⟨0, 0⟩, ⟨0, 0⟩) = spans at *
      have hrun : ∃ start, (if spans.2.len = 0 then segments.length else spans.2.start) = start ∧
          start + spans.2.len = segments.length ∧
            ∀ i, start ≤ i → i < segments.length → segments[i]? = some 0 := by
        by_cases hlen : spans.2.len = 0
        · refine ⟨segments.length, if_pos hlen, by omega, fun i hstart hi => ?_⟩
          exact absurd hi (Nat.not_lt.2 hstart)
        · have hlast := hend (by omega)
          refine ⟨spans.2.start, if_neg hlen, hlast, fun i hstart hi => ?_⟩
          exact hcurrent i hstart (by omega)
      obtain ⟨start, hstart, hlength, hzeros⟩ := hrun
      by_cases hzero : segment = 0
      · have hgrown : Span.IsZero ⟨start, spans.2.len + 1⟩ (segments ++ [segment]) := by
          intro i hfrom hto
          simp only at hfrom hto
          rcases Nat.lt_or_ge i segments.length with hlt | hge
          · rw [List.getElem?_append_left hlt]
            exact hzeros i hfrom hlt
          · obtain rfl : i = segments.length := by omega
            rw [List.getElem?_append_right (Nat.le_refl _)]
            simp [hzero]
        simp only [growSpan, hzero, if_true, hstart] at hgrown ⊢
        refine ⟨?_, hgrown, fun _ => ?_⟩
        · split
          · exact hgrown
          · exact Span.isZero_concat hlongest _
        · simp only [List.length_append, List.length_singleton]
          omega
      · simp only [growSpan, hzero, if_false]
        refine ⟨Span.isZero_concat hlongest _, fun i _ hi => ?_, fun h => ?_⟩
        · exact absurd hi (by simp)
        · exact absurd h (by simp)

/-- The run that is left out is zeros. -/
theorem segments_eq_of_zeroes {segments : List Nat} (h : 0 < (zeroes segments).len) :
    segments = segments.take (zeroes segments).start ++
      List.replicate (zeroes segments).len 0 ++
        segments.drop ((zeroes segments).start + (zeroes segments).len) ∧
      (zeroes segments).start + (zeroes segments).len ≤ segments.length := by
  have hzero : (zeroes segments).IsZero segments := (zeroes_spans segments).1
  generalize zeroes segments = span at *
  have hlast := hzero (span.start + span.len - 1) (by omega) (by omega)
  have hle : span.start + span.len - 1 < segments.length := (List.getElem?_eq_some_iff.1 hlast).1
  have hmiddle : (segments.drop span.start).take span.len = List.replicate span.len 0 := by
    apply List.ext_getElem?
    intro i
    rw [List.getElem?_take, List.getElem?_replicate]
    split
    · next hi =>
        rw [List.getElem?_drop]
        exact hzero _ (by omega) (by omega)
    · rfl
  refine ⟨?_, by omega⟩
  calc
    segments = segments.take span.start ++ segments.drop span.start :=
      (List.take_append_drop _ _).symm
    _ = segments.take span.start ++ ((segments.drop span.start).take span.len ++
        (segments.drop span.start).drop span.len) := by
          rw [List.take_append_drop span.len (segments.drop span.start)]
    _ = _ := by rw [hmiddle, List.drop_drop, List.append_assoc]

end IpAddr

end MediaHub.Policy
