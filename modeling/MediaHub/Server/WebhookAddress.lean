import MediaHub.Policy.IpReadBack
import MediaHub.Text.Result

namespace MediaHub.Server.Webhooks

open MediaHub.Policy
open MediaHub.Policy.IpAddr
open Result

section

variable (first second third fourth : Nat)

def isPrivate : Bool :=
  first = 10 ∨ first = 172 ∧ 16 ≤ second ∧ second ≤ 31 ∨ first = 192 ∧ second = 168

def isLoopback : Bool := first = 127

def isLinkLocal : Bool := first = 169 ∧ second = 254

def isUnspecified : Bool := first = 0 ∧ second = 0 ∧ third = 0 ∧ fourth = 0

def isBroadcast : Bool := first = 255 ∧ second = 255 ∧ third = 255 ∧ fourth = 255

def isMulticast : Bool := 224 ≤ first ∧ first ≤ 239

def isDocumentation : Bool :=
  first = 192 ∧ second = 0 ∧ third = 2 ∨ first = 198 ∧ second = 51 ∧ third = 100 ∨
    first = 203 ∧ second = 0 ∧ third = 113

end

/-- The branch of `is_public_webhook_ip` for the octets of a version 4 address. -/
def isPublicOctets : List Nat → Bool
  | [first, second, third, fourth] =>
      !(first == 0
        || decide (240 ≤ first)
        || (first == 100 && decide (64 ≤ second ∧ second ≤ 127))
        || (first == 192 && second == 0 && third == 0)
        || (first == 198 && (second == 18 || second == 19))
        || isPrivate first second
        || isLoopback first
        || isLinkLocal first second
        || isUnspecified first second third fourth
        || isBroadcast first second third fourth
        || isMulticast first
        || isDocumentation first second third)
  | _ => false

def isMulticastV6 (segments : List Nat) : Bool := segments.headD 0 / 256 = 0xff

def isUniqueLocal (segments : List Nat) : Bool := segments.headD 0 / 512 * 512 = 0xfc00

def isUnicastLinkLocal (segments : List Nat) : Bool := segments.headD 0 / 64 * 64 = 0xfe80

def isPublicWebhookIp : IpAddr → Bool
  | .v4 ip => isPublicOctets (octets ip)
  | .v6 ip =>
      match toIpv4Mapped (segments ip) with
      | some octets => isPublicOctets octets
      | none =>
          let segments := segments ip
          !(ip == 1
            || ip == 0
            || isMulticastV6 segments
            || isUniqueLocal segments
            || isUnicastLinkLocal segments
            || (segments[0]? == some 0x2001 && segments[1]? == some 0x0db8))

inductive Host where
  | domain (host : Text)
  | ipv4 (ip : BitVec 32)
  | ipv6 (ip : BitVec 128)

/-- A parsed URL: what is read of it here. -/
structure Url where
  scheme : String
  username : Text
  password : Option Text
  host : Option Host
  port : Option Nat

namespace Url

def hostStr (url : Url) : Option Text :=
  url.host.map fun
    | .domain host => host
    | .ipv4 ip => display (.v4 ip)
    | .ipv6 ip => ['['] ++ display (.v6 ip) ++ [']']

def portOrKnownDefault (url : Url) : Option Nat :=
  url.port <|> (if url.scheme = "https" then some 443 else if url.scheme = "http" then some 80
    else none)

end Url

def isLocalDomain (host : Text) : Bool :=
  let host := host.map Char.toLower
  host = "localhost".toList || ".localhost".toList.isSuffixOf host ||
    ".local".toList.isSuffixOf host || ".internal".toList.isSuffixOf host

def validateWebhookUrlParsed (url : Url) : Except Unit Unit :=
  if ¬ (url.scheme = "https" ∨ url.scheme = "http") ∨ url.hostStr.isNone ∨ url.username ≠ [] ∨
      url.password.isSome then
    .error ()
  else
    match url.host with
    | none => .error ()
    | some (.domain host) => rejectIf (isLocalDomain host) ()
    | some (.ipv4 ip) => rejectIf (isPublicWebhookIp (.v4 ip) = false) ()
    | some (.ipv6 ip) => rejectIf (isPublicWebhookIp (.v6 ip) = false) ()

/-- A client with the address that it takes for a host instead of looking it up. -/
structure Client where
  resolve : Option (Text × IpAddr)

/-- The answer of a lookup of a host and a port, unless it failed or took too long. -/
abbrev Lookup := Text → Nat → Except String (List IpAddr)

def webhookClientForUrl (lookupHost : Lookup) (parsed : Option Url) :
    Except String (Client × Url) := do
  let url ← parsed.elim (.error "webhook endpoint URL is invalid") .ok
  (validateWebhookUrlParsed url).mapError fun _ => "webhook endpoint URL is forbidden"
  let host ← url.hostStr.elim (.error "webhook endpoint URL has no host") .ok
  let port := url.portOrKnownDefault.getD 443
  let addresses ← lookupHost host port
  match addresses with
  | [] => .error "webhook endpoint DNS lookup returned no addresses"
  | first :: _ => do
      rejectIf (addresses.any fun address => isPublicWebhookIp address = false)
        "webhook endpoint URL resolves to a forbidden address"
      match url.host with
      | some (.domain _) => return (⟨some (host, first)⟩, url)
      | _ => return (⟨none⟩, url)

/-- Where a client that goes through no proxy connects to: a literal address is taken as it is, and
so is the address that the client has for a host. Any other host is looked up once more. -/
structure Transport where
  connects : Client → (Text → Option IpAddr) → Url → Option IpAddr
  connects_ipv4 : ∀ {client resolver url ip}, url.host = some (.ipv4 ip) →
    connects client resolver url = some (.v4 ip)
  connects_ipv6 : ∀ {client resolver url ip}, url.host = some (.ipv6 ip) →
    connects client resolver url = some (.v6 ip)
  connects_resolve : ∀ {client resolver url host address}, url.host = some (.domain host) →
    client.resolve = some (host, address) → connects client resolver url = some address

def Client.connects (client : Client) (resolver : Text → Option IpAddr) (url : Url) :
    Option IpAddr :=
  url.host.bind fun
    | .ipv4 ip => some (.v4 ip)
    | .ipv6 ip => some (.v6 ip)
    | .domain host =>
        match client.resolve with
        | some (known, address) => if known = host then some address else resolver host
        | none => resolver host

def direct : Transport where
  connects := Client.connects
  connects_ipv4 h := by rw [Client.connects, h, Option.bind_some]
  connects_ipv6 h := by rw [Client.connects, h, Option.bind_some]
  connects_resolve hhost hresolve := by
    rw [Client.connects, hhost, Option.bind_some, hresolve]
    exact if_pos rfl

/-- The forms of version 6 addresses that hold one of version 4 and do not name it as mapped. -/
inductive Carries : BitVec 128 → BitVec 32 → Prop where
  | compatible (ip : BitVec 32) : Carries (0#96 ++ ip) ip
  | nat64 (ip : BitVec 32) : Carries (0x64ff9b0000000000000000#96 ++ ip) ip
  | sixToFour (ip : BitVec 32) (rest : BitVec 80) : Carries (0x2002#16 ++ ip ++ rest) ip

inductive Embeds : BitVec 128 → BitVec 32 → Prop where
  | mapped (ip : BitVec 32) : Embeds (0xffff#96 ++ ip) ip
  | carried {address : BitVec 128} {ip : BitVec 32} (h : Carries address ip) : Embeds address ip

theorem toNat_append {m n : Nat} (high : BitVec m) (low : BitVec n) :
    (high ++ low).toNat = high.toNat * 2 ^ n + low.toNat := by
  rw [BitVec.toNat_append, ← Nat.shiftLeft_add_eq_or_of_lt low.isLt, Nat.shiftLeft_eq]

theorem segments_append (high : BitVec 96) (ip : BitVec 32) :
    segments (high ++ ip) = [high.toNat / 65536 ^ 5 % 65536, high.toNat / 65536 ^ 4 % 65536,
      high.toNat / 65536 ^ 3 % 65536, high.toNat / 65536 ^ 2 % 65536, high.toNat / 65536 % 65536,
      high.toNat % 65536, ip.toNat / 65536, ip.toNat % 65536] := by
  have hlt := ip.isLt
  have hnat := toNat_append high ip
  rw [segments_eq, hnat]
  simp only [List.cons.injEq, and_true]
  omega

theorem isPublicWebhookIp_mapped (ip : BitVec 32) :
    isPublicWebhookIp (.v6 (0xffff#96 ++ ip)) = isPublicWebhookIp (.v4 ip) := by
  have hlt := ip.isLt
  have hoctets : [ip.toNat / 65536 / 256, ip.toNat / 65536 % 256, ip.toNat % 65536 / 256,
      ip.toNat % 65536 % 256] = octets ip := by
    simp only [octets, List.cons.injEq, and_true]
    refine ⟨Nat.div_div_eq_div_mul _ _ _, ?_, ?_, ?_⟩
    · trivial
    · omega
    · omega
  have hmapped : toIpv4Mapped (segments (0xffff#96 ++ ip)) = some (octets ip) := by
    rw [segments_append]
    exact congrArg some hoctets
  simp only [isPublicWebhookIp, hmapped]

/-- Without the mark of a mapped address, the first segments decide. -/
theorem isPublicWebhookIp_of_first {address : BitVec 128} {first : Nat} {rest : List Nat}
    (hsegments : segments address = first :: rest)
    (hmapped : toIpv4Mapped (first :: rest) = none) (hfirst : first < 0x2001 ∨ first = 0x2002) :
    isPublicWebhookIp (.v6 address) = true ↔ address ≠ 1 ∧ address ≠ 0 := by
  have hmulticast : isMulticastV6 (first :: rest) = false := by
    rw [isMulticastV6, List.headD_cons, decide_eq_false_iff_not]
    omega
  have hlocal : isUniqueLocal (first :: rest) = false := by
    rw [isUniqueLocal, List.headD_cons, decide_eq_false_iff_not]
    omega
  have hlink : isUnicastLinkLocal (first :: rest) = false := by
    rw [isUnicastLinkLocal, List.headD_cons, decide_eq_false_iff_not]
    omega
  have hdocumentation : ((first :: rest)[0]? == some 0x2001) = false := by
    rw [List.getElem?_cons_zero, beq_eq_false_iff_ne, ne_eq, Option.some_inj]
    omega
  simp only [isPublicWebhookIp, hsegments, hmapped, hmulticast, hlocal, hlink, hdocumentation,
    Bool.or_false, Bool.false_and, Bool.not_or, Bool.and_eq_true, Bool.not_eq_true',
    beq_eq_false_iff_ne]

/-- Of the other forms, all but the loopback and the unspecified address count as public. -/
theorem isPublicWebhookIp_of_carries {address : BitVec 128} {ip : BitVec 32}
    (h : Carries address ip) :
    isPublicWebhookIp (.v6 address) = true ↔ address ≠ 1 ∧ address ≠ 0 := by
  cases h with
  | compatible ip => exact isPublicWebhookIp_of_first (segments_append _ ip) rfl (by decide)
  | nat64 ip => exact isPublicWebhookIp_of_first (segments_append _ ip) rfl (by decide)
  | sixToFour ip rest =>
      have hnat := (toNat_append (0x2002#16 ++ ip) rest).trans
        (congrArg (· * 2 ^ 80 + rest.toNat) (toNat_append 0x2002#16 ip))
      have hip := ip.isLt
      have hrest := rest.isLt
      have hfirst : (0x2002#16 ++ ip ++ rest : BitVec 128).toNat / 65536 ^ 7 % 65536 = 0x2002 := by
        rw [hnat, BitVec.toNat_ofNat]
        omega
      refine isPublicWebhookIp_of_first ((segments_eq _).trans (congrArg (· :: _) hfirst)) rfl
        (Or.inr rfl)

/-- An address and the number of its bits that are fixed. -/
def block (octets : List Nat) (prefixLen : Nat) : IpNetwork := ⟨.v4 (ofOctets octets), prefixLen⟩

/-- The private, loopback, link-local, shared and reserved ranges, and those of documentation,
benchmarks and multicast. -/
def specialBlocks : List IpNetwork :=
  [block [0, 0, 0, 0] 8, block [240, 0, 0, 0] 4, block [100, 64, 0, 0] 10,
    block [192, 0, 0, 0] 24, block [198, 18, 0, 0] 15, block [10, 0, 0, 0] 8,
    block [172, 16, 0, 0] 12, block [192, 168, 0, 0] 16, block [127, 0, 0, 0] 8,
    block [169, 254, 0, 0] 16, block [224, 0, 0, 0] 4, block [192, 0, 2, 0] 24,
    block [198, 51, 100, 0] 24, block [203, 0, 113, 0] 24]

theorem agreeTo_v4_iff {prefixLen : Nat} (h : prefixLen ≤ 32) (left right : BitVec 32) :
    IpNetwork.AgreeTo prefixLen (.v4 left) (.v4 right) ↔
      left.toNat / 2 ^ (32 - prefixLen) = right.toNat / 2 ^ (32 - prefixLen) := by
  rw [← Nat.shiftRight_eq_div_pow, ← Nat.shiftRight_eq_div_pow, ← BitVec.toNat_ushiftRight,
    ← BitVec.toNat_ushiftRight, BitVec.toNat_inj]
  constructor
  · intro hagree
    apply BitVec.eq_of_getMsbD_eq
    intro i hi
    rw [BitVec.getMsbD_ushiftRight, BitVec.getMsbD_ushiftRight]
    by_cases hfront : i < 32 - prefixLen
    · simp only [hi, hfront, decide_true, Bool.not_true, Bool.and_false, Bool.false_and]
    · rw [hagree (i - (32 - prefixLen)) (by omega)]
  · intro hshift i hi
    have hbit := congrArg (BitVec.getMsbD · (32 - prefixLen + i)) hshift
    simp only [BitVec.getMsbD_ushiftRight, Nat.add_sub_cancel_left] at hbit
    have hinside : 32 - prefixLen + i < 32 := by omega
    have hbehind : ¬ 32 - prefixLen + i < 32 - prefixLen := by omega
    simpa only [hinside, hbehind, decide_true, decide_false, Bool.not_false, Bool.true_and,
      Bool.and_true] using hbit

theorem contains_block_iff {octets : List Nat} {prefixLen : Nat}
    (h : (block octets prefixLen).IsMasked) (ip : BitVec 32) :
    (block octets prefixLen).contains (.v4 ip) = true ↔
      ip.toNat / 2 ^ (32 - prefixLen) = (ofOctets octets).toNat / 2 ^ (32 - prefixLen) :=
  (IpNetwork.contains_iff_agreeTo h _).trans (agreeTo_v4_iff h.1 _ _)

/-- The conditions on the octets, one for each range. -/
def Special (a b c : Nat) : Prop :=
  a = 0 ∨ 240 ≤ a ∨ a = 100 ∧ 64 ≤ b ∧ b ≤ 127 ∨ a = 192 ∧ b = 0 ∧ c = 0 ∨
    a = 198 ∧ (b = 18 ∨ b = 19) ∨ a = 10 ∨ a = 172 ∧ 16 ≤ b ∧ b ≤ 31 ∨ a = 192 ∧ b = 168 ∨
      a = 127 ∨ a = 169 ∧ b = 254 ∨ 224 ≤ a ∧ a ≤ 239 ∨ a = 192 ∧ b = 0 ∧ c = 2 ∨
        a = 198 ∧ b = 51 ∧ c = 100 ∨ a = 203 ∧ b = 0 ∧ c = 113

theorem isPublicOctets_iff (a b c d : Nat) :
    isPublicOctets [a, b, c, d] = true ↔ ¬ Special a b c := by
  rw [isPublicOctets, Bool.not_eq_true', ← Bool.not_eq_true, Special]
  refine not_congr ?_
  simp only [Bool.or_eq_true, Bool.and_eq_true, beq_iff_eq, decide_eq_true_eq, isPrivate,
    isLoopback, isLinkLocal, isMulticast, isDocumentation, or_assoc, and_assoc]
  by_cases hfirst : a = 0
  · exact iff_of_true (Or.inl hfirst) (Or.inl hfirst)
  by_cases hlast : 240 ≤ a
  · exact iff_of_true (Or.inr (Or.inl hlast)) (Or.inr (Or.inl hlast))
  have hunspecified : isUnspecified a b c d = false :=
    decide_eq_false fun h => hfirst h.1
  have hbroadcast : isBroadcast a b c d = false :=
    decide_eq_false fun h => hlast (h.1.symm ▸ by decide)
  simp only [hunspecified, hbroadcast, Bool.false_eq_true, false_or]

theorem special_iff (ip : BitVec 32) :
    Special (ip.toNat / 16777216) (ip.toNat / 65536 % 256) (ip.toNat / 256 % 256) ↔
      ∃ block ∈ specialBlocks, block.contains (.v4 ip) = true := by
  have hmasked : ∀ block ∈ specialBlocks, block.prefixLen ≤ IpNetwork.maxPrefix block.network ∧
      maskIp block.network block.prefixLen = block.network := by decide +kernel
  have hlt := ip.isLt
  simp only [specialBlocks, List.forall_mem_cons] at hmasked
  obtain ⟨h1, h2, h3, h4, h5, h6, h7, h8, h9, h10, h11, h12, h13, h14, -⟩ := hmasked
  simp only [specialBlocks, List.exists_mem_cons_iff, List.not_mem_nil, false_and, exists_false,
    or_false, contains_block_iff h1, contains_block_iff h2, contains_block_iff h3,
    contains_block_iff h4, contains_block_iff h5, contains_block_iff h6, contains_block_iff h7,
    contains_block_iff h8, contains_block_iff h9, contains_block_iff h10, contains_block_iff h11,
    contains_block_iff h12, contains_block_iff h13, contains_block_iff h14]
  clear h1 h2 h3 h4 h5 h6 h7 h8 h9 h10 h11 h12 h13 h14
  refine or_congr ?_ (or_congr ?_ (or_congr ?_ (or_congr ?_ (or_congr ?_ (or_congr ?_
    (or_congr ?_ (or_congr ?_ (or_congr ?_ (or_congr ?_ (or_congr ?_ (or_congr ?_
      (or_congr ?_ ?_))))))))))))
  all_goals simp only [ofOctets, List.foldl_cons, List.foldl_nil, BitVec.toNat_ofNat]
  all_goals omega

/-- A public address of version 4 is one outside of all these ranges. -/
theorem isPublicWebhookIp_v4_iff (ip : BitVec 32) :
    isPublicWebhookIp (.v4 ip) = true ↔
      ∀ block ∈ specialBlocks, block.contains (.v4 ip) = false := by
  rw [isPublicWebhookIp, octets, isPublicOctets_iff, special_iff]
  simp only [not_exists, not_and, Bool.not_eq_true]

theorem validateWebhookUrlParsed_ok {url : Url} (h : validateWebhookUrlParsed url = .ok ()) :
    (∀ ip, url.host = some (.ipv4 ip) → isPublicWebhookIp (.v4 ip) = true) ∧
      (∀ ip, url.host = some (.ipv6 ip) → isPublicWebhookIp (.v6 ip) = true) ∧
        url.host.isSome = true := by
  rw [validateWebhookUrlParsed] at h
  split at h
  · cases h
  · cases hhost : url.host with
    | none =>
        rw [hhost] at h
        cases h
    | some host =>
        rw [hhost] at h
        cases host with
        | domain host => exact ⟨nofun, nofun, rfl⟩
        | ipv4 ip =>
            refine ⟨fun ip' heq => ?_, nofun, rfl⟩
            cases heq
            exact eq_true_of_ne_false ((rejectIf_eq_ok_iff).1 h)
        | ipv6 ip =>
            refine ⟨nofun, fun ip' heq => ?_, rfl⟩
            cases heq
            exact eq_true_of_ne_false ((rejectIf_eq_ok_iff).1 h)

/-- Whatever the lookups answer, the address that is connected to has been accepted. -/
theorem connects_of_webhookClientForUrl (transport : Transport) {lookupHost : Lookup}
    {parsed : Option Url} {client : Client} {url : Url}
    (h : webhookClientForUrl lookupHost parsed = .ok (client, url))
    (resolver : Text → Option IpAddr) :
    ∃ address, transport.connects client resolver url = some address ∧
      isPublicWebhookIp address = true := by
  simp only [webhookClientForUrl, bind_eq_ok_iff] at h
  obtain ⟨found, hfound, ⟨⟩, hvalid, host, hhost, addresses, -, h⟩ := h
  have hvalid : validateWebhookUrlParsed found = .ok () := by
    cases hresult : validateWebhookUrlParsed found with
    | error e =>
        rw [hresult] at hvalid
        cases hvalid
    | ok _ => rfl
  obtain ⟨hipv4, hipv6, hsome⟩ := validateWebhookUrlParsed_ok hvalid
  split at h
  · cases h
  · next first rest =>
      rw [andThen_eq_ok_iff, rejectIf_eq_ok_iff, Bool.not_eq_true, List.any_eq_false] at h
      obtain ⟨haccepted, h⟩ := h
      cases hurl : found.host with
      | none =>
          rw [hurl] at hsome
          cases hsome
      | some named =>
          rw [hurl] at h
          cases named with
          | domain name =>
              cases h
              have hname : name = host := by
                rw [Url.hostStr, hurl] at hhost
                exact Except.ok.inj hhost
              subst hname
              have hfirst := haccepted first List.mem_cons_self
              exact ⟨first, transport.connects_resolve hurl rfl, by simpa using hfirst⟩
          | ipv4 ip =>
              cases h
              exact ⟨.v4 ip, transport.connects_ipv4 hurl, hipv4 ip hurl⟩
          | ipv6 ip =>
              cases h
              exact ⟨.v6 ip, transport.connects_ipv6 hurl, hipv6 ip hurl⟩

/-- An address of version 6 is accepted only where the one that it embeds is. -/
def HonestAt (address : BitVec 128) : Prop :=
  ∀ ip, Embeds address ip → isPublicWebhookIp (.v6 address) = true →
    isPublicWebhookIp (.v4 ip) = true

theorem honestAt_iff (address : BitVec 128) :
    HonestAt address ↔ ∀ ip, Carries address ip →
      address = 1 ∨ address = 0 ∨ isPublicWebhookIp (.v4 ip) = true := by
  constructor
  · intro h ip hcarries
    have hpublic := isPublicWebhookIp_of_carries hcarries
    by_cases hone : address = 1
    · exact Or.inl hone
    by_cases hzero : address = 0
    · exact Or.inr (Or.inl hzero)
    exact Or.inr (Or.inr (h ip (.carried hcarries) (hpublic.2 ⟨hone, hzero⟩)))
  · intro h ip hembeds hpublic
    cases hembeds with
    | mapped ip => rwa [isPublicWebhookIp_mapped] at hpublic
    | carried hcarries =>
        obtain ⟨hone, hzero⟩ := (isPublicWebhookIp_of_carries hcarries).1 hpublic
        exact ((h ip hcarries).resolve_left hone).resolve_left hzero

/-- Deliveries connect to accepted addresses, those of version 4 outside of the special ranges; and
one of version 6 counts by what it embeds unless it carries a special address unmarked. -/
theorem webhooks_honest_iff (transport : Transport) (lookupHost : Lookup) (parsed : Option Url)
    (ip : BitVec 32) (address : BitVec 128) :
    (∀ client url resolver, webhookClientForUrl lookupHost parsed = .ok (client, url) →
        ∃ address, transport.connects client resolver url = some address ∧
          isPublicWebhookIp address = true) ∧
    (isPublicWebhookIp (.v4 ip) = true ↔
      ∀ block ∈ specialBlocks, block.contains (.v4 ip) = false) ∧
    (HonestAt address ↔ ∀ ip, Carries address ip →
      address = 1 ∨ address = 0 ∨ isPublicWebhookIp (.v4 ip) = true) :=
  ⟨fun _ _ resolver h => connects_of_webhookClientForUrl transport h resolver,
    isPublicWebhookIp_v4_iff ip, honestAt_iff address⟩

def hooksUrl : Url := ⟨"https", [], none, some (.domain "hooks.example".toList), none⟩

/-- A lookup that answers with this address. -/
def answers (address : IpAddr) : Lookup := fun _ _ => .ok [address]

theorem webhooks_honest_iff_example :
    ∃ address,
      direct.connects ⟨some ("hooks.example".toList, .v4 (ofOctets [93, 184, 216, 34]))⟩
        (fun _ => none) hooksUrl = some address ∧ isPublicWebhookIp address = true :=
  (webhooks_honest_iff direct (answers (.v4 (ofOctets [93, 184, 216, 34]))) (some hooksUrl) 0 0).1
    _ hooksUrl (fun _ => none) (by rfl)

/-- The loopback address in the form of NAT64 is connected to. -/
theorem webhooks_nat64_loopback :
    let loopback := ofOctets [127, 0, 0, 1]
    let address : BitVec 128 := 0x64ff9b0000000000000000#96 ++ loopback
    isPublicWebhookIp (.v4 loopback) = false ∧
      (∃ client, webhookClientForUrl (answers (.v6 address)) (some hooksUrl) =
        .ok (client, hooksUrl) ∧
          ∀ transport : Transport,
            transport.connects client (fun _ => none) hooksUrl = some (.v6 address)) ∧
      ¬ HonestAt address := by
  have hpublic : isPublicWebhookIp (.v4 (ofOctets [127, 0, 0, 1])) = false := by decide +kernel
  refine ⟨hpublic, ⟨⟨some ("hooks.example".toList, _)⟩, by rfl, fun transport =>
    transport.connects_resolve rfl rfl⟩, fun h => ?_⟩
  have haccepted := h _ (.carried (.nat64 (ofOctets [127, 0, 0, 1]))) (by decide +kernel)
  rw [hpublic] at haccepted
  cases haccepted

end MediaHub.Server.Webhooks
