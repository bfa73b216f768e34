import MediaHub.Policy.IpAddress

namespace MediaHub.Policy

open Text (takeDigits ofDigits toDigit NoDigit)

theorem toDigits_no_leading_zero : ∀ n < 256, (Nat.toDigits 10 n).head? = some '0' →
    (Nat.toDigits 10 n).length ≤ 1 := by
  decide +kernel

theorem head?_toDigits_append (radix n : Nat) (rest : Text) :
    (Nat.toDigits radix n ++ rest).head? = (Nat.toDigits radix n).head? := by
  rw [List.head?_append_of_ne_nil]
  exact Nat.toDigits_ne_nil

theorem readNumber_decimal {n : Nat} (h : n < 256) {rest : Text} (hrest : NoDigit 10 rest) :
    readNumber 10 3 256 false (Nat.toDigits 10 n ++ rest) = some (n, rest) := by
  obtain ⟨digits, hdigits, hvalue, hlength⟩ :=
    Text.takeDigits_toDigits (by decide) (by decide) n hrest
  have hpos : 0 < (Nat.toDigits 10 n).length := Nat.length_toDigits_pos
  have hle : (Nat.toDigits 10 n).length ≤ 3 :=
    (Nat.length_toDigits_le_iff (by decide) (by decide)).2 (by omega)
  have hzero := toDigits_no_leading_zero n h
  rw [readNumber, hdigits, head?_toDigits_append, if_neg]
  · rw [hvalue]
  · simp only [hvalue]
    rintro (hnil | hlong | hbound | ⟨_, hhead, hmany⟩)
    · rw [hnil] at hlength
      exact absurd hlength (by simp only [List.length_nil]; omega)
    · omega
    · omega
    · exact absurd (hzero hhead) (by omega)

theorem readNumber_hex {n : Nat} (h : n < 65536) {rest : Text} (hrest : NoDigit 16 rest) :
    readNumber 16 4 65536 true (Nat.toDigits 16 n ++ rest) = some (n, rest) := by
  obtain ⟨digits, hdigits, hvalue, hlength⟩ :=
    Text.takeDigits_toDigits (by decide) (by decide) n hrest
  have hpos : 0 < (Nat.toDigits 16 n).length := Nat.length_toDigits_pos
  have hle : (Nat.toDigits 16 n).length ≤ 4 :=
    (Nat.length_toDigits_le_iff (by decide) (by decide)).2 (by omega)
  rw [readNumber, hdigits, if_neg]
  · rw [hvalue]
  · simp only [hvalue]
    rintro (hnil | hlong | hbound | ⟨hstart, _⟩)
    · rw [hnil] at hlength
      exact absurd hlength (by simp only [List.length_nil]; omega)
    · omega
    · omega
    · exact absurd hstart (by decide)

theorem readSeparator_zero {α : Type} (separator : Char) (inner : Text → Option (α × Text))
    (s : Text) : readSeparator separator 0 inner s = inner s := by
  cases s with
  | nil => rfl
  | cons c rest => rfl

theorem readSeparator_cons {α : Type} (separator : Char) {index : Nat} (h : index ≠ 0)
    (inner : Text → Option (α × Text)) (s : Text) :
    readSeparator separator index inner (separator :: s) = inner s := by
  simp [readSeparator, h]

theorem toDigit_dot : toDigit 10 '.' = none := by decide

theorem noDigit_flatMap {radix : Nat} {separator : Char} (h : toDigit radix separator = none)
    (numbers : List Nat) (print : Nat → Text) {rest : Text} (hrest : NoDigit radix rest) :
    NoDigit radix (numbers.flatMap (fun n => separator :: print n) ++ rest) := by
  cases numbers with
  | nil => exact hrest
  | cons n numbers => exact Text.noDigit_cons h _

theorem intercalate_cons (separator : Char) (piece : Text) (numbers : List Nat)
    (print : Nat → Text) :
    [separator].intercalate (piece :: numbers.map print) =
      piece ++ numbers.flatMap fun n => separator :: print n := by
  induction numbers generalizing piece with
  | nil => simp [List.intercalate]
  | cons n numbers ih =>
      rw [List.map_cons, List.intercalate_cons_cons, ih, List.flatMap_cons]
      simp

theorem readOctets_succ {octets : List Nat} (h : ∀ octet ∈ octets, octet < 256) {rest : Text}
    (hrest : NoDigit 10 rest) (index : Nat) :
    readOctets (index + 1) octets.length
      (octets.flatMap (fun octet => '.' :: Nat.toDigits 10 octet) ++ rest) =
        some (octets, rest) := by
  induction octets generalizing index with
  | nil => rfl
  | cons octet octets ih =>
      obtain ⟨hoctet, hoctets⟩ := List.forall_mem_cons.1 h
      have hnext := noDigit_flatMap toDigit_dot octets (Nat.toDigits 10) hrest
      have hread := readNumber_decimal hoctet hnext
      rw [List.flatMap_cons, List.append_assoc, List.cons_append, List.length_cons, readOctets,
        readSeparator_cons '.' (Nat.succ_ne_zero index)]
      simp only [hread, ih hoctets, Option.bind_eq_bind, Option.bind_some]
      rfl

theorem readIpv4Addr_displayOctets {octets : List Nat} (hlength : octets.length = 4)
    (h : ∀ octet ∈ octets, octet < 256) {rest : Text} (hrest : NoDigit 10 rest) :
    readIpv4Addr (IpAddr.displayOctets octets ++ rest) = some (octets, rest) := by
  cases octets with
  | nil => exact absurd hlength (by decide)
  | cons octet octets =>
      obtain ⟨hoctet, hoctets⟩ := List.forall_mem_cons.1 h
      have hnext := noDigit_flatMap toDigit_dot octets (Nat.toDigits 10) hrest
      have hread := readNumber_decimal hoctet hnext
      have htail := readOctets_succ hoctets hrest 0
      rw [IpAddr.displayOctets, List.map_cons, intercalate_cons, List.append_assoc, readIpv4Addr,
        ← hlength, List.length_cons, readOctets, readSeparator_zero]
      simp only [hread, htail, Option.bind_eq_bind, Option.bind_some]
      rfl

theorem readSeparator_eq_none {α : Type} {separator : Char} {index : Nat} (hindex : index ≠ 0)
    {s : Text} (h : s.head? ≠ some separator) (inner : Text → Option (α × Text)) :
    readSeparator separator index inner s = none := by
  cases s with
  | nil => simp [readSeparator, hindex]
  | cons c rest =>
      have hne : c ≠ separator := by simpa using h
      simp [readSeparator, hindex, hne]

/-- An address starts with a number and a dot. -/
theorem readIpv4Addr_eq_none {s : Text} (h : (takeDigits 10 s).2.head? ≠ some '.') :
    readIpv4Addr s = none := by
  rw [readIpv4Addr, readOctets, Option.bind_eq_bind, Option.bind_eq_none_iff]
  intro octet hoctet
  rw [readSeparator_zero, readNumber] at hoctet
  split at hoctet
  · exact nomatch hoctet
  · obtain rfl := Option.some.inj hoctet
    have hseparator : readOctets (0 + 1) 3 (takeDigits 10 s).2 = none := by
      rw [readOctets, readSeparator_eq_none (by decide) h]
      rfl
    rw [hseparator]
    rfl

theorem takeDigits_hex_head? {front rest : Text} (hfront : ∀ c ∈ front, toDigit 16 c ≠ none)
    (hrest : NoDigit 10 rest) (hdot : rest.head? ≠ some '.') :
    (takeDigits 10 (front ++ rest)).2.head? ≠ some '.' := by
  induction front with
  | nil =>
      cases rest with
      | nil => simp [takeDigits]
      | cons c rest =>
          rw [List.nil_append, takeDigits, hrest c (by simp)]
          exact hdot
  | cons c front ih =>
      obtain ⟨hc, hfront⟩ := List.forall_mem_cons.1 hfront
      rw [List.cons_append, takeDigits]
      split
      · intro h
        obtain rfl : c = '.' := by simpa using h
        exact hc (by decide)
      · exact ih hfront

theorem toDigit_of_mem_toDigits {radix n : Nat} {c : Char} (hradix : 1 < radix) (hle : radix ≤ 16)
    (h : c ∈ Nat.toDigits radix n) : toDigit radix c ≠ none := by
  obtain ⟨digits, hdigits, hbound, _⟩ := Text.exists_digits hradix n
  rw [hdigits] at h
  obtain ⟨digit, hmem, rfl⟩ := List.mem_map.1 h
  rw [Text.toDigit_digitChar hle (hbound digit hmem)]
  exact Option.some_ne_none _

theorem readIpv4Addr_group {n : Nat} {rest : Text} (hrest : NoDigit 10 rest)
    (hdot : rest.head? ≠ some '.') : readIpv4Addr (Nat.toDigits 16 n ++ rest) = none := by
  apply readIpv4Addr_eq_none
  apply takeDigits_hex_head? _ hrest hdot
  intro c hc
  exact toDigit_of_mem_toDigits (by decide) (by decide) hc

/-- What may stand after the groups of an address. -/
structure GroupsEnd (rest : Text) : Prop where
  hex : NoDigit 16 rest
  decimal : NoDigit 10 rest
  dot : rest.head? ≠ some '.'

theorem groupsEnd_nil : GroupsEnd [] :=
  ⟨Text.noDigit_nil 16, Text.noDigit_nil 10, by simp⟩

theorem groupsEnd_colon (rest : Text) : GroupsEnd (':' :: rest) :=
  ⟨Text.noDigit_cons (by decide) rest, Text.noDigit_cons (by decide) rest, by simp⟩

theorem groupsEnd_groups (groups : List Nat) {rest : Text} (h : GroupsEnd rest) :
    GroupsEnd (groups.flatMap (fun group => ':' :: Nat.toDigits 16 group) ++ rest) := by
  cases groups with
  | nil => exact h
  | cons group groups => exact groupsEnd_colon _

/-- No further group is read. -/
def Stops (remaining : Nat) (rest : Text) : Prop :=
  remaining = 0 ∨ rest = [] ∨ ∃ tail, rest = ':' :: ':' :: tail

theorem readGroups_stops {remaining : Nat} {rest : Text} (h : Stops remaining rest) (index : Nat) :
    readGroups index remaining rest = ([], false, rest) := by
  cases remaining with
  | zero => rfl
  | succ remaining =>
      have hipv4 : readSeparator ':' index readIpv4Addr rest = none := by
        rcases h with h | rfl | ⟨tail, rfl⟩
        · exact absurd h (Nat.succ_ne_zero remaining)
        · rw [readSeparator]
          split
          · exact readIpv4Addr_eq_none (by simp [takeDigits])
          · rfl
        · rw [readSeparator]
          split
          · exact readIpv4Addr_eq_none (by simp [takeDigits, toDigit])
          · exact readIpv4Addr_eq_none (by simp [takeDigits, toDigit])
      have hgroup : readSeparator ':' index (readNumber 16 4 65536 true) rest = none := by
        rcases h with h | rfl | ⟨tail, rfl⟩
        · exact absurd h (Nat.succ_ne_zero remaining)
        · rw [readSeparator]
          split
          · rfl
          · rfl
        · rw [readSeparator]
          split
          · rfl
          · rfl
      rw [readGroups, hipv4, hgroup, ite_self]

theorem readGroups_group {remaining index : Nat} {n : Nat} (hn : n < 65536) {s rest : Text}
    (hend : GroupsEnd rest)
    (hs : (index = 0 ∧ s = Nat.toDigits 16 n ++ rest) ∨
      (index ≠ 0 ∧ s = ':' :: (Nat.toDigits 16 n ++ rest))) :
    readGroups index (remaining + 1) s =
      (n :: (readGroups (index + 1) remaining rest).1,
        (readGroups (index + 1) remaining rest).2) := by
  have hipv4 : readSeparator ':' index readIpv4Addr s = none := by
    rcases hs with ⟨rfl, rfl⟩ | ⟨hindex, rfl⟩
    · rw [readSeparator_zero]
      exact readIpv4Addr_group hend.decimal hend.dot
    · rw [readSeparator_cons ':' hindex]
      exact readIpv4Addr_group hend.decimal hend.dot
  have hgroup : readSeparator ':' index (readNumber 16 4 65536 true) s = some (n, rest) := by
    rcases hs with ⟨rfl, rfl⟩ | ⟨hindex, rfl⟩
    · rw [readSeparator_zero]
      exact readNumber_hex hn hend.hex
    · rw [readSeparator_cons ':' hindex]
      exact readNumber_hex hn hend.hex
  rw [readGroups, hipv4, hgroup, ite_self]

theorem readGroups_succ {groups : List Nat} (h : ∀ group ∈ groups, group < 65536) {rest : Text}
    (hend : GroupsEnd rest) {remaining : Nat} (hstops : Stops remaining rest) (index : Nat) :
    readGroups (index + 1) (groups.length + remaining)
      (groups.flatMap (fun group => ':' :: Nat.toDigits 16 group) ++ rest) =
        (groups, false, rest) := by
  induction groups generalizing index with
  | nil =>
      rw [List.length_nil, Nat.zero_add]
      exact readGroups_stops hstops _
  | cons group groups ih =>
      obtain ⟨hgroup, hgroups⟩ := List.forall_mem_cons.1 h
      have hlength : (group :: groups).length + remaining = groups.length + remaining + 1 := by
        rw [List.length_cons]
        omega
      rw [hlength, List.flatMap_cons, List.append_assoc, List.cons_append,
        readGroups_group hgroup (groupsEnd_groups groups hend)
          (Or.inr ⟨Nat.succ_ne_zero index, rfl⟩), ih hgroups]

/-- The groups that are printed are read, up to the end or to the run that is left out. -/
theorem readGroups_fmtSubslice {groups : List Nat} (h : ∀ group ∈ groups, group < 65536)
    {rest : Text} (hend : GroupsEnd rest) {remaining : Nat} (hstops : Stops remaining rest) :
    readGroups 0 (groups.length + remaining) (IpAddr.fmtSubslice groups ++ rest) =
      (groups, false, rest) := by
  cases groups with
  | nil =>
      rw [List.length_nil, Nat.zero_add]
      exact readGroups_stops hstops _
  | cons group groups =>
      obtain ⟨hgroup, hgroups⟩ := List.forall_mem_cons.1 h
      have hlength : (group :: groups).length + remaining = groups.length + remaining + 1 := by
        rw [List.length_cons]
        omega
      rw [hlength, IpAddr.fmtSubslice, List.map_cons, intercalate_cons, List.append_assoc,
        readGroups_group hgroup (groupsEnd_groups groups hend) (Or.inl ⟨rfl, rfl⟩),
        readGroups_succ hgroups hend hstops]

theorem readIpv4Addr_fmtSubslice (groups : List Nat) {rest : Text}
    (hend : GroupsEnd rest) :
    readIpv4Addr (IpAddr.fmtSubslice groups ++ rest) = none := by
  cases groups with
  | nil =>
      show readIpv4Addr ([] ++ rest) = none
      apply readIpv4Addr_eq_none
      apply takeDigits_hex_head? _ hend.decimal hend.dot
      simp
  | cons group groups =>
      have hnext := groupsEnd_groups groups hend
      rw [IpAddr.fmtSubslice, List.map_cons, intercalate_cons, List.append_assoc]
      exact readIpv4Addr_group hnext.decimal hnext.dot

theorem parseIpAddr_displayOctets {octets : List Nat} (hlength : octets.length = 4)
    (h : ∀ octet ∈ octets, octet < 256) :
    parseIpAddr (IpAddr.displayOctets octets) = some (.v4 (IpAddr.ofOctets octets)) := by
  have hread := readIpv4Addr_displayOctets hlength h (Text.noDigit_nil 10)
  rw [List.append_nil] at hread
  rw [parseIpAddr, hread]
  simp

/-- All eight groups are printed. -/
theorem parseIpAddr_fmtSubslice {groups : List Nat} (hlength : groups.length = 8)
    (h : ∀ group ∈ groups, group < 65536) :
    parseIpAddr (IpAddr.fmtSubslice groups) = some (.v6 (IpAddr.ofGroups groups)) := by
  have hipv4 := readIpv4Addr_fmtSubslice groups groupsEnd_nil
  have hstops : Stops 0 [] := Or.inl rfl
  have hread := readGroups_fmtSubslice h groupsEnd_nil hstops
  rw [List.append_nil] at hipv4 hread
  rw [Nat.add_zero, hlength] at hread
  rw [parseIpAddr, hipv4, readIpv6Addr, hread, if_pos hlength]

/-- A run of zeros is left out. -/
theorem parseIpAddr_run {front back : List Nat} {zeros : Nat} (hzeros : 0 < zeros)
    (hlength : front.length + zeros + back.length = 8)
    (hfront : ∀ group ∈ front, group < 65536) (hback : ∀ group ∈ back, group < 65536) :
    parseIpAddr (IpAddr.fmtSubslice front ++ "::".toList ++ IpAddr.fmtSubslice back) =
      some (.v6 (IpAddr.ofGroups (front ++ List.replicate zeros 0 ++ back))) := by
  have htext : IpAddr.fmtSubslice front ++ "::".toList ++ IpAddr.fmtSubslice back =
      IpAddr.fmtSubslice front ++ ':' :: ':' :: IpAddr.fmtSubslice back := by
    rw [List.append_assoc]
    rfl
  have hipv4 := readIpv4Addr_fmtSubslice front (groupsEnd_colon (':' :: IpAddr.fmtSubslice back))
  have hgapStops : Stops (zeros + back.length) (':' :: ':' :: IpAddr.fmtSubslice back) :=
    Or.inr (Or.inr ⟨_, rfl⟩)
  have hendStops : Stops (zeros - 1) [] := Or.inr (Or.inl rfl)
  have hhead := readGroups_fmtSubslice hfront
    (groupsEnd_colon (':' :: IpAddr.fmtSubslice back)) hgapStops
  have htail := readGroups_fmtSubslice hback groupsEnd_nil hendStops
  rw [← Nat.add_assoc, hlength] at hhead
  have hlimit : 8 - (front.length + 1) = back.length + (zeros - 1) := by omega
  have hgap : 8 - front.length - back.length = zeros := by omega
  rw [List.append_nil, ← hlimit] at htail
  rw [htext, parseIpAddr, hipv4, readIpv6Addr, hhead]
  simp only [if_neg (show front.length ≠ 8 by omega), htail, hgap]
  rfl

/-- An address that stands for one of the other family. -/
theorem parseIpAddr_mapped {octets : List Nat} (hlength : octets.length = 4)
    (h : ∀ octet ∈ octets, octet < 256) :
    parseIpAddr ("::ffff:".toList ++ IpAddr.displayOctets octets) =
      some (.v6 (IpAddr.ofGroups [0, 0, 0, 0, 0, 65535,
        octets.getD 0 0 * 256 + octets.getD 1 0, octets.getD 2 0 * 256 + octets.getD 3 0])) := by
  have htext : "::ffff:".toList ++ IpAddr.displayOctets octets =
      ':' :: ':' :: (Nat.toDigits 16 65535 ++ ':' :: IpAddr.displayOctets octets) := rfl
  have hstops : Stops 8
      (':' :: ':' :: (Nat.toDigits 16 65535 ++ ':' :: IpAddr.displayOctets octets)) :=
    Or.inr (Or.inr ⟨_, rfl⟩)
  have hipv4 : readIpv4Addr
      (':' :: ':' :: (Nat.toDigits 16 65535 ++ ':' :: IpAddr.displayOctets octets)) = none :=
    readIpv4Addr_fmtSubslice [] (groupsEnd_colon _)
  have hhead := readGroups_stops hstops 0
  have hread := readIpv4Addr_displayOctets hlength h (Text.noDigit_nil 10)
  rw [List.append_nil] at hread
  have hembedded : readGroups 1 6 (':' :: IpAddr.displayOctets octets) =
      ([octets.getD 0 0 * 256 + octets.getD 1 0, octets.getD 2 0 * 256 + octets.getD 3 0],
        true, []) := by
    rw [readGroups, readSeparator_cons ':' (by decide), hread]
    simp
  have htail : readGroups 0 7 (Nat.toDigits 16 65535 ++ ':' :: IpAddr.displayOctets octets) =
      ([65535, octets.getD 0 0 * 256 + octets.getD 1 0,
        octets.getD 2 0 * 256 + octets.getD 3 0], true, []) := by
    rw [readGroups_group (by decide) (groupsEnd_colon _) (Or.inl ⟨rfl, rfl⟩), hembedded]
  rw [htext, parseIpAddr, hipv4, readIpv6Addr, hhead]
  simp only [List.length_nil, htail]
  rfl

theorem toIpv4Mapped_eq_some {segments octets : List Nat}
    (h : IpAddr.toIpv4Mapped segments = some octets) :
    ∃ high low : Nat, segments = [0, 0, 0, 0, 0, 65535, high, low] ∧
      octets = [high / 256, high % 256, low / 256, low % 256] := by
  unfold IpAddr.toIpv4Mapped at h
  split at h
  · next high low => exact ⟨high, low, rfl, (Option.some.inj h).symm⟩
  · exact nomatch h

theorem parseIpAddr_displaySegments {segments : List Nat} (hlength : segments.length = 8)
    (h : ∀ segment ∈ segments, segment < 65536) :
    parseIpAddr (IpAddr.displaySegments segments) = some (.v6 (IpAddr.ofGroups segments)) := by
  rw [IpAddr.displaySegments]
  split
  · next octets hmapped =>
      obtain ⟨high, low, rfl, rfl⟩ := toIpv4Mapped_eq_some hmapped
      have hhigh : high < 65536 := h high (by simp)
      have hlow : low < 65536 := h low (by simp)
      have hoctets : ∀ octet ∈ [high / 256, high % 256, low / 256, low % 256], octet < 256 := by
        simp only [List.mem_cons, List.not_mem_nil, or_false, forall_eq_or_imp, forall_eq]
        omega
      rw [parseIpAddr_mapped rfl hoctets]
      simp only [List.getD_cons_zero, List.getD_cons_succ, Nat.div_add_mod']
  · simp only
    split
    · next hrun =>
        obtain ⟨hsegments, hle⟩ := IpAddr.segments_eq_of_zeroes (Nat.lt_of_succ_lt hrun)
        generalize IpAddr.zeroes segments = run at *
        have hback : (segments.drop (run.start + run.len)).length =
            segments.length - (run.start + run.len) := List.length_drop
        have hfront : (segments.take run.start).length = run.start :=
          List.length_take_of_le (by omega)
        rw [parseIpAddr_run (show 0 < run.len by omega) (by omega)
          (fun group hmem => h group (List.mem_of_mem_take hmem))
          (fun group hmem => h group (List.mem_of_mem_drop hmem)), ← hsegments]
    · exact parseIpAddr_fmtSubslice hlength h

/-- What is printed of an address is read back. -/
theorem parseIpAddr_display (address : IpAddr) :
    parseIpAddr address.display = some address := by
  cases address with
  | v4 address =>
      have hread := parseIpAddr_displayOctets rfl (IpAddr.octets_lt address)
      rwa [IpAddr.ofOctets_octets] at hread
  | v6 address =>
      have hread := parseIpAddr_displaySegments (IpAddr.length_segments address)
        (IpAddr.segments_lt address)
      rwa [IpAddr.ofGroups_segments] at hread

end MediaHub.Policy
