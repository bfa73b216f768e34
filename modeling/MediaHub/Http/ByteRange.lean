import MediaHub.Http.Hmac
import MediaHub.Http.ObjectTagging

namespace MediaHub.Http

open MediaHub.Core
open MediaHub.Http.Hmac (ApiError)
open Text (isAsciiDigit)

inductive ByteRangeSpec where
  | between (first last : Nat)
  | starting (first : Nat)
  | suffix (length : Nat)

namespace ByteRangeSpec

/-- The first and the last byte that a range selects, if there are any. -/
def select (total : Nat) : ByteRangeSpec → Option (Nat × Nat)
  | between first last =>
      if first ≤ last ∧ first < total then some (first, min last (total - 1)) else none
  | starting first => if first < total then some (first, total - 1) else none
  | suffix length => if 0 < length ∧ 0 < total then some (total - length, total - 1) else none

def Satisfiable (total : Nat) (spec : ByteRangeSpec) : Prop := (spec.select total).isSome

/-- A range from its first byte on that is not longer than the object. -/
def inside (total : Nat) : ByteRangeSpec → Bool
  | between _ last => last < total
  | starting _ => true
  | suffix _ => false

/-- A range with both ends in the object. -/
def closed (total : Nat) : ByteRangeSpec → Bool
  | between _ last => last < total
  | starting _ | suffix _ => false

/-- How a range is written around its hyphen. -/
inductive Written (number : Text → Nat → Prop) : Text → Text → ByteRangeSpec → Prop
  | between {a b first last} :
      number a first → number b last → Written number a b (.between first last)
  | starting {a first} : number a first → Written number a [] (.starting first)
  | suffix {b length} : number b length → Written number [] b (.suffix length)

theorem select_bounds {total first last : Nat} {spec : ByteRangeSpec}
    (h : spec.select total = some (first, last)) : first ≤ last ∧ last < total := by
  cases spec with
  | between start stop =>
      rw [select, Option.ite_none_right_eq_some, Option.some.injEq, Prod.mk.injEq] at h
      omega
  | starting start =>
      rw [select, Option.ite_none_right_eq_some, Option.some.injEq, Prod.mk.injEq] at h
      omega
  | suffix length =>
      rw [select, Option.ite_none_right_eq_some, Option.some.injEq, Prod.mk.injEq] at h
      omega

end ByteRangeSpec

/-- `1*DIGIT`. -/
def Decimal (s : Text) (n : Nat) : Prop := s ≠ [] ∧ s.all isAsciiDigit ∧ digits s = n

/-- A number with or without a plus sign. -/
def Signed (s : Text) (n : Nat) : Prop :=
  Decimal s n ∨ ∃ rest, s = '+' :: rest ∧ Decimal rest n

/-- A range header, its unit and its numbers being written in some way. -/
def RangeHeader (unit : Text → Prop) (number : Text → Nat → Prop) (value : Text)
    (spec : ByteRangeSpec) : Prop :=
  ∃ u a b, value = u ++ '=' :: (a ++ '-' :: b) ∧ unit u ∧ spec.Written number a b

/-- `bytes`, as it is compared. -/
def IsBytes (u : Text) : Prop := u = "bytes".toList

/-- A name that stands for `bytes`: case does not matter. -/
def NamesBytes (u : Text) : Prop := toAsciiLowercase u = "bytes".toList

/-- What `u64` holds of the numbers that may be written. -/
def IsU64 (s : Text) (n : Nat) : Prop := Signed s n ∧ n ≤ maxU64

structure S3ByteRange where
  start : Nat
  endExclusive : Nat
deriving DecidableEq

/-- `strip_prefix`, `filter` and `split_once`, as all the parsers begin. -/
def rangeParts (value : Text) : Option (Text × Text) :=
  ((value.dropPrefix? "bytes=".toList).filter fun value => !value.contains ',').bind
    (Text.splitOnce '-')

def parseS3SingleRange (value : Text) (total : Nat) : Except S3ApiError S3ByteRange :=
  match rangeParts value with
  | none => .error .invalidRange
  | some (start, stop) =>
      if total = 0 then .error .invalidRange
      else if start.isEmpty then
        match (parseU64 stop).filter (0 < ·) with
        | none => .error .invalidRange
        | some suffix => .ok ⟨total - suffix, total⟩
      else
        match (parseU64 start).filter (· < total) with
        | none => .error .invalidRange
        | some start =>
            if stop.isEmpty then .ok ⟨start, total - 1 + 1⟩
            else
              match (parseU64 stop).filter (start ≤ ·) with
              | none => .error .invalidRange
              | some stop => .ok ⟨start, min stop (total - 1) + 1⟩

def parseS3CopySourceRange (headers : HeaderMap) (sourceSize : Nat) :
    Except S3ApiError (Option S3ByteRange) :=
  match optionalSingleS3Header headers "x-amz-copy-source-range" with
  | .error error => .error error
  | .ok none => .ok none
  | .ok (some value) =>
      match rangeParts value with
      | none => .error .invalidRange
      | some (start, stop) =>
          match parseU64 start with
          | none => .error .invalidRange
          | some start =>
              match parseU64 stop with
              | none => .error .invalidRange
              | some stop =>
                  if sourceSize = 0 ∨ stop < start ∨ sourceSize ≤ stop then .error .invalidRange
                  else .ok (some ⟨start, stop + 1⟩)

/-- The range of a media download, on a machine where `usize` is `u64`. -/
def parseSingleRange (value : Text) (total : Nat) : Except ApiError (Nat × Nat) :=
  match rangeParts value with
  | none => .error .rangeNotSatisfiable
  | some (start, stop) =>
      match parseU64 start with
      | none => .error .rangeNotSatisfiable
      | some start =>
          match if stop.isEmpty then (if total = 0 then none else some (total - 1))
            else parseU64 stop with
          | none => .error .rangeNotSatisfiable
          | some stop =>
              if stop < start ∨ total ≤ stop then .error .rangeNotSatisfiable
              else .ok (start, stop)

def parseObjectVersionRange (value : Text) (total : Nat) : Except Unit (Nat × Nat) :=
  match rangeParts value with
  | none => .error ()
  | some (start, stop) =>
      if total = 0 then .error ()
      else if start.isEmpty then
        match parseU64 stop with
        | none => .error ()
        | some suffix => if suffix = 0 then .error () else .ok (total - suffix, total - 1)
      else
        match parseU64 start with
        | none => .error ()
        | some start =>
            if total ≤ start then .error ()
            else
              match if stop.isEmpty then some (total - 1)
                else (parseU64 stop).map (min · (total - 1)) with
              | none => .error ()
              | some stop => if stop < start then .error () else .ok (start, stop)

theorem Signed.not_mem {s : Text} {n : Nat} (h : Signed s n) {c : Char}
    (hdigit : isAsciiDigit c = false) (hplus : c ≠ '+') : c ∉ s := by
  have hdecimal : ∀ {t : Text}, Decimal t n → c ∉ t := fun ⟨_, hdigits, _⟩ hmem => by
    rw [List.all_eq_true.1 hdigits c hmem] at hdigit
    exact Bool.noConfusion hdigit
  rcases h with h | ⟨rest, rfl, h⟩
  · exact hdecimal h
  · rw [List.mem_cons, not_or]
    exact ⟨hplus, hdecimal h⟩

theorem Signed.ne_nil {s : Text} {n : Nat} (h : Signed s n) : s ≠ [] := by
  rcases h with h | ⟨rest, rfl, _⟩
  · exact h.1
  · exact List.cons_ne_nil _ _

theorem not_decimal_plus {s : Text} {n : Nat} : ¬ Decimal ('+' :: s) n := fun ⟨_, hdigits, _⟩ =>
  absurd (List.all_eq_true.1 hdigits '+' List.mem_cons_self) (by decide)

theorem Signed.unique {s : Text} {m n : Nat} (hm : Signed s m) (hn : Signed s n) : m = n := by
  rcases hm with hm | ⟨rest, rfl, hm⟩
  · rcases hn with hn | ⟨rest, rfl, hn⟩
    · exact hm.2.2.symm.trans hn.2.2
    · exact absurd hm not_decimal_plus
  · rcases hn with hn | ⟨other, heq, hn⟩
    · exact absurd hn not_decimal_plus
    · obtain rfl := (List.cons.inj heq).2
      exact hm.2.2.symm.trans hn.2.2

theorem parseU64_eq_some_iff {s : Text} {n : Nat} : parseU64 s = some n ↔ IsU64 s n := by
  have hunsigned : ∀ t : Text,
      (if !t.isEmpty && t.all isAsciiDigit && digits t ≤ maxU64 then some (digits t) else none) =
          some n ↔ Decimal t n ∧ n ≤ maxU64 := by
    intro t
    rw [Option.ite_none_right_eq_some, Option.some.injEq, Decimal]
    simp only [Bool.and_eq_true, Bool.not_eq_true', List.isEmpty_eq_false_iff,
      decide_eq_true_eq]
    constructor
    · rintro ⟨⟨⟨hne, hdigits⟩, hle⟩, rfl⟩
      exact ⟨⟨hne, hdigits, rfl⟩, hle⟩
    · rintro ⟨⟨hne, hdigits, rfl⟩, hle⟩
      exact ⟨⟨⟨hne, hdigits⟩, hle⟩, rfl⟩
  by_cases hplus : ∃ rest, s = '+' :: rest
  · obtain ⟨rest, rfl⟩ := hplus
    refine (hunsigned rest).trans ⟨?_, ?_⟩
    · rintro ⟨h, hle⟩
      exact ⟨Or.inr ⟨rest, rfl, h⟩, hle⟩
    · rintro ⟨h | ⟨other, heq, h⟩, hle⟩
      · exact absurd h not_decimal_plus
      · obtain rfl := (List.cons.inj heq).2
        exact ⟨h, hle⟩
  · rw [parseU64.eq_2 s fun rest heq => hplus ⟨rest, heq⟩]
    refine (hunsigned s).trans ⟨?_, ?_⟩
    · rintro ⟨h, hle⟩
      exact ⟨Or.inl h, hle⟩
    · rintro ⟨h | ⟨rest, rfl, h⟩, hle⟩
      · exact ⟨h, hle⟩
      · exact absurd ⟨rest, rfl⟩ hplus

namespace ByteRangeSpec

variable {number other : Text → Nat → Prop} {a b : Text} {spec : ByteRangeSpec}

theorem Written.mono (h : spec.Written number a b) (himp : ∀ s n, number s n → other s n) :
    spec.Written other a b := by
  cases h with
  | between hfirst hlast => exact .between (himp _ _ hfirst) (himp _ _ hlast)
  | starting hfirst => exact .starting (himp _ _ hfirst)
  | suffix hlength => exact .suffix (himp _ _ hlength)

theorem Written.not_mem (h : spec.Written Signed a b) {c : Char}
    (hdigit : isAsciiDigit c = false) (hplus : c ≠ '+') : c ∉ a ∧ c ∉ b := by
  cases h with
  | between hfirst hlast => exact ⟨hfirst.not_mem hdigit hplus, hlast.not_mem hdigit hplus⟩
  | starting hfirst => exact ⟨hfirst.not_mem hdigit hplus, List.not_mem_nil⟩
  | suffix hlength => exact ⟨List.not_mem_nil, hlength.not_mem hdigit hplus⟩

theorem Written.unique {spec' : ByteRangeSpec} (h : spec.Written Signed a b)
    (h' : spec'.Written Signed a b) : spec = spec' := by
  cases h with
  | between hfirst hlast =>
      cases h' with
      | between hfirst' hlast' => rw [hfirst.unique hfirst', hlast.unique hlast']
      | starting _ => exact absurd rfl hlast.ne_nil
      | suffix _ => exact absurd rfl hfirst.ne_nil
  | starting hfirst =>
      cases h' with
      | between _ hlast' => exact absurd rfl hlast'.ne_nil
      | starting hfirst' => rw [hfirst.unique hfirst']
      | suffix _ => exact absurd rfl hfirst.ne_nil
  | suffix hlength =>
      cases h' with
      | between hfirst' _ => exact absurd rfl hfirst'.ne_nil
      | starting hfirst' => exact absurd rfl hfirst'.ne_nil
      | suffix hlength' => rw [hlength.unique hlength']

end ByteRangeSpec

theorem rangeParts_eq_some_iff {value a b : Text} :
    rangeParts value = some (a, b) ↔
      value = "bytes=".toList ++ (a ++ '-' :: b) ∧ '-' ∉ a ∧ ',' ∉ a ++ '-' :: b := by
  rw [rangeParts, Option.bind_eq_some_iff]
  constructor
  · rintro ⟨rest, hrest, hsplit⟩
    rw [Option.filter_eq_some_iff, List.dropPrefix?_eq_some_iff] at hrest
    obtain ⟨⟨start, rfl, hstart⟩, hcomma⟩ := hrest
    obtain ⟨hhyphen, rfl⟩ := Text.splitOnce_eq_some_iff.1 hsplit
    obtain rfl : start = "bytes=".toList := eq_of_beq hstart
    exact ⟨rfl, hhyphen, by simpa using hcomma⟩
  · rintro ⟨rfl, hhyphen, hcomma⟩
    refine ⟨a ++ '-' :: b, ?_, Text.splitOnce_eq_some_iff.2 ⟨hhyphen, rfl⟩⟩
    rw [Option.filter_eq_some_iff, List.dropPrefix?_eq_some_iff]
    exact ⟨⟨_, rfl, beq_self_eq_true _⟩, by simpa using hcomma⟩

theorem rangeHeader_iff {value : Text} {spec : ByteRangeSpec} :
    RangeHeader IsBytes IsU64 value spec ↔
      ∃ a b, rangeParts value = some (a, b) ∧ spec.Written IsU64 a b := by
  constructor
  · rintro ⟨u, a, b, rfl, rfl, h⟩
    have hsigned := h.mono fun _ _ hnumber => hnumber.1
    obtain ⟨hcomma, hcomma'⟩ := hsigned.not_mem (c := ',') (by decide) (by decide)
    refine ⟨a, b, rangeParts_eq_some_iff.2 ⟨rfl, ?_, ?_⟩, h⟩
    · exact (hsigned.not_mem (by decide) (by decide)).1
    · rw [List.mem_append, List.mem_cons, not_or, not_or]
      exact ⟨hcomma, by decide, hcomma'⟩
  · rintro ⟨a, b, hparts, h⟩
    exact ⟨"bytes".toList, a, b, (rangeParts_eq_some_iff.1 hparts).1, rfl, h⟩

/-- The range that stands around a hyphen, as `u64` reads its numbers. -/
def readSpec (a b : Text) : Option ByteRangeSpec :=
  if a.isEmpty then (parseU64 b).map .suffix
  else (parseU64 a).bind fun first =>
    if b.isEmpty then some (.starting first) else (parseU64 b).map (.between first)

def rangeSpec (value : Text) : Option ByteRangeSpec :=
  (rangeParts value).bind fun parts => readSpec parts.1 parts.2

theorem readSpec_eq_some_iff {a b : Text} {spec : ByteRangeSpec} :
    readSpec a b = some spec ↔ spec.Written IsU64 a b := by
  rw [readSpec]
  constructor
  · intro h
    split at h
    · next hempty =>
        obtain ⟨length, hlength, rfl⟩ := Option.map_eq_some_iff.1 h
        obtain rfl := List.isEmpty_iff.1 hempty
        exact .suffix (parseU64_eq_some_iff.1 hlength)
    · obtain ⟨first, hfirst, hrest⟩ := Option.bind_eq_some_iff.1 h
      split at hrest
      · next hempty =>
          obtain rfl := List.isEmpty_iff.1 hempty
          obtain rfl := Option.some.inj hrest
          exact .starting (parseU64_eq_some_iff.1 hfirst)
      · obtain ⟨last, hlast, rfl⟩ := Option.map_eq_some_iff.1 hrest
        exact .between (parseU64_eq_some_iff.1 hfirst) (parseU64_eq_some_iff.1 hlast)
  · intro h
    have hnumber : ∀ {s : Text} {n : Nat}, IsU64 s n → parseU64 s = some n ∧ ¬ s.isEmpty :=
      fun hs => ⟨parseU64_eq_some_iff.2 hs, fun h => hs.1.ne_nil (List.isEmpty_iff.1 h)⟩
    cases h with
    | between hfirst hlast =>
        rw [if_neg (hnumber hfirst).2, (hnumber hfirst).1, Option.bind_some,
          if_neg (hnumber hlast).2, (hnumber hlast).1, Option.map_some]
    | starting hfirst =>
        rw [if_neg (hnumber hfirst).2, (hnumber hfirst).1, Option.bind_some,
          if_pos List.isEmpty_nil]
    | suffix hlength => rw [if_pos List.isEmpty_nil, (hnumber hlength).1, Option.map_some]

theorem rangeSpec_eq_some_iff {value : Text} {spec : ByteRangeSpec} :
    rangeSpec value = some spec ↔ RangeHeader IsBytes IsU64 value spec := by
  rw [rangeSpec, Option.bind_eq_some_iff, rangeHeader_iff, Prod.exists]
  simp only [readSpec_eq_some_iff]

/-- What a parser finds in a header, up to the range or up to what is missing. -/
inductive Reads (value : Text) : Option ByteRangeSpec → Prop
  | unparted : rangeParts value = none → Reads value none
  | unread {b} : rangeParts value = some ([], b) → parseU64 b = none → Reads value none
  | unbegun {a b} :
      rangeParts value = some (a, b) → a ≠ [] → parseU64 a = none → Reads value none
  | unended {a b first} :
      rangeParts value = some (a, b) → a ≠ [] → parseU64 a = some first → b ≠ [] →
        parseU64 b = none → Reads value none
  | suffix {b length} :
      rangeParts value = some ([], b) → parseU64 b = some length →
        Reads value (some (.suffix length))
  | starting {a first} :
      rangeParts value = some (a, []) → a ≠ [] → parseU64 a = some first →
        Reads value (some (.starting first))
  | between {a b first last} :
      rangeParts value = some (a, b) → a ≠ [] → parseU64 a = some first → b ≠ [] →
        parseU64 b = some last → Reads value (some (.between first last))

theorem reads_rangeSpec (value : Text) : Reads value (rangeSpec value) := by
  rw [rangeSpec]
  cases hparts : rangeParts value with
  | none => exact .unparted hparts
  | some parts =>
      obtain ⟨a, b⟩ := parts
      rw [Option.bind_some, readSpec]
      cases a with
      | nil =>
          cases hlength : parseU64 b with
          | none => exact .unread hparts hlength
          | some length => exact .suffix hparts hlength
      | cons c a =>
          have ha := List.cons_ne_nil c a
          cases hfirst : parseU64 (c :: a) with
          | none => exact .unbegun hparts ha hfirst
          | some first =>
              cases b with
              | nil => exact .starting hparts ha hfirst
              | cons d b =>
                  have hb := List.cons_ne_nil d b
                  cases hlast : parseU64 (d :: b) with
                  | none => exact .unended hparts ha hfirst hb hlast
                  | some last => exact .between hparts ha hfirst hb hlast

theorem parseU64_nil : parseU64 [] = none := rfl

/-- A header is read in one way, however its unit and its numbers may be written. -/
theorem RangeHeader.both {unit unit' : Text → Prop} {number number' : Text → Nat → Prop}
    {value : Text} {spec spec' : ByteRangeSpec} (hunit : ∀ u, unit u → '=' ∉ u)
    (hunit' : ∀ u, unit' u → '=' ∉ u) (hnumber : ∀ s n, number s n → Signed s n)
    (hnumber' : ∀ s n, number' s n → Signed s n) (h : RangeHeader unit number value spec)
    (h' : RangeHeader unit' number' value spec') :
    spec = spec' ∧ RangeHeader unit number' value spec := by
  obtain ⟨u, a, b, rfl, hu, hwritten⟩ := h
  obtain ⟨u', a', b', heq, hu', hwritten'⟩ := h'
  have hsigned := hwritten.mono hnumber
  have hsigned' := hwritten'.mono hnumber'
  obtain ⟨rfl, hrest⟩ := Text.append_separator_inj (hunit u hu) (hunit' u' hu') heq
  obtain ⟨rfl, rfl⟩ := Text.append_separator_inj
    (hsigned.not_mem (by decide) (by decide)).1 (hsigned'.not_mem (by decide) (by decide)).1 hrest
  obtain rfl := hsigned.unique hsigned'
  exact ⟨rfl, u, a, b, rfl, hu, hwritten'⟩

section

variable {ε β : Type} (error : ε) (answer : Nat × Nat → β)

/-- The answer to a range, and an error if there is none. -/
def answerRange (range : Option (Nat × Nat)) : Except ε β :=
  range.elim (.error error) fun range => .ok (answer range)

theorem answerRange_eq_ok_iff {range : Option (Nat × Nat)} {result : β} :
    answerRange error answer range = .ok result ↔ ∃ r, range = some r ∧ answer r = result := by
  cases range with
  | none => simp [answerRange]
  | some range => simp [answerRange]

end

theorem select_zero (spec : ByteRangeSpec) : spec.select 0 = none := by
  cases spec <;> simp [ByteRangeSpec.select]

theorem parseS3SingleRange_eq (value : Text) (total : Nat) :
    parseS3SingleRange value total =
      answerRange .invalidRange (fun range => ⟨range.1, range.2 + 1⟩)
        ((rangeSpec value).bind (ByteRangeSpec.select total)) := by
  have hreads := reads_rangeSpec value
  generalize rangeSpec value = spec at hreads ⊢
  unfold parseS3SingleRange
  cases hreads with
  | unparted hparts => simp [hparts, answerRange]
  | unread hparts hlength => simp [hparts, hlength, answerRange]
  | unbegun hparts ha hfirst => simp [hparts, ha, hfirst, answerRange]
  | @unended a b first hparts ha hfirst hb hlast =>
      by_cases hlt : first < total <;>
        simp [hparts, ha, hfirst, hb, hlast, hlt, answerRange, Option.filter]
  | @suffix b length hparts hlength =>
      by_cases htotal : total = 0
      · simp [hparts, htotal, select_zero, answerRange]
      · have hpos := Nat.pos_of_ne_zero htotal
        by_cases hlt : 0 < length <;>
          simp [hparts, hlength, htotal, hlt, hpos, answerRange, Option.filter,
            ByteRangeSpec.select, Nat.sub_add_cancel hpos]
  | @starting a first hparts ha hfirst =>
      by_cases hlt : first < total
      · have htotal : total ≠ 0 := by omega
        simp [hparts, ha, hfirst, htotal, hlt, answerRange, Option.filter, ByteRangeSpec.select]
      · simp [hparts, ha, hfirst, hlt, answerRange, Option.filter, ByteRangeSpec.select]
  | @between a b first last hparts ha hfirst hb hlast =>
      by_cases hlt : first < total
      · have htotal : total ≠ 0 := by omega
        by_cases hle : first ≤ last <;>
          simp [hparts, ha, hfirst, hb, hlast, htotal, hlt, hle, answerRange, Option.filter,
            ByteRangeSpec.select]
      · simp [hparts, ha, hfirst, hlt, answerRange, Option.filter, ByteRangeSpec.select]

theorem parseObjectVersionRange_eq (value : Text) (total : Nat) :
    parseObjectVersionRange value total =
      answerRange () id ((rangeSpec value).bind (ByteRangeSpec.select total)) := by
  have hreads := reads_rangeSpec value
  generalize rangeSpec value = spec at hreads ⊢
  unfold parseObjectVersionRange
  cases hreads with
  | unparted hparts => simp [hparts, answerRange]
  | unread hparts hlength => simp [hparts, hlength, answerRange]
  | unbegun hparts ha hfirst => simp [hparts, ha, hfirst, answerRange]
  | unended hparts ha hfirst hb hlast => simp [hparts, ha, hfirst, hb, hlast, answerRange]
  | @suffix b length hparts hlength =>
      by_cases htotal : total = 0
      · simp [hparts, htotal, select_zero, answerRange]
      · have hpos := Nat.pos_of_ne_zero htotal
        by_cases hzero : length = 0
        · simp [hparts, hlength, htotal, hzero, answerRange, ByteRangeSpec.select]
        · simp [hparts, hlength, htotal, hzero, hpos, Nat.pos_of_ne_zero hzero, answerRange,
            ByteRangeSpec.select]
  | @starting a first hparts ha hfirst =>
      by_cases hle : total ≤ first
      · simp [hparts, ha, hfirst, hle, Nat.not_lt.2 hle, answerRange, ByteRangeSpec.select]
      · have htotal : total ≠ 0 := by omega
        have hlast : ¬ total - 1 < first := by omega
        simp [hparts, ha, hfirst, htotal, hle, Nat.lt_of_not_le hle, hlast, answerRange,
          ByteRangeSpec.select]
  | @between a b first last hparts ha hfirst hb hlast =>
      by_cases hle : total ≤ first
      · simp [hparts, ha, hfirst, hle, Nat.not_lt.2 hle, answerRange, ByteRangeSpec.select]
      · have htotal : total ≠ 0 := by omega
        have hlt := Nat.lt_of_not_le hle
        by_cases hends : first ≤ last
        · have hmin : ¬ min last (total - 1) < first := by omega
          simp [hparts, ha, hfirst, hb, hlast, htotal, hle, hlt, hends, hmin, answerRange,
            ByteRangeSpec.select]
        · have hmin : min last (total - 1) < first := by omega
          simp [hparts, ha, hfirst, hb, hlast, htotal, hle, hends, hmin, answerRange,
            ByteRangeSpec.select]

theorem parseSingleRange_eq (value : Text) (total : Nat) :
    parseSingleRange value total =
      answerRange .rangeNotSatisfiable id
        (((rangeSpec value).filter (ByteRangeSpec.inside total)).bind
          (ByteRangeSpec.select total)) := by
  have hreads := reads_rangeSpec value
  generalize rangeSpec value = spec at hreads ⊢
  unfold parseSingleRange
  cases hreads with
  | unparted hparts => simp [hparts, answerRange]
  | unread hparts hlength => simp [hparts, parseU64_nil, answerRange]
  | unbegun hparts ha hfirst => simp [hparts, hfirst, answerRange]
  | unended hparts ha hfirst hb hlast => simp [hparts, hfirst, hb, hlast, answerRange]
  | suffix hparts hlength =>
      simp [hparts, parseU64_nil, answerRange, Option.filter, ByteRangeSpec.inside]
  | @starting a first hparts ha hfirst =>
      by_cases htotal : total = 0
      · simp [hparts, hfirst, htotal, select_zero, answerRange, Option.filter,
          ByteRangeSpec.inside]
      · by_cases hlt : first < total
        · have hends : ¬ (total - 1 < first ∨ total ≤ total - 1) := by omega
          simp [hparts, hfirst, htotal, hlt, hends, answerRange, Option.filter,
            ByteRangeSpec.inside, ByteRangeSpec.select]
        · have hends : total - 1 < first := by omega
          simp [hparts, hfirst, htotal, hlt, hends, answerRange, Option.filter,
            ByteRangeSpec.inside, ByteRangeSpec.select]
  | @between a b first last hparts ha hfirst hb hlast =>
      by_cases hinside : last < total
      · by_cases hends : first ≤ last
        · have hlt : first < total := by omega
          have hmin : min last (total - 1) = last := by omega
          simp [hparts, hfirst, hb, hlast, hinside, hends, hlt, hmin, answerRange, Option.filter,
            ByteRangeSpec.inside, ByteRangeSpec.select]
        · simp [hparts, hfirst, hb, hlast, hinside, hends, answerRange, Option.filter,
            ByteRangeSpec.inside, ByteRangeSpec.select]
      · simp [hparts, hfirst, hb, hlast, hinside, answerRange, Option.filter,
          ByteRangeSpec.inside]

theorem parseS3CopySourceRange_eq {headers : HeaderMap} {value : Text}
    (hvalue : optionalSingleS3Header headers "x-amz-copy-source-range" = .ok (some value))
    (sourceSize : Nat) :
    parseS3CopySourceRange headers sourceSize =
      answerRange .invalidRange (fun range => some ⟨range.1, range.2 + 1⟩)
        (((rangeSpec value).filter (ByteRangeSpec.closed sourceSize)).bind
          (ByteRangeSpec.select sourceSize)) := by
  have hreads := reads_rangeSpec value
  generalize rangeSpec value = spec at hreads ⊢
  unfold parseS3CopySourceRange
  cases hreads with
  | unparted hparts => simp [hvalue, hparts, answerRange]
  | unread hparts hlength => simp [hvalue, hparts, parseU64_nil, answerRange]
  | unbegun hparts ha hfirst => simp [hvalue, hparts, hfirst, answerRange]
  | unended hparts ha hfirst hb hlast => simp [hvalue, hparts, hfirst, hlast, answerRange]
  | suffix hparts hlength =>
      simp [hvalue, hparts, parseU64_nil, answerRange, Option.filter, ByteRangeSpec.closed]
  | starting hparts ha hfirst =>
      simp [hvalue, hparts, hfirst, parseU64_nil, answerRange, Option.filter,
        ByteRangeSpec.closed]
  | @between a b first last hparts ha hfirst hb hlast =>
      by_cases hinside : last < sourceSize
      · have hsize : sourceSize ≠ 0 := by omega
        by_cases hends : first ≤ last
        · have hlt : first < sourceSize := by omega
          have hmin : min last (sourceSize - 1) = last := by omega
          simp [hvalue, hparts, hfirst, hlast, hinside, hends, hlt, hmin, hsize, answerRange,
            Option.filter, ByteRangeSpec.closed, ByteRangeSpec.select]
        · have hlt : last < first := by omega
          simp [hvalue, hparts, hfirst, hlast, hinside, hends, hlt, answerRange, Option.filter,
            ByteRangeSpec.closed, ByteRangeSpec.select]
      · have hle : sourceSize ≤ last := by omega
        simp [hvalue, hparts, hfirst, hlast, hinside, hle, answerRange, Option.filter,
          ByteRangeSpec.closed]

/-- A header that a parser of single ranges may accept. -/
def SingleRange (value : Text) : Prop := ∃ spec, RangeHeader NamesBytes Decimal value spec

/-- What a parser of single ranges may answer at a size. -/
structure GoodRange (value : Text) (total : Nat) (range : S3ByteRange) : Prop where
  written : SingleRange value
  nonempty : range.start < range.endExclusive
  inside : range.endExclusive ≤ total

/-- The four parsers on one header, and the three of them that serve downloads. -/
structure RangesCorrect (value : Text) (total : Nat) : Prop where
  object : ∀ range, parseS3SingleRange value total = .ok range → GoodRange value total range
  copySource : ∀ headers range,
    optionalSingleS3Header headers "x-amz-copy-source-range" = .ok (some value) →
      parseS3CopySourceRange headers total = .ok (some range) →
        GoodRange value total range ∧
          ∃ first last, RangeHeader NamesBytes Decimal value (.between first last)
  media : ∀ first last, parseSingleRange value total = .ok (first, last) →
    GoodRange value total ⟨first, last + 1⟩
  version : ∀ first last, parseObjectVersionRange value total = .ok (first, last) →
    GoodRange value total ⟨first, last + 1⟩
  downloads : ∀ spec first last, RangeHeader NamesBytes Decimal value spec →
    spec.select total = some (first, last) →
      parseS3SingleRange value total = .ok ⟨first, last + 1⟩ ∧
      parseSingleRange value total = .ok (first, last) ∧
      parseObjectVersionRange value total = .ok (first, last)

/-- A header that can be satisfied, as the code or as the grammar reads it, is written in plain
digits and begins and ends in the object. -/
def PlainIfSatisfiable (value : Text) (total : Nat) : Prop :=
  ∀ spec : ByteRangeSpec, spec.Satisfiable total →
    RangeHeader IsBytes IsU64 value spec ∨ RangeHeader NamesBytes Decimal value spec →
      RangeHeader IsBytes Decimal value spec ∧ spec.inside total

theorem RangeHeader.mono {unit unit' : Text → Prop} {number number' : Text → Nat → Prop}
    {value : Text} {spec : ByteRangeSpec} (hunit : ∀ u, unit u → unit' u)
    (hnumber : ∀ s n, number s n → number' s n) (h : RangeHeader unit number value spec) :
    RangeHeader unit' number' value spec := by
  obtain ⟨u, a, b, rfl, hu, hwritten⟩ := h
  exact ⟨u, a, b, rfl, hunit u hu, hwritten.mono hnumber⟩

theorem NamesBytes.no_equals {u : Text} (h : NamesBytes u) : '=' ∉ u := by
  intro hmem
  have hlower : Char.toLower '=' ∈ toAsciiLowercase u := List.mem_map_of_mem hmem
  rw [h] at hlower
  exact absurd hlower (by decide)

theorem IsBytes.namesBytes {u : Text} (h : IsBytes u) : NamesBytes u := by
  rw [h, NamesBytes]
  decide

section

variable {value : Text} {total : Nat} {spec : ByteRangeSpec}

/-- What the code reads and what the grammar reads is the same range. -/
theorem RangeHeader.of_reads {spec' : ByteRangeSpec} (h : RangeHeader IsBytes IsU64 value spec)
    (h' : RangeHeader NamesBytes Decimal value spec') :
    spec = spec' ∧ RangeHeader IsBytes Decimal value spec :=
  h.both (fun _ hu => hu.namesBytes.no_equals) (fun _ hu => hu.no_equals)
    (fun _ _ hnumber => hnumber.1) (fun _ _ hnumber => Or.inl hnumber) h'

/-- A range inside an object has no number that is too large. -/
theorem RangeHeader.isU64 (htotal : total ≤ maxU64)
    (h : RangeHeader IsBytes Decimal value spec) (hinside : spec.inside total)
    (hsatisfiable : spec.Satisfiable total) : RangeHeader IsBytes IsU64 value spec := by
  obtain ⟨u, a, b, rfl, hu, hwritten⟩ := h
  refine ⟨u, a, b, rfl, hu, ?_⟩
  cases hwritten with
  | between hfirst hlast =>
      have hlt := of_decide_eq_true hinside
      rw [ByteRangeSpec.Satisfiable, ByteRangeSpec.select] at hsatisfiable
      split at hsatisfiable
      · next hle =>
          exact .between ⟨Or.inl hfirst, by omega⟩ ⟨Or.inl hlast, by omega⟩
      · simp at hsatisfiable
  | starting hfirst =>
      rw [ByteRangeSpec.Satisfiable, ByteRangeSpec.select] at hsatisfiable
      split at hsatisfiable
      · exact .starting ⟨Or.inl hfirst, by omega⟩
      · simp at hsatisfiable
  | suffix _ => simp [ByteRangeSpec.inside] at hinside

theorem satisfiable_of_select {range : Nat × Nat} (h : spec.select total = some range) :
    spec.Satisfiable total := by
  rw [ByteRangeSpec.Satisfiable, h]
  rfl

/-- A range that a parser reads and selects is written in plain digits. -/
theorem PlainIfSatisfiable.header (h : PlainIfSatisfiable value total) {range : Nat × Nat}
    (hspec : rangeSpec value = some spec) (hselect : spec.select total = some range) :
    RangeHeader IsBytes Decimal value spec :=
  (h spec (satisfiable_of_select hselect) (Or.inl (rangeSpec_eq_some_iff.1 hspec))).1

theorem PlainIfSatisfiable.goodRange (h : PlainIfSatisfiable value total) {range : Nat × Nat}
    (hspec : rangeSpec value = some spec) (hselect : spec.select total = some range) :
    GoodRange value total ⟨range.1, range.2 + 1⟩ := by
  obtain ⟨hle, hlt⟩ := ByteRangeSpec.select_bounds hselect
  exact ⟨⟨spec, (h.header hspec hselect).mono (fun _ hu => hu.namesBytes)
    fun _ _ hnumber => hnumber⟩, Nat.lt_succ_of_le hle, hlt⟩

theorem PlainIfSatisfiable.rangesCorrect (htotal : total ≤ maxU64)
    (h : PlainIfSatisfiable value total) : RangesCorrect value total where
  object range hrange := by
    rw [parseS3SingleRange_eq, answerRange_eq_ok_iff] at hrange
    obtain ⟨r, hr, rfl⟩ := hrange
    obtain ⟨spec, hspec, hselect⟩ := Option.bind_eq_some_iff.1 hr
    exact h.goodRange hspec hselect
  copySource headers range hvalue hrange := by
    rw [parseS3CopySourceRange_eq hvalue, answerRange_eq_ok_iff] at hrange
    obtain ⟨r, hr, heq⟩ := hrange
    obtain rfl := Option.some.inj heq
    obtain ⟨spec, hfilter, hselect⟩ := Option.bind_eq_some_iff.1 hr
    obtain ⟨hspec, hclosed⟩ := Option.filter_eq_some_iff.1 hfilter
    refine ⟨h.goodRange hspec hselect, ?_⟩
    cases spec with
    | between first last =>
        exact ⟨first, last, (h.header hspec hselect).mono (fun _ hu => hu.namesBytes)
          fun _ _ hnumber => hnumber⟩
    | starting _ => simp [ByteRangeSpec.closed] at hclosed
    | suffix _ => simp [ByteRangeSpec.closed] at hclosed
  media first last hrange := by
    rw [parseSingleRange_eq, answerRange_eq_ok_iff] at hrange
    obtain ⟨r, hr, rfl⟩ := hrange
    obtain ⟨spec, hspec, hselect⟩ := Option.bind_eq_some_iff.1 hr
    exact h.goodRange (Option.filter_eq_some_iff.1 hspec).1 hselect
  version first last hrange := by
    rw [parseObjectVersionRange_eq, answerRange_eq_ok_iff] at hrange
    obtain ⟨r, hr, rfl⟩ := hrange
    obtain ⟨spec, hspec, hselect⟩ := Option.bind_eq_some_iff.1 hr
    exact h.goodRange hspec hselect
  downloads spec first last hheader hselect := by
    have hsatisfiable := satisfiable_of_select hselect
    obtain ⟨hplain, hinside⟩ := h spec hsatisfiable (Or.inr hheader)
    have hspec := rangeSpec_eq_some_iff.2 (hplain.isU64 htotal hinside hsatisfiable)
    have hfilter : (rangeSpec value).filter (ByteRangeSpec.inside total) = some spec :=
      Option.filter_eq_some_iff.2 ⟨hspec, hinside⟩
    rw [parseS3SingleRange_eq, parseSingleRange_eq, parseObjectVersionRange_eq, hfilter, hspec,
      Option.bind_some, hselect]
    exact ⟨rfl, rfl, rfl⟩

theorem RangesCorrect.plainIfSatisfiable (h : RangesCorrect value total) :
    PlainIfSatisfiable value total := by
  -- The media parser answers on every satisfiable header of the grammar, and only inside.
  have hmedia : ∀ {spec first last}, RangeHeader NamesBytes Decimal value spec →
      spec.select total = some (first, last) →
        RangeHeader IsBytes Decimal value spec ∧ spec.inside total := by
    intro spec first last hheader hselect
    have hrange := (h.downloads spec first last hheader hselect).2.1
    rw [parseSingleRange_eq, answerRange_eq_ok_iff] at hrange
    obtain ⟨_, hr, _⟩ := hrange
    obtain ⟨other, hother, _⟩ := Option.bind_eq_some_iff.1 hr
    obtain ⟨hspec, hinside⟩ := Option.filter_eq_some_iff.1 hother
    obtain ⟨rfl, hplain⟩ := (rangeSpec_eq_some_iff.1 hspec).of_reads hheader
    exact ⟨hplain, hinside⟩
  intro spec hsatisfiable hread
  obtain ⟨⟨first, last⟩, hselect⟩ := Option.isSome_iff_exists.1 hsatisfiable
  rcases hread with hread | hread
  · have hanswer : parseS3SingleRange value total = .ok ⟨first, last + 1⟩ := by
      rw [parseS3SingleRange_eq, rangeSpec_eq_some_iff.2 hread, Option.bind_some, hselect]
      rfl
    obtain ⟨spec', hspec'⟩ := (h.object _ hanswer).written
    obtain ⟨rfl, _⟩ := hread.of_reads hspec'
    exact hmedia hspec' hselect
  · exact hmedia hread hselect

end

/-- The four parsers are right about a header exactly where it is plain if it can be satisfied. -/
theorem rangesCorrect_iff (value : Text) {total : Nat} (htotal : total ≤ maxU64) :
    RangesCorrect value total ↔ PlainIfSatisfiable value total :=
  ⟨RangesCorrect.plainIfSatisfiable, PlainIfSatisfiable.rangesCorrect htotal⟩

theorem decimal_singleton {c : Char} (h : isAsciiDigit c) : Decimal [c] (c.toNat - '0'.toNat) := by
  refine ⟨List.cons_ne_nil _ _, by simpa using h, ?_⟩
  simp [digits]

theorem rangesCorrect_iff_inner : RangesCorrect "bytes=2-5".toList 10 := by
  have hheader : RangeHeader IsBytes Decimal "bytes=2-5".toList (.between 2 5) :=
    ⟨"bytes".toList, ['2'], ['5'], by decide, rfl,
      .between (decimal_singleton (by decide)) (decimal_singleton (by decide))⟩
  have hnames : RangeHeader NamesBytes Decimal "bytes=2-5".toList (.between 2 5) :=
    hheader.mono (fun _ hu => hu.namesBytes) fun _ _ hnumber => hnumber
  refine (rangesCorrect_iff "bytes=2-5".toList (by decide)).2 fun spec _ hread => ?_
  rcases hread with hread | hread
  · obtain ⟨rfl, hplain⟩ := hread.of_reads hnames
    exact ⟨hplain, by decide⟩
  · obtain ⟨rfl, _⟩ := (hheader.isU64 (by decide : 10 ≤ maxU64) (by decide) rfl).of_reads hread
    exact ⟨hheader, by decide⟩

/-- A plus sign is accepted, and a media download refuses a suffix and a range beyond the end. -/
theorem not_rangesCorrect :
    ¬ RangesCorrect "bytes=+1-2".toList 10 ∧ ¬ RangesCorrect "bytes=-3".toList 10 ∧
      ¬ RangesCorrect "bytes=7-9".toList 9 := by
  refine ⟨fun h => ?_, fun h => ?_, fun h => ?_⟩
  · obtain ⟨spec, u, a, b, heq, hu, hwritten⟩ := (h.object ⟨1, 3⟩ (by decide)).written
    have hsplit : "bytes=+1-2".toList = "bytes".toList ++ '=' :: (['+', '1'] ++ '-' :: ['2']) := by
      decide
    rw [hsplit] at heq
    obtain ⟨rfl, hrest⟩ := Text.append_separator_inj (by decide) hu.no_equals heq
    have hhyphen := ((hwritten.mono fun _ _ hnumber => Or.inl hnumber : spec.Written Signed a b
      ).not_mem (c := '-') (by decide) (by decide)).1
    obtain ⟨rfl, rfl⟩ := Text.append_separator_inj (by decide) hhyphen hrest
    cases hwritten with
    | between hfirst _ => exact not_decimal_plus hfirst
  · have hheader : RangeHeader NamesBytes Decimal "bytes=-3".toList (.suffix 3) :=
      ⟨"bytes".toList, [], ['3'], by decide, by rw [NamesBytes]; decide,
        .suffix (decimal_singleton (by decide))⟩
    have hmedia := (h.downloads (.suffix 3) 7 9 hheader (by decide)).2.1
    exact absurd hmedia (by decide)
  · have hheader : RangeHeader NamesBytes Decimal "bytes=7-9".toList (.between 7 9) :=
      ⟨"bytes".toList, ['7'], ['9'], by decide, by rw [NamesBytes]; decide,
        .between (decimal_singleton (by decide)) (decimal_singleton (by decide))⟩
    have hmedia := (h.downloads (.between 7 9) 7 8 hheader (by decide)).2.1
    exact absurd hmedia (by decide)

end MediaHub.Http
