import Mathlib.Tactic.Common
import MediaHub.Text.Character

namespace MediaHub.Core

/-- UUIDs are opaque; `Uuid::now_v7` never hands out the same value twice. -/
abbrev Uuid := Nat

abbrev ApplicationId := Uuid
abbrev BucketId := Uuid
abbrev ObjectId := Uuid
abbrev ObjectVersionId := Uuid
abbrev UploadIntentId := Uuid
/-- The id in `mh_mpu_{uuid}`. -/
abbrev MultipartUploadId := Uuid
abbrev MediaId := Uuid
abbrev UploadSessionId := Uuid

/-- Nanoseconds since the Unix epoch. -/
abbrev Time := Int

namespace Time

def nanosPerSecond : Int := 1000000000

def nanosPerDay : Int := 86400 * nanosPerSecond

def seconds (n : Int) : Int := n * nanosPerSecond

def days (n : Int) : Int := n * nanosPerDay

/-- The range of `OffsetDateTime`: the years -9999 to 9999. -/
def inRange (t : Time) : Bool :=
  seconds (-377705116800) ≤ t && t < seconds 253402300800

def checkedAdd (t : Time) (duration : Int) : Option Time :=
  if inRange (t + duration) then some (t + duration) else none

def midnight (t : Time) : Time := t / nanosPerDay * nanosPerDay

/-- A calendar date of the proleptic Gregorian calendar. -/
structure Date where
  year : Int
  month : Int
  day : Int
deriving DecidableEq

/-- Days since the Unix epoch, counted in years that start in March. -/
def Date.toDays (date : Date) : Int :=
  let year := if date.month ≤ 2 then date.year - 1 else date.year
  let era := year / 400
  let yearOfEra := year - era * 400
  let shifted := if date.month ≤ 2 then date.month + 9 else date.month - 3
  let dayOfYear := (153 * shifted + 2) / 5 + date.day - 1
  let dayOfEra := yearOfEra * 365 + yearOfEra / 4 - yearOfEra / 100 + dayOfYear
  era * 146097 + dayOfEra - 719468

def Date.ofDays (n : Int) : Date :=
  let z := n + 719468
  let era := z / 146097
  let dayOfEra := z - era * 146097
  let yearOfEra := (dayOfEra - dayOfEra / 1460 + dayOfEra / 36524 - dayOfEra / 146096) / 365
  let dayOfYear := dayOfEra - (365 * yearOfEra + yearOfEra / 4 - yearOfEra / 100)
  let shifted := (5 * dayOfYear + 2) / 153
  let month := if shifted < 10 then shifted + 3 else shifted - 9
  let year := yearOfEra + era * 400
  { year := if month ≤ 2 then year + 1 else year
    month := month
    day := dayOfYear - (153 * shifted + 2) / 5 + 1 }

def isLeapYear (year : Int) : Bool :=
  year % 4 = 0 && (year % 100 ≠ 0 || year % 400 = 0)

/-- Fails outside the supported years and for 29 February of a common year. -/
def Date.replaceYear (date : Date) (year : Int) : Option Date :=
  if year < -9999 || 9999 < year then none
  else if date.month = 2 && date.day = 29 && !isLeapYear year then none
  else some { date with year := year }

def date (t : Time) : Date := Date.ofDays (t / nanosPerDay)

def replaceDate (t : Time) (date : Date) : Time :=
  date.toDays * nanosPerDay + t % nanosPerDay

end Time

/-- PostgreSQL keeps microseconds. -/
def postgresTime (t : Time) : Time := t / 1000 * 1000

theorem postgresTime_le (t : Time) : postgresTime t ≤ t :=
  Int.ediv_mul_le t (by decide)

theorem postgresTime_mono {s t : Time} (h : s ≤ t) : postgresTime s ≤ postgresTime t :=
  Int.mul_le_mul_of_nonneg_right (Int.ediv_le_ediv (by decide) h) (by decide)

@[simp] theorem postgresTime_postgresTime (t : Time) :
    postgresTime (postgresTime t) = postgresTime t := by
  unfold postgresTime
  rw [Int.mul_ediv_cancel _ (by decide)]

/-- Midnight is a whole number of microseconds. -/
@[simp] theorem postgresTime_midnight (t : Time) :
    postgresTime (Time.midnight t) = Time.midnight t := by
  have hday : ∀ n : Int, n / 86400000000000 * 86400000000000 / 1000 * 1000 =
      n / 86400000000000 * 86400000000000 := by
    intro n
    omega
  exact hday t

/-- The largest value of `BIGINT` and of `i64`. -/
def maxI64 : Nat := 9223372036854775807

/-- The largest value of `u64`. -/
def maxU64 : Nat := 18446744073709551615

/-- The largest value of `i32`. -/
def maxI32 : Nat := 2147483647

def checkedAddU64 (a b : Nat) : Option Nat :=
  if a + b ≤ maxU64 then some (a + b) else none

def hasAsciiControl (s : String) : Bool := s.toList.any Text.isAsciiControl

/-- What a lease or upload token must look like. -/
def validToken (token : String) : Bool :=
  token ≠ "" && token.utf8ByteSize ≤ 1024 && !hasAsciiControl token

def validObjectKey (key : String) : Bool :=
  key ≠ "" && key.utf8ByteSize ≤ 1024 && !key.toList.contains '\x00'

end MediaHub.Core
