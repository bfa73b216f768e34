import MediaHub.Core.Bucket
import MediaHub.Core.OffsetTime
import Mathlib.Tactic.Ring

namespace MediaHub.Core

open Time (nanosPerSecond nanosPerDay isLeapYear daysInMonth)

/-- The number of days or years, which is a `u32`. -/
def DefaultRetentionPeriod.value : DefaultRetentionPeriod → Nat
  | .days value | .years value => value

@[simp] theorem DefaultRetentionPeriod.value_days (value : Nat) :
    (DefaultRetentionPeriod.days value).value = value := rfl

@[simp] theorem DefaultRetentionPeriod.value_years (value : Nat) :
    (DefaultRetentionPeriod.years value).value = value := rfl

/-- `Duration::days`, in seconds, with no result where it panics. -/
def durationDays (days : Int) : Option Int :=
  if -9223372036854775808 ≤ days * 86400 ∧ days * 86400 ≤ 9223372036854775807 then
    some (days * 86400)
  else none

/-- `checked_add` on `i32`. -/
def checkedAddI32 (a b : Int) : Option Int :=
  if -2147483648 ≤ a + b ∧ a + b ≤ 2147483647 then some (a + b) else none

/-- A retention whose date has the offset of the clock that it was computed from. -/
structure OffsetRetention where
  mode : RetentionMode
  retainUntil : OffsetDateTime
deriving DecidableEq

/-- The date of `replace_year`, or else of `replace_day(28)` and `replace_year`. -/
def CalendarDate.replaceYearClamped (self : CalendarDate) (year : Int) : Option CalendarDate :=
  match self.replaceYear year with
  | some date => some date
  | none => do
      let date ← self.replaceDay 28
      date.replaceYear year

namespace DefaultRetention

def new (mode : RetentionMode) (period : DefaultRetentionPeriod) :
    Except S3ModelError DefaultRetention :=
  if h : period.isValid then .ok ⟨mode, period, h⟩ else .error .invalidDefaultRetention

/-- `for_object_at`, with no result where it panics. -/
def checkedForObjectAt (self : DefaultRetention) (createdAt : OffsetDateTime) :
    Option (Except S3ModelError OffsetRetention) :=
  match self.period with
  | .days days => do
      let duration ← durationDays days
      match createdAt.checkedAdd duration with
      | some retainUntil => return .ok ⟨self.mode, retainUntil⟩
      | none => return .error .invalidObjectRetention
  | .years years =>
      if 2147483647 < years then some (.error .invalidObjectRetention)
      else
        match checkedAddI32 createdAt.year years with
        | none => some (.error .invalidObjectRetention)
        | some year =>
            match createdAt.date.replaceYearClamped year with
            | some date => some (.ok ⟨self.mode, createdAt.replaceDate date⟩)
            | none => some (.error .invalidObjectRetention)

end DefaultRetention

namespace CalendarDate

theorem replaceYear_eq_none_iff {self : CalendarDate} {year : Int} :
    self.replaceYear year = none ↔ self.date.replaceYear year = none := by
  rw [← map_replaceYear, Option.map_eq_none_iff]

theorem replaceYearClamped_eq_none {self : CalendarDate} {year : Int}
    (h : ¬ (-9999 ≤ year ∧ year ≤ 9999)) : self.replaceYearClamped year = none := by
  have hnone : ∀ date : CalendarDate, date.replaceYear year = none := by
    intro date
    rw [replaceYear_eq_none_iff, Time.Date.replaceYear_of_not_supported h]
  rw [replaceYearClamped, hnone]
  simp [hnone]

theorem replaceYearClamped_eq_some {self : CalendarDate} {year : Int}
    (h : -9999 ≤ year ∧ year ≤ 9999) :
    ∃ date, self.replaceYearClamped year = some date ∧ date.date = self.date.inYear year := by
  have hreplace : self.date.replaceYear year = _ := Time.Date.replaceYear_of_supported h
  by_cases hclamp : self.date.month = 2 ∧ self.date.day = 29 ∧ isLeapYear year = false
  · rw [if_pos hclamp] at hreplace
    have hlast : 1 ≤ (28 : Int) ∧ 28 ≤ daysInMonth self.date.year self.date.month := by
      rw [daysInMonth, if_pos hclamp.1]
      split
      · decide
      · decide
    let day28 : CalendarDate :=
      ⟨{ self.date with day := 28 }, ⟨self.valid.month, hlast⟩, self.supported⟩
    have hday : self.replaceDay 28 = some day28 := dif_pos hlast
    have hkept := map_replaceYear day28 year
    rw [Time.Date.replaceYear_of_supported h, if_neg (by simp [day28])] at hkept
    obtain ⟨date, hdate, heq⟩ := Option.map_eq_some_iff.1 hkept
    refine ⟨date, ?_, ?_⟩
    · rw [replaceYearClamped, replaceYear_eq_none_iff.2 hreplace, hday]
      exact hdate
    · rw [heq, Time.Date.inYear, Time.Date.inYear, if_neg (by simp [day28]), if_pos hclamp]
      simp [day28, hclamp.1]
  · rw [if_neg hclamp, ← map_replaceYear] at hreplace
    obtain ⟨date, hdate, heq⟩ := Option.map_eq_some_iff.1 hreplace
    refine ⟨date, ?_, heq⟩
    rw [replaceYearClamped, hdate]

end CalendarDate

namespace DefaultRetention

/-- The date that a period leads to is not one of the supported years. -/
def OutOfRange (period : DefaultRetentionPeriod) (createdAt : OffsetDateTime) : Prop :=
  match period with
  | .days days => Time.inRange (createdAt.localTime + Time.days days) = false
  | .years years => 9999 < createdAt.year + years

/-- What is promised of the date. -/
structure Resolved (rule : DefaultRetention) (createdAt : OffsetDateTime)
    (retention : OffsetRetention) : Prop where
  mode : retention.mode = rule.mode
  offset : retention.retainUntil.offset = createdAt.offset
  later : createdAt.instant < retention.retainUntil.instant
  days : ∀ days : Nat, rule.period = .days days →
    retention.retainUntil.instant = createdAt.instant + days * (24 * 3600 * nanosPerSecond)
  years : ∀ years : Nat, rule.period = .years years →
    retention.retainUntil.date.date = createdAt.date.date.inYear (createdAt.year + years) ∧
      retention.retainUntil.timeOfDay = createdAt.timeOfDay

theorem seconds_days (days : Int) : Time.seconds (days * 86400) = Time.days days := by
  simp only [Time.seconds, Time.days, nanosPerDay, Int.mul_assoc]

theorem checkedForObjectAt_days {self : DefaultRetention} {days : Nat}
    (hperiod : self.period = .days days) (hword : days ≤ 4294967295)
    (createdAt : OffsetDateTime) :
    self.checkedForObjectAt createdAt =
      some (if h : Time.inRange (createdAt.localTime + Time.days days) = true then
        .ok ⟨self.mode, ⟨createdAt.localTime + Time.days days, createdAt.offset, h⟩⟩
      else .error .invalidObjectRetention) := by
  have hduration : durationDays days = some ((days : Int) * 86400) := by
    rw [durationDays, if_pos (by omega)]
  rw [checkedForObjectAt, hperiod]
  simp only [hduration, Option.bind_eq_bind, Option.bind_some, OffsetDateTime.checkedAdd,
    seconds_days]
  split
  · next retainUntil h =>
      split at h
      · next hrange =>
          obtain rfl := Option.some.inj h
          rw [dif_pos hrange]
          rfl
      · cases h
  · next h =>
      split at h
      · cases h
      · next hrange =>
          rw [dif_neg hrange]
          rfl

theorem checkedForObjectAt_years_error {self : DefaultRetention} {years : Nat}
    (hperiod : self.period = .years years) {createdAt : OffsetDateTime}
    (h : 9999 < createdAt.year + years) :
    self.checkedForObjectAt createdAt = some (.error .invalidObjectRetention) := by
  rw [checkedForObjectAt, hperiod]
  simp only
  split
  · rfl
  · rw [checkedAddI32]
    split
    · rfl
    · next year hyear =>
        split at hyear
        · obtain rfl := Option.some.inj hyear
          rw [CalendarDate.replaceYearClamped_eq_none (by omega)]
        · cases hyear

theorem checkedForObjectAt_years_ok {self : DefaultRetention} {years : Nat}
    (hperiod : self.period = .years years) {createdAt : OffsetDateTime}
    (h : createdAt.year + years ≤ 9999) :
    ∃ date : CalendarDate,
      date.date = createdAt.date.date.inYear (createdAt.year + years) ∧
      self.checkedForObjectAt createdAt = some (.ok ⟨self.mode, createdAt.replaceDate date⟩) := by
  have hfirst : -9999 ≤ createdAt.year := createdAt.date.supported.1
  have hsupported : -9999 ≤ createdAt.year + years ∧ createdAt.year + years ≤ 9999 := by omega
  obtain ⟨date, hdate, heq⟩ := createdAt.date.replaceYearClamped_eq_some hsupported
  refine ⟨date, heq, ?_⟩
  have hadd : checkedAddI32 createdAt.year years = some (createdAt.year + years) := by
    rw [checkedAddI32, if_pos (by omega)]
  rw [checkedForObjectAt, hperiod]
  simp only [hadd, hdate]
  rw [if_neg (by omega)]

theorem value_pos (self : DefaultRetention) : 0 < self.period.value := by
  have hvalid := self.valid
  cases hperiod : self.period with
  | days days => simpa [hperiod, DefaultRetentionPeriod.isValid] using hvalid
  | years years => simpa [hperiod, DefaultRetentionPeriod.isValid] using hvalid

theorem resolved_days {self : DefaultRetention} {days : Nat} (hperiod : self.period = .days days)
    (createdAt : OffsetDateTime)
    (hrange : Time.inRange (createdAt.localTime + Time.days days) = true) :
    self.Resolved createdAt
      ⟨self.mode, ⟨createdAt.localTime + Time.days days, createdAt.offset, hrange⟩⟩ := by
  have hinstant : createdAt.localTime + Time.days days - Time.seconds createdAt.offset =
      createdAt.instant + days * (24 * 3600 * nanosPerSecond) := by
    simp only [OffsetDateTime.instant, Time.days, nanosPerDay]
    ring
  have hpos : 0 < days := by simpa [hperiod] using self.value_pos
  have hduration : 0 < (days : Int) * (24 * 3600 * nanosPerSecond) :=
    Int.mul_pos (by omega) (by decide)
  refine ⟨rfl, rfl, ?_, ?_, ?_⟩
  · show createdAt.instant < createdAt.localTime + Time.days days - Time.seconds createdAt.offset
    rw [hinstant]
    exact Int.lt_add_of_pos_right _ hduration
  · intro days' hdays
    obtain rfl : days = days' := by simpa [hperiod] using hdays
    exact hinstant
  · intro years hyears
    rw [hperiod] at hyears
    simp at hyears

theorem resolved_years {self : DefaultRetention} {years : Nat}
    (hperiod : self.period = .years years) (createdAt : OffsetDateTime) {date : CalendarDate}
    (hdate : date.date = createdAt.date.date.inYear (createdAt.year + years)) :
    self.Resolved createdAt ⟨self.mode, createdAt.replaceDate date⟩ := by
  have hpos : 0 < years := by simpa [hperiod] using self.value_pos
  have hresult := createdAt.date_replaceDate date
  refine ⟨rfl, rfl, ?_, ?_, ?_⟩
  · have hoffset : createdAt.offset = (createdAt.replaceDate date).offset := rfl
    apply OffsetDateTime.instant_lt_of_before hoffset
    rw [hresult, hdate]
    apply Or.inl
    rw [Time.Date.monthIndex_inYear, OffsetDateTime.year]
    omega
  · intro days hdays
    rw [hperiod] at hdays
    cases hdays
  · intro years' hyears
    obtain rfl : years = years' := by simpa [hperiod] using hyears
    exact ⟨hresult.trans hdate, createdAt.timeOfDay_replaceDate date⟩

/-- What a call returns: a date of a supported year, or the error. -/
theorem checkedForObjectAt_spec {self : DefaultRetention} (hword : self.period.value ≤ 4294967295)
    (createdAt : OffsetDateTime) :
    (OutOfRange self.period createdAt ∧
        self.checkedForObjectAt createdAt = some (.error .invalidObjectRetention)) ∨
      ∃ retention, ¬ OutOfRange self.period createdAt ∧ self.Resolved createdAt retention ∧
        self.checkedForObjectAt createdAt = some (.ok retention) := by
  cases hperiod : self.period with
  | days days =>
      rw [hperiod] at hword
      have hrun := checkedForObjectAt_days hperiod hword createdAt
      by_cases hrange : Time.inRange (createdAt.localTime + Time.days days) = true
      · rw [dif_pos hrange] at hrun
        exact Or.inr ⟨_, by simp [OutOfRange, hrange], resolved_days hperiod createdAt hrange, hrun⟩
      · rw [dif_neg hrange] at hrun
        exact Or.inl ⟨by simpa [OutOfRange] using hrange, hrun⟩
  | years years =>
      by_cases hrange : 9999 < createdAt.year + years
      · exact Or.inl ⟨hrange, checkedForObjectAt_years_error hperiod hrange⟩
      · obtain ⟨date, hdate, hrun⟩ := checkedForObjectAt_years_ok hperiod (Int.not_lt.1 hrange)
        exact Or.inr ⟨_, hrange, resolved_years hperiod createdAt hdate, hrun⟩

theorem resolved_of_ok {self : DefaultRetention} (hword : self.period.value ≤ 4294967295)
    {createdAt : OffsetDateTime} {retention : OffsetRetention}
    (h : self.checkedForObjectAt createdAt = some (.ok retention)) :
    self.Resolved createdAt retention := by
  rcases checkedForObjectAt_spec hword createdAt with ⟨_, hrun⟩ | ⟨_, _, hresolved, hrun⟩
  · rw [hrun] at h
    cases h
  · rw [hrun] at h
    obtain rfl : _ = retention := Except.ok.inj (Option.some.inj h)
    exact hresolved

end DefaultRetention

namespace Time.Date

/-- 28 and 29 February of one year fall on one day of a common year. -/
def Merged (left right : Date) (year : Int) : Prop :=
  left.year = right.year ∧ left.month = 2 ∧ right.month = 2 ∧ left.day = 28 ∧ right.day = 29 ∧
    isLeapYear year = false

/-- A move by whole years keeps the order of dates, but for the two days that it merges. -/
theorem inYear_before {left right : Date} (hleft : left.Valid) (hright : right.Valid) (years : Int)
    (h : left.Before right) :
    (left.inYear (left.year + years)).Before (right.inYear (right.year + years)) ∨
      left.inYear (left.year + years) = right.inYear (right.year + years) ∧
        left.Merged right (right.year + years) := by
  rcases h with hindex | ⟨hindex, hday⟩
  · apply Or.inl
    apply Or.inl
    rw [monthIndex_inYear, monthIndex_inYear]
    omega
  · have hmonth := hleft.month
    have hmonth' := hright.month
    have hlast := hright.day.2
    obtain ⟨year, month, day⟩ := left
    obtain ⟨year', month', day'⟩ := right
    simp only [monthIndex] at hindex hmonth hmonth' hday hlast
    obtain rfl : year = year' := by omega
    obtain rfl : month = month' := by omega
    by_cases hfebruary : month = 2 ∧ isLeapYear (year + years) = false
    · obtain ⟨rfl, hcommon⟩ := hfebruary
      have hlast : day' ≤ 29 := by
        rw [daysInMonth, if_pos rfl] at hlast
        split at hlast
        · exact hlast
        · omega
      have hleftDay : day ≠ 29 := by omega
      by_cases hclamp : day' = 29
      · subst hclamp
        by_cases hmerged : day = 28
        · subst hmerged
          apply Or.inr
          simp [inYear, Merged, hcommon]
        · apply Or.inl
          apply Or.inr
          simp only [inYear, monthIndex, hcommon, hleftDay, and_true, and_false, if_false,
            if_true, true_and]
          omega
      · apply Or.inl
        apply Or.inr
        simp only [inYear, monthIndex, hleftDay, hclamp, false_and, and_false, if_false,
          true_and]
        exact hday
    · have hkept : ∀ day : Int, ¬ (month = 2 ∧ day = 29 ∧ isLeapYear (year + years) = false) :=
        fun day h => hfebruary ⟨h.1, h.2.2⟩
      apply Or.inl
      apply Or.inr
      rw [inYear, inYear, if_neg (hkept day), if_neg (hkept day')]
      exact ⟨rfl, hday⟩

theorem inYear_eq_of_merged {left right : Date} {year : Int} (h : left.Merged right year) :
    left.inYear year = right.inYear year := by
  obtain ⟨_, hmonth, hmonth', hday, hday', hcommon⟩ := h
  simp [inYear, hmonth, hmonth', hday, hday', hcommon]

theorem not_merged_self (date : Date) (year : Int) : ¬ date.Merged date year := by
  rintro ⟨_, _, _, hday, hday', _⟩
  omega

end Time.Date

namespace DefaultRetention

/-- The order of two periods of one kind. -/
def PeriodLE : DefaultRetentionPeriod → DefaultRetentionPeriod → Prop
  | .days left, .days right => left ≤ right
  | .years left, .years right => left ≤ right
  | _, _ => False

theorem Resolved.instant_le_of_periodLE {self other : DefaultRetention}
    {createdAt : OffsetDateTime} {retention retention' : OffsetRetention}
    (h : self.Resolved createdAt retention) (h' : other.Resolved createdAt retention')
    (hle : PeriodLE self.period other.period) :
    retention.retainUntil.instant ≤ retention'.retainUntil.instant := by
  cases hperiod : self.period with
  | days days =>
      cases hperiod' : other.period with
      | days days' =>
          rw [hperiod, hperiod'] at hle
          have hduration : (days : Int) * (24 * 3600 * nanosPerSecond) ≤
              days' * (24 * 3600 * nanosPerSecond) :=
            Int.mul_le_mul_of_nonneg_right (Int.ofNat_le.2 hle) (by decide)
          rw [h.days days hperiod, h'.days days' hperiod']
          exact Int.add_le_add_left hduration _
      | years years' => simp [hperiod, hperiod', PeriodLE] at hle
  | years years =>
      cases hperiod' : other.period with
      | days days' => simp [hperiod, hperiod', PeriodLE] at hle
      | years years' =>
          rw [hperiod, hperiod'] at hle
          obtain ⟨hdate, htime⟩ := h.years years hperiod
          obtain ⟨hdate', htime'⟩ := h'.years years' hperiod'
          rw [OffsetDateTime.instant_le_iff (h.offset.trans h'.offset.symm),
            OffsetDateTime.localTime_le_iff, hdate, hdate', htime, htime']
          rcases Nat.lt_or_eq_of_le hle with hlt | rfl
          · apply Or.inl
            apply Or.inl
            rw [Time.Date.monthIndex_inYear, Time.Date.monthIndex_inYear]
            omega
          · exact Or.inr ⟨rfl, Int.le_refl _⟩

theorem Resolved.instant_le_of_days {self : DefaultRetention} {days : Nat}
    (hperiod : self.period = .days days) {createdAt later : OffsetDateTime}
    {retention retention' : OffsetRetention} (h : self.Resolved createdAt retention)
    (h' : self.Resolved later retention') (hle : createdAt.instant ≤ later.instant) :
    retention.retainUntil.instant ≤ retention'.retainUntil.instant := by
  rw [h.days days hperiod, h'.days days hperiod]
  exact Int.add_le_add_right hle _

/-- The dates some years later are in order, unless they are one day and the times of day are
not. -/
theorem Resolved.instant_le_iff_of_years {self : DefaultRetention} {years : Nat}
    (hperiod : self.period = .years years) {createdAt later : OffsetDateTime}
    (hoffset : createdAt.offset = later.offset)
    {retention retention' : OffsetRetention} (h : self.Resolved createdAt retention)
    (h' : self.Resolved later retention') (hle : createdAt.instant ≤ later.instant) :
    retention.retainUntil.instant ≤ retention'.retainUntil.instant ↔
      ¬ (createdAt.date.date.Merged later.date.date (later.year + years) ∧
        later.timeOfDay < createdAt.timeOfDay) := by
  obtain ⟨hdate, htime⟩ := h.years years hperiod
  obtain ⟨hdate', htime'⟩ := h'.years years hperiod
  have hsame : retention.retainUntil.offset = retention'.retainUntil.offset := by
    rw [h.offset, h'.offset, hoffset]
  rw [OffsetDateTime.instant_le_iff hoffset, OffsetDateTime.localTime_le_iff] at hle
  rw [OffsetDateTime.instant_le_iff hsame, OffsetDateTime.localTime_le_iff, hdate, hdate', htime,
    htime']
  simp only [OffsetDateTime.year]
  rcases hle with hbefore | ⟨heq, hlater⟩
  · rcases Time.Date.inYear_before createdAt.date.valid later.date.valid years hbefore with
      hafter | ⟨hmerge, hmerged⟩
    · have hapart : ¬ createdAt.date.date.Merged later.date.date
          (later.date.date.year + years) := by
        intro hmerged
        rw [hmerged.1, Time.Date.inYear_eq_of_merged hmerged] at hafter
        exact Time.Date.not_before_self _ hafter
      simp [hafter, hapart]
    · rw [hmerge]
      simp [Time.Date.not_before_self, hmerged]
  · simp only [heq, Time.Date.not_before_self, Time.Date.not_merged_self,
      false_or, true_and, false_and, not_false_eq_true, iff_true]
    exact hlater

/-- The date of a default retention: a call never panics; it fails when the date lies past the
supported years and otherwise keeps its promises. A longer period of the same kind keeps longer. A
later creation keeps longer for a period of days, and among creations of one offset for a period of
years, unless 28 and 29 February lead to one day and the times of day are out of order. -/
theorem forObjectAt_dates {mode : RetentionMode} {period : DefaultRetentionPeriod}
    {self : DefaultRetention} (hword : period.value ≤ 4294967295)
    (hnew : DefaultRetention.new mode period = .ok self) (createdAt : OffsetDateTime) :
    ((OutOfRange period createdAt ∧
        self.checkedForObjectAt createdAt = some (.error .invalidObjectRetention)) ∨
      ∃ retention, ¬ OutOfRange period createdAt ∧ self.Resolved createdAt retention ∧
        self.checkedForObjectAt createdAt = some (.ok retention)) ∧
    (∀ (other : DefaultRetention) (retention retention' : OffsetRetention),
      other.period.value ≤ 4294967295 → PeriodLE period other.period →
      self.checkedForObjectAt createdAt = some (.ok retention) →
      other.checkedForObjectAt createdAt = some (.ok retention') →
      retention.retainUntil.instant ≤ retention'.retainUntil.instant) ∧
    (∀ (later : OffsetDateTime) (retention retention' : OffsetRetention),
      createdAt.instant ≤ later.instant →
      self.checkedForObjectAt createdAt = some (.ok retention) →
      self.checkedForObjectAt later = some (.ok retention') →
      (∀ days : Nat, period = .days days →
        retention.retainUntil.instant ≤ retention'.retainUntil.instant) ∧
      (∀ years : Nat, period = .years years → createdAt.offset = later.offset →
        (retention.retainUntil.instant ≤ retention'.retainUntil.instant ↔
          ¬ (createdAt.date.date.Merged later.date.date (later.year + years) ∧
            later.timeOfDay < createdAt.timeOfDay)))) := by
  obtain rfl : period = self.period := by
    rw [new] at hnew
    split at hnew
    · cases hnew
      rfl
    · cases hnew
  refine ⟨checkedForObjectAt_spec hword createdAt, ?_, ?_⟩
  · intro other retention retention' hword' hle hrun hrun'
    exact (resolved_of_ok hword hrun).instant_le_of_periodLE (resolved_of_ok hword' hrun') hle
  · intro later retention retention' hle hrun hrun'
    have hresolved := resolved_of_ok hword hrun
    have hresolved' := resolved_of_ok hword hrun'
    refine ⟨fun days hperiod => ?_, fun years hperiod hoffset => ?_⟩
    · exact hresolved.instant_le_of_days hperiod hresolved' hle
    · exact hresolved.instant_le_iff_of_years hperiod hoffset hresolved' hle

def oneYear : DefaultRetention := ⟨.governance, .years 1, rfl⟩

/-- 2024-02-28T23:00Z -/
def lateOn28th : OffsetDateTime := ⟨Time.seconds 1709161200, 0, by decide⟩

/-- 2024-02-29T01:00Z -/
def earlyOn29th : OffsetDateTime := ⟨Time.seconds 1709168400, 0, by decide⟩

/-- 2023-03-01T00:30+01:00 -/
def inParis : OffsetDateTime := ⟨Time.seconds 1677630600, 3600, by decide⟩

/-- 2023-02-28T23:40Z -/
def inLondon : OffsetDateTime := ⟨Time.seconds 1677627600, 0, by decide⟩

theorem forObjectAt_dates_oneYear :
    ∃ retention, ¬ OutOfRange (.years 1) lateOn28th ∧ oneYear.Resolved lateOn28th retention ∧
      oneYear.checkedForObjectAt lateOn28th = some (.ok retention) := by
  have hdates := @forObjectAt_dates .governance (.years 1) oneYear (by decide) rfl lateOn28th
  rcases hdates.1 with ⟨hrange, _⟩ | h
  · exact absurd hrange (by unfold OutOfRange; decide +kernel)
  · exact h

/-- A later creation may be kept for a shorter time. -/
theorem forObjectAt_not_monotone :
    (lateOn28th.instant < earlyOn29th.instant ∧
      ∃ retention retention', oneYear.checkedForObjectAt lateOn28th = some (.ok retention) ∧
        oneYear.checkedForObjectAt earlyOn29th = some (.ok retention') ∧
        retention'.retainUntil.instant < retention.retainUntil.instant) ∧
    (inParis.instant < inLondon.instant ∧
      ∃ retention retention', oneYear.checkedForObjectAt inParis = some (.ok retention) ∧
        oneYear.checkedForObjectAt inLondon = some (.ok retention') ∧
        retention'.retainUntil.instant < retention.retainUntil.instant) := by
  refine ⟨⟨by decide, ?_⟩, ⟨by decide, ?_⟩⟩
  · refine ⟨⟨.governance, ⟨Time.seconds 1740783600, 0, by decide⟩⟩,
      ⟨.governance, ⟨Time.seconds 1740704400, 0, by decide⟩⟩, ?_, ?_, by decide⟩
    · decide +kernel
    · decide +kernel
  · refine ⟨⟨.governance, ⟨Time.seconds 1709253000, 3600, by decide⟩⟩,
      ⟨.governance, ⟨Time.seconds 1709163600, 0, by decide⟩⟩, ?_, ?_, by decide⟩
    · decide +kernel
    · decide +kernel

end DefaultRetention

end MediaHub.Core
