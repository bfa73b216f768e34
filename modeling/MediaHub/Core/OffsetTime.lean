import MediaHub.Core.Calendar

namespace MediaHub.Core

open Time (nanosPerSecond nanosPerDay daysInMonth)

theorem Time.nanosPerDay_pos : 0 < nanosPerDay := by decide

/-- `time::Date`: a date of the calendar in the supported years. -/
structure CalendarDate where
  date : Time.Date
  valid : date.Valid
  supported : -9999 ≤ date.year ∧ date.year ≤ 9999

namespace CalendarDate

theorem valid_of_replaceYear {date replaced : Time.Date} {year : Int} (hdate : date.Valid)
    (h : date.replaceYear year = some replaced) :
    replaced.Valid ∧ -9999 ≤ replaced.year ∧ replaced.year ≤ 9999 := by
  by_cases hyear : -9999 ≤ year ∧ year ≤ 9999
  · rw [Time.Date.replaceYear_of_supported hyear] at h
    split at h
    · exact nomatch h
    · obtain rfl := Option.some.inj h
      rw [Time.Date.inYear_year]
      exact ⟨Time.Date.valid_inYear hdate year, hyear⟩
  · rw [Time.Date.replaceYear_of_not_supported hyear] at h
    exact nomatch h

/-- `Date::replace_year` -/
def replaceYear (self : CalendarDate) (year : Int) : Option CalendarDate :=
  match h : self.date.replaceYear year with
  | some replaced =>
      some ⟨replaced, (valid_of_replaceYear self.valid h).1, (valid_of_replaceYear self.valid h).2⟩
  | none => none

theorem map_replaceYear (self : CalendarDate) (year : Int) :
    (self.replaceYear year).map date = self.date.replaceYear year := by
  rw [replaceYear]
  split
  · next replaced h => exact h.symm
  · next h => exact h.symm

/-- `Date::replace_day` -/
def replaceDay (self : CalendarDate) (day : Int) : Option CalendarDate :=
  if h : 1 ≤ day ∧ day ≤ daysInMonth self.date.year self.date.month then
    some ⟨{ self.date with day := day }, ⟨self.valid.month, h⟩, self.supported⟩
  else none

end CalendarDate

namespace Time

theorem inRange_iff (t : Time) :
    inRange t = true ↔ -4371587 ≤ t / nanosPerDay ∧ t / nanosPerDay < 2932897 := by
  have hdays : ∀ n : Int, -377705116800000000000 ≤ n ∧ n < 253402300800000000000 ↔
      -4371587 ≤ n / 86400000000000 ∧ n / 86400000000000 < 2932897 := by
    intro n
    omega
  rw [inRange, Bool.and_eq_true, decide_eq_true_eq, decide_eq_true_eq]
  exact hdays t

theorem Date.valid_year_start (year : Int) : (⟨year, 1, 1⟩ : Date).Valid :=
  ⟨⟨Int.le_refl 1, by simp⟩, ⟨Int.le_refl 1, by simp [daysInMonth]⟩⟩

theorem Date.toDays_year_start (year : Int) {date : Date} (h : date.Valid) :
    (⟨year, 1, 1⟩ : Date).toDays ≤ date.toDays ↔ year ≤ date.year := by
  have hmonth := h.month
  have hday := h.day
  rw [← Int.not_lt, toDays_lt_iff h (valid_year_start year), ← Int.not_lt, not_iff_not]
  obtain ⟨year', month, day⟩ := date
  simp only [Before, monthIndex] at *
  omega

/-- The days of the supported years. -/
theorem Date.supported_iff {date : Date} (h : date.Valid) :
    (-9999 ≤ date.year ∧ date.year ≤ 9999) ↔
      -4371587 ≤ date.toDays ∧ date.toDays < 2932897 := by
  have hfirst := toDays_year_start (-9999) h
  have hend := toDays_year_start 10000 h
  have hfirstDay : (⟨-9999, 1, 1⟩ : Date).toDays = -4371587 := by decide
  have hendDay : (⟨10000, 1, 1⟩ : Date).toDays = 2932897 := by decide
  rw [hfirstDay] at hfirst
  rw [hendDay] at hend
  omega

/-- The day of a time whose date was replaced. -/
theorem replaceDate_ediv (t : Time) (date : Date) :
    replaceDate t date / nanosPerDay = date.toDays := by
  have hrest : t % nanosPerDay / nanosPerDay = 0 :=
    Int.ediv_eq_zero_of_lt (Int.emod_nonneg _ (by decide))
      (Int.emod_lt_of_pos _ nanosPerDay_pos)
  rw [replaceDate, Int.add_comm, Int.add_mul_ediv_right _ _ (by decide), hrest, Int.zero_add]

theorem replaceDate_emod (t : Time) (date : Date) :
    replaceDate t date % nanosPerDay = t % nanosPerDay := by
  rw [replaceDate, Int.add_comm, Int.add_mul_emod_self_right, Int.emod_emod]

theorem date_replaceDate (t : Time) {date : Date} (h : date.Valid) :
    Time.date (replaceDate t date) = date := by
  rw [Time.date, replaceDate_ediv, Date.ofDays_toDays h]

end Time

/-- `time::OffsetDateTime`: the nanoseconds since the epoch that a clock shows, and the seconds by
which it is ahead of UTC. -/
structure OffsetDateTime where
  localTime : Time
  offset : Int
  inRange : Time.inRange localTime = true
deriving DecidableEq

namespace OffsetDateTime

/-- The moment, which is what comparisons look at. -/
def instant (self : OffsetDateTime) : Time := self.localTime - Time.seconds self.offset

def timeOfDay (self : OffsetDateTime) : Int := self.localTime % nanosPerDay

def date (self : OffsetDateTime) : CalendarDate where
  date := Time.date self.localTime
  valid := Time.Date.valid_ofDays _
  supported := by
    apply (Time.Date.supported_iff (Time.Date.valid_ofDays _)).2
    rw [Time.Date.toDays_ofDays]
    exact (Time.inRange_iff _).1 self.inRange

def year (self : OffsetDateTime) : Int := self.date.date.year

/-- `checked_add` of a duration in seconds. -/
def checkedAdd (self : OffsetDateTime) (duration : Int) : Option OffsetDateTime :=
  if h : Time.inRange (self.localTime + Time.seconds duration) = true then
    some ⟨self.localTime + Time.seconds duration, self.offset, h⟩
  else none

/-- `to_offset(UtcOffset::UTC)`, with no result where it panics. -/
def toUtc (self : OffsetDateTime) : Option OffsetDateTime :=
  if h : Time.inRange self.instant = true then some ⟨self.instant, 0, h⟩ else none

theorem isSome_toUtc (self : OffsetDateTime) :
    self.toUtc.isSome = true ↔ Time.inRange self.instant = true := by
  rw [toUtc]
  split
  · next h => simp [h]
  · next h => simp [h]

/-- So many seconds later it is no later than the year 9999. -/
def HasAfter (self : OffsetDateTime) (duration : Int) : Prop :=
  self.localTime + Time.seconds duration < Time.seconds 253402300800

instance (self : OffsetDateTime) (duration : Int) : Decidable (self.HasAfter duration) :=
  inferInstanceAs (Decidable (_ < _))

theorem isSome_checkedAdd (self : OffsetDateTime) {duration : Int} (h : 0 ≤ duration) :
    (self.checkedAdd duration).isSome = true ↔ self.HasAfter duration := by
  have hbounds : ∀ t : Int, -377705116800000000000 ≤ t → (-377705116800000000000 ≤
      t + duration * 1000000000 ∧ t + duration * 1000000000 < 253402300800000000000 ↔
      t + duration * 1000000000 < 253402300800000000000) := by
    intro t ht
    omega
  have hself := self.inRange
  rw [Time.inRange, Bool.and_eq_true, decide_eq_true_eq, decide_eq_true_eq] at hself
  have hrange : Time.inRange (self.localTime + Time.seconds duration) = true ↔
      self.HasAfter duration := by
    rw [Time.inRange, Bool.and_eq_true, decide_eq_true_eq, decide_eq_true_eq]
    exact hbounds self.localTime hself.1
  rw [checkedAdd, ← hrange]
  split
  · next h => simp [h]
  · next h => simp [h]

def replaceDate (self : OffsetDateTime) (date : CalendarDate) : OffsetDateTime where
  localTime := Time.replaceDate self.localTime date.date
  offset := self.offset
  inRange := by
    rw [Time.inRange_iff, Time.replaceDate_ediv]
    exact (Time.Date.supported_iff date.valid).1 date.supported

theorem date_replaceDate (self : OffsetDateTime) (date : CalendarDate) :
    (self.replaceDate date).date.date = date.date :=
  Time.date_replaceDate self.localTime date.valid

theorem timeOfDay_replaceDate (self : OffsetDateTime) (date : CalendarDate) :
    (self.replaceDate date).timeOfDay = self.timeOfDay :=
  Time.replaceDate_emod self.localTime date.date

/-- Clocks are compared by the date first. -/
theorem localTime_le_iff (left right : OffsetDateTime) :
    left.localTime ≤ right.localTime ↔
      left.date.date.Before right.date.date ∨
        left.date.date = right.date.date ∧ left.timeOfDay ≤ right.timeOfDay := by
  have hdays : ∀ m n : Int, m ≤ n ↔ m / 86400000000000 < n / 86400000000000 ∨
      m / 86400000000000 = n / 86400000000000 ∧ m % 86400000000000 ≤ n % 86400000000000 := by
    intro m n
    omega
  simp only [date, timeOfDay, Time.date, Time.Date.ofDays_before_iff, Time.Date.ofDays_inj]
  exact hdays left.localTime right.localTime

theorem instant_le_iff {left right : OffsetDateTime} (h : left.offset = right.offset) :
    left.instant ≤ right.instant ↔ left.localTime ≤ right.localTime := by
  rw [instant, instant, h]
  exact Int.sub_le_sub_right_iff

theorem instant_lt_of_before {left right : OffsetDateTime} (hoffset : left.offset = right.offset)
    (h : left.date.date.Before right.date.date) : left.instant < right.instant := by
  rw [← Int.not_le, instant_le_iff hoffset.symm, localTime_le_iff]
  rintro (hbefore | ⟨heq, _⟩)
  · exact Time.Date.not_before_of_before h hbefore
  · rw [heq] at h
    exact Time.Date.not_before_self _ h

end OffsetDateTime

end MediaHub.Core
