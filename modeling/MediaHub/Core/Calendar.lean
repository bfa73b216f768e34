import Mathlib.Algebra.Order.Group.Int
import MediaHub.Core.Basic

namespace MediaHub.Core.Time

/-- Days before the first of March of a year, counted from the first of March of year zero. -/
def yearStart (year : Int) : Int := 365 * year + year / 4 - year / 100 + year / 400

/-- Days before a month, where months are counted from March of year zero. -/
def monthStart (index : Int) : Int :=
  yearStart (index / 12) + (153 * (index % 12) + 2) / 5

def daysInMonth (year month : Int) : Int :=
  if month = 2 then (if isLeapYear year then 29 else 28)
  else if month = 4 ∨ month = 6 ∨ month = 9 ∨ month = 11 then 30
  else 31

theorem yearStart_succ (year : Int) :
    yearStart (year + 1) = yearStart year + if isLeapYear (year + 1) then 366 else 365 := by
  simp only [yearStart, isLeapYear, Bool.and_eq_true, Bool.or_eq_true, decide_eq_true_eq]
  split
  · omega
  · omega

/-- The days before a month after February, counted from March. -/
theorem cumulative_succ {month : Int} (h : 3 ≤ month) (h' : month ≤ 12) :
    (153 * (month - 2) + 2) / 5 = (153 * (month - 3) + 2) / 5 +
      if month = 4 ∨ month = 6 ∨ month = 9 ∨ month = 11 then 30 else 31 := by
  have hmonth : month = 3 ∨ month = 4 ∨ month = 5 ∨ month = 6 ∨ month = 7 ∨ month = 8 ∨
      month = 9 ∨ month = 10 ∨ month = 11 ∨ month = 12 := by omega
  rcases hmonth with rfl | rfl | rfl | rfl | rfl | rfl | rfl | rfl | rfl | rfl
  all_goals decide

theorem daysInMonth_pos (year month : Int) : 0 < daysInMonth year month := by
  unfold daysInMonth
  split
  · split
    · decide
    · decide
  · split
    · decide
    · decide

namespace Date

/-- The number of a month, counted from March of year zero. -/
def monthIndex (date : Date) : Int := 12 * date.year + date.month - 3

structure Valid (date : Date) : Prop where
  month : 1 ≤ date.month ∧ date.month ≤ 12
  day : 1 ≤ date.day ∧ date.day ≤ daysInMonth date.year date.month

theorem toDays_eq {date : Date} (h : 1 ≤ date.month ∧ date.month ≤ 12) :
    date.toDays = monthStart date.monthIndex + date.day - 1 - 719468 := by
  obtain ⟨year, month, day⟩ := date
  simp only at h
  simp only [toDays, monthStart, yearStart, monthIndex]
  split
  · have hyear : (12 * year + month - 3) / 12 = year - 1 := by omega
    have hmonth : (12 * year + month - 3) % 12 = month + 9 := by omega
    rw [hyear, hmonth]
    omega
  · have hyear : (12 * year + month - 3) / 12 = year := by omega
    have hmonth : (12 * year + month - 3) % 12 = month - 3 := by omega
    rw [hyear, hmonth]
    omega

theorem monthStart_succ {date : Date} (h : 1 ≤ date.month ∧ date.month ≤ 12) :
    monthStart (date.monthIndex + 1) =
      monthStart date.monthIndex + daysInMonth date.year date.month := by
  obtain ⟨year, month, day⟩ := date
  simp only at h
  simp only [monthStart, monthIndex, daysInMonth]
  by_cases hfebruary : month = 2
  · subst hfebruary
    have hyear : (12 * year + 2 - 3 + 1) / 12 = year - 1 + 1 := by omega
    have hmonth : (12 * year + 2 - 3 + 1) % 12 = 0 := by omega
    have hyear' : (12 * year + 2 - 3) / 12 = year - 1 := by omega
    have hmonth' : (12 * year + 2 - 3) % 12 = 11 := by omega
    rw [hyear, hmonth, hyear', hmonth', yearStart_succ, Int.sub_add_cancel]
    split
    · simp
      omega
    · simp
      omega
  · rw [if_neg hfebruary]
    by_cases hjanuary : month = 1
    · subst hjanuary
      have hyear : (12 * year + 1 - 3 + 1) / 12 = (12 * year + 1 - 3) / 12 := by omega
      rw [hyear]
      split
      · omega
      · omega
    · have hyear : (12 * year + month - 3 + 1) / 12 = (12 * year + month - 3) / 12 := by omega
      have hmonth : (12 * year + month - 3 + 1) % 12 = month - 2 := by omega
      have hmonth' : (12 * year + month - 3) % 12 = month - 3 := by omega
      rw [hyear, hmonth, hmonth', cumulative_succ (by omega) h.2, Int.add_assoc]

theorem monthStart_le {first second : Int} (h : first ≤ second) :
    monthStart first ≤ monthStart second := by
  apply monotone_int_of_le_succ (f := monthStart) _ h
  intro index
  let first : Date := ⟨(index + 2) / 12, (index + 2) % 12 + 1, 1⟩
  have hmonth : 1 ≤ first.month ∧ first.month ≤ 12 := by
    simp only [first]
    omega
  have hindex : first.monthIndex = index := by
    simp only [monthIndex, first]
    omega
  have hsucc := monthStart_succ hmonth
  have hpos := daysInMonth_pos first.year first.month
  rw [hindex] at hsucc
  omega

/-- An earlier month, or an earlier day of the same month. -/
def Before (left right : Date) : Prop :=
  left.monthIndex < right.monthIndex ∨
    left.monthIndex = right.monthIndex ∧ left.day < right.day

theorem not_before_self (date : Date) : ¬ date.Before date := by
  simp [Before]

theorem not_before_of_before {left right : Date} (h : left.Before right) :
    ¬ right.Before left := by
  simp only [Before] at *
  omega

theorem toDays_lt_monthStart {date : Date} (h : date.Valid) :
    date.toDays < monthStart (date.monthIndex + 1) - 719468 := by
  have hday := h.day
  rw [toDays_eq h.month, monthStart_succ h.month]
  omega

theorem toDays_lt_of_before {left right : Date} (hleft : left.Valid) (hright : right.Valid)
    (h : left.Before right) : left.toDays < right.toDays := by
  have hday := hright.day
  rcases h with h | ⟨hindex, h⟩
  · have hstart : monthStart (left.monthIndex + 1) ≤ monthStart right.monthIndex :=
      monthStart_le h
    have hend := toDays_lt_monthStart hleft
    rw [toDays_eq hright.month]
    omega
  · rw [toDays_eq hleft.month, toDays_eq hright.month, hindex]
    omega

theorem before_trichotomy {left right : Date} (hleft : left.Valid) (hright : right.Valid) :
    left.Before right ∨ left = right ∨ right.Before left := by
  have hmonth := hleft.month
  have hmonth' := hright.month
  obtain ⟨year, month, day⟩ := left
  obtain ⟨year', month', day'⟩ := right
  simp only [Before, monthIndex, Date.mk.injEq] at *
  omega

theorem toDays_lt_iff {left right : Date} (hleft : left.Valid) (hright : right.Valid) :
    left.toDays < right.toDays ↔ left.Before right := by
  refine ⟨fun h => ?_, toDays_lt_of_before hleft hright⟩
  rcases before_trichotomy hleft hright with hbefore | rfl | hafter
  · exact hbefore
  · omega
  · have hlt := toDays_lt_of_before hright hleft hafter
    omega

theorem toDays_inj {left right : Date} (hleft : left.Valid) (hright : right.Valid)
    (h : left.toDays = right.toDays) : left = right := by
  rcases before_trichotomy hleft hright with hbefore | heq | hafter
  · have hlt := toDays_lt_of_before hleft hright hbefore
    omega
  · exact heq
  · have hlt := toDays_lt_of_before hright hleft hafter
    omega

end Date

/-- The days of an era without its leap days. -/
def commonDays (day : Int) : Int := day - day / 1460 + day / 36524 - day / 146096

theorem commonDays_le {first second : Int} (h : first ≤ second) :
    commonDays first ≤ commonDays second := by
  apply monotone_int_of_le_succ (f := commonDays) _ h
  intro day
  simp only [commonDays]
  omega

/-- The first and the last day of each year of an era. -/
theorem commonDays_years : ∀ year : Nat, year < 400 →
    365 * (year : Int) ≤ commonDays (yearStart year) ∧
      commonDays (yearStart (year + 1) - 1) < 365 * ((year : Int) + 1) := by
  decide +kernel

theorem yearStart_le_iff {day year : Int} (hday : 0 ≤ day) (hlast : day < 146097)
    (hyear : 0 ≤ year) (hyear' : year ≤ 400) :
    yearStart year ≤ day ↔ year ≤ commonDays day / 365 := by
  rw [Int.le_ediv_iff_mul_le (by decide), Int.mul_comm]
  constructor
  · intro h
    have hlt : year < 400 := by
      by_contra hge
      obtain rfl : year = 400 := by omega
      exact absurd h (Int.not_le.2 hlast)
    have hfirst := (commonDays_years year.toNat (by omega)).1
    rw [Int.toNat_of_nonneg hyear] at hfirst
    exact Int.le_trans hfirst (commonDays_le h)
  · intro h
    by_contra hlt
    have hpos : 0 < year := by
      by_contra hle
      obtain rfl : year = 0 := by omega
      exact hlt hday
    have hbefore := (commonDays_years (year - 1).toNat (by omega)).2
    rw [Int.toNat_of_nonneg (by omega), Int.sub_add_cancel] at hbefore
    have hmono := commonDays_le (show day ≤ yearStart year - 1 by omega)
    omega

/-- The year that a day of an era lies in. -/
theorem yearOfEra_spec {day : Int} (hday : 0 ≤ day) (hlast : day < 146097) :
    let year := commonDays day / 365
    0 ≤ year ∧ year < 400 ∧ yearStart year ≤ day ∧ day < yearStart (year + 1) := by
  intro year
  have hnonneg : 0 ≤ year := (yearStart_le_iff hday hlast (by decide) (by decide)).1 hday
  have hlt : year < 400 := by
    by_contra hge
    have hend := (yearStart_le_iff hday hlast (by decide) (by decide)).2 (Int.not_lt.1 hge)
    exact absurd hend (Int.not_le.2 hlast)
  refine ⟨hnonneg, hlt, (yearStart_le_iff hday hlast hnonneg (by omega)).2 (Int.le_refl _), ?_⟩
  by_contra hge
  have hnext := (yearStart_le_iff hday hlast (by omega) (by omega)).1 (Int.not_lt.1 hge)
  omega

theorem yearStart_add_eras (year eras : Int) :
    yearStart (year + eras * 400) = yearStart year + eras * 146097 := by
  simp only [yearStart]
  omega

namespace Date

theorem yearStart_succ_le (year : Int) : yearStart (year + 1) ≤ yearStart year + 366 := by
  rw [yearStart_succ]
  split
  · omega
  · omega

/-- The day is looked up in its year, which starts in March. -/
theorem ofDays_spec (n : Int) :
    ∃ year dayOfYear shifted : Int,
      0 ≤ dayOfYear ∧ yearStart year + dayOfYear = n + 719468 ∧
      n + 719468 < yearStart (year + 1) ∧ shifted = (5 * dayOfYear + 2) / 153 ∧
      (ofDays n).month = (if shifted < 10 then shifted + 3 else shifted - 9) ∧
      (ofDays n).monthIndex = 12 * year + shifted ∧
      (ofDays n).day = dayOfYear - (153 * shifted + 2) / 5 + 1 := by
  have hday : 0 ≤ (n + 719468) % 146097 := Int.emod_nonneg _ (by decide)
  have hlast : (n + 719468) % 146097 < 146097 := Int.emod_lt_of_pos _ (by decide)
  obtain ⟨hyear, hyear', hfirst, hnext⟩ := yearOfEra_spec hday hlast
  have hera : (n + 719468) % 146097 = n + 719468 - (n + 719468) / 146097 * 146097 := by omega
  have hofDays : ofDays n =
      let dayOfEra := (n + 719468) % 146097
      let yearOfEra := commonDays dayOfEra / 365
      let dayOfYear := dayOfEra - (365 * yearOfEra + yearOfEra / 4 - yearOfEra / 100)
      let shifted := (5 * dayOfYear + 2) / 153
      let month := if shifted < 10 then shifted + 3 else shifted - 9
      let year := yearOfEra + (n + 719468) / 146097 * 400
      ⟨if month ≤ 2 then year + 1 else year, month, dayOfYear - (153 * shifted + 2) / 5 + 1⟩ := by
    rw [hera]
    rfl
  generalize (n + 719468) % 146097 = dayOfEra at *
  generalize (n + 719468) / 146097 = era at *
  simp only at hofDays
  generalize commonDays dayOfEra / 365 = yearOfEra at *
  have hstart : 365 * yearOfEra + yearOfEra / 4 - yearOfEra / 100 = yearStart yearOfEra := by
    simp only [yearStart]
    omega
  rw [hstart] at hofDays
  have heras := yearStart_add_eras yearOfEra era
  have heras' : yearStart (yearOfEra + era * 400 + 1) =
      yearStart (yearOfEra + 1) + era * 146097 := by
    rw [← yearStart_add_eras]
    congr 1
    omega
  have hlength := yearStart_succ_le (yearOfEra + era * 400)
  refine ⟨yearOfEra + era * 400, dayOfEra - yearStart yearOfEra,
    (5 * (dayOfEra - yearStart yearOfEra) + 2) / 153, by omega, by omega, by omega, rfl, ?_, ?_, ?_⟩
  · rw [hofDays]
  · rw [hofDays, monthIndex]
    simp only
    split
    · split
      · omega
      · omega
    · split
      · omega
      · omega
  · rw [hofDays]

theorem valid_ofDays (n : Int) : (ofDays n).Valid := by
  obtain ⟨year, dayOfYear, shifted, hnonneg, hstart, hnext, hshifted, hmonth, hindex, hday⟩ :=
    ofDays_spec n
  have hlength := yearStart_succ_le year
  have hrange : 1 ≤ (ofDays n).month ∧ (ofDays n).month ≤ 12 := by
    rw [hmonth]
    split
    · omega
    · omega
  have hlast : yearStart year + dayOfYear < monthStart ((ofDays n).monthIndex + 1) := by
    rw [hindex, monthStart]
    by_cases hfebruary : shifted = 11
    · have hyear : (12 * year + shifted + 1) / 12 = year + 1 := by omega
      have hzero : (12 * year + shifted + 1) % 12 = 0 := by omega
      rw [hyear, hzero]
      omega
    · have hyear : (12 * year + shifted + 1) / 12 = year := by omega
      have hsucc : (12 * year + shifted + 1) % 12 = shifted + 1 := by omega
      rw [hyear, hsucc]
      omega
  have hfirst : monthStart (ofDays n).monthIndex = yearStart year + (153 * shifted + 2) / 5 := by
    have hyear : (12 * year + shifted) / 12 = year := by omega
    have hmod : (12 * year + shifted) % 12 = shifted := by omega
    rw [hindex, monthStart, hyear, hmod]
  refine ⟨hrange, ?_, ?_⟩
  · rw [hday]
    omega
  · rw [monthStart_succ hrange, hfirst] at hlast
    rw [hday]
    omega

theorem toDays_ofDays (n : Int) : (ofDays n).toDays = n := by
  obtain ⟨year, dayOfYear, shifted, hnonneg, hstart, hnext, hshifted, hmonth, hindex, hday⟩ :=
    ofDays_spec n
  have hlength := yearStart_succ_le year
  have hyear : (12 * year + shifted) / 12 = year := by omega
  have hmod : (12 * year + shifted) % 12 = shifted := by omega
  rw [toDays_eq (valid_ofDays n).month, hindex, monthStart, hyear, hmod, hday]
  omega

theorem ofDays_toDays {date : Date} (h : date.Valid) : ofDays date.toDays = date :=
  toDays_inj (valid_ofDays _) h (toDays_ofDays _)

theorem ofDays_inj {m n : Int} : ofDays m = ofDays n ↔ m = n := by
  constructor
  · intro h
    rw [← toDays_ofDays m, h, toDays_ofDays]
  · rintro rfl
    rfl

/-- Later days have later dates. -/
theorem ofDays_before_iff {m n : Int} : (ofDays m).Before (ofDays n) ↔ m < n := by
  rw [← toDays_lt_iff (valid_ofDays m) (valid_ofDays n), toDays_ofDays, toDays_ofDays]

end Date

namespace Date

/-- The date in another year, with 29 February on the 28th where there is none. -/
def inYear (date : Date) (year : Int) : Date :=
  if date.month = 2 ∧ date.day = 29 ∧ isLeapYear year = false then ⟨year, 2, 28⟩
  else { date with year := year }

theorem inYear_year (date : Date) (year : Int) : (date.inYear year).year = year := by
  rw [inYear]
  split
  · rfl
  · rfl

theorem inYear_month (date : Date) (year : Int) : (date.inYear year).month = date.month := by
  rw [inYear]
  split
  · next h => exact h.1.symm
  · rfl

theorem monthIndex_inYear (date : Date) (year : Int) :
    (date.inYear year).monthIndex = date.monthIndex + 12 * (year - date.year) := by
  rw [monthIndex, monthIndex, inYear_year, inYear_month]
  omega

theorem replaceYear_of_supported {date : Date} {year : Int} (h : -9999 ≤ year ∧ year ≤ 9999) :
    date.replaceYear year =
      if date.month = 2 ∧ date.day = 29 ∧ isLeapYear year = false then none
      else some (date.inYear year) := by
  rw [replaceYear, if_neg (by simp [h]), inYear]
  by_cases hclamp : date.month = 2 ∧ date.day = 29 ∧ isLeapYear year = false
  · rw [if_pos hclamp, if_pos (by simp [hclamp])]
  · rw [if_neg hclamp, if_neg hclamp, if_neg (by simpa [and_assoc] using hclamp)]

theorem replaceYear_of_not_supported {date : Date} {year : Int}
    (h : ¬ (-9999 ≤ year ∧ year ≤ 9999)) : date.replaceYear year = none := by
  have hyear : (decide (year < -9999) || decide (9999 < year)) = true := by
    simp only [Bool.or_eq_true, decide_eq_true_eq]
    omega
  rw [replaceYear, if_pos hyear]

theorem valid_inYear {date : Date} (h : date.Valid) (year : Int) : (date.inYear year).Valid := by
  have hday := h.day
  rw [inYear]
  split
  · next hclamp =>
      refine ⟨⟨by simp, by simp⟩, by simp, ?_⟩
      simp [daysInMonth, hclamp.2.2]
  · next hclamp =>
      refine ⟨h.month, hday.1, ?_⟩
      by_cases hmonth : date.month = 2
      · have hleap : ¬ (date.day = 29 ∧ isLeapYear year = false) :=
          fun hday => hclamp ⟨hmonth, hday⟩
        have hlast : date.day ≤ 29 := by
          have hlength := hday.2
          rw [daysInMonth, if_pos hmonth] at hlength
          split at hlength
          · exact hlength
          · omega
        rw [daysInMonth, if_pos hmonth]
        split
        · exact hlast
        · next hcommon =>
            have hne : date.day ≠ 29 := fun hday => hleap ⟨hday, eq_false_of_ne_true hcommon⟩
            show date.day ≤ 28
            omega
      · have hlength := hday.2
        rw [daysInMonth, if_neg hmonth] at hlength ⊢
        exact hlength

end Date

end MediaHub.Core.Time
