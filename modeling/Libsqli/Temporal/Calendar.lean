import Libsqli.Temporal.Date
import Mathlib.Tactic.IntervalCases
import Libsqli.Temporal.Codec

namespace Libsqli.Temporal

/-! Days of the proleptic Gregorian calendar, counted from 1 January of year
one. -/

variable {ordinal low high : Int}
variable {fuel year month day other otherDay later : Nat}

def yearDays (year : Nat) : Nat := if leapYear year then 366 else 365

/-- Days of a year that stand before the first of a month. -/
def daysBeforeMonth (year month : Nat) : Nat :=
  ((List.range' 1 (month - 1)).map fun month => monthDays month year).sum

@[simp] theorem daysBeforeMonth_one : daysBeforeMonth year 1 = 0 := rfl

theorem daysBeforeMonth_succ (hmonth : 1 ≤ month) :
    daysBeforeMonth year (month + 1) =
      daysBeforeMonth year month + monthDays month year := by
  obtain ⟨before, rfl⟩ := Nat.exists_eq_add_of_le hmonth
  rw [daysBeforeMonth, daysBeforeMonth,
    show 1 + before + 1 - 1 = before + 1 by omega,
    show 1 + before - 1 = before by omega, List.range'_concat]
  simp

theorem daysBeforeMonth_mono (hmonth : 1 ≤ month) (hle : month ≤ later) :
    daysBeforeMonth year month ≤ daysBeforeMonth year later := by
  induction later, hle using Nat.le_induction with
  | base => exact Nat.le_refl _
  | succ later hle ih =>
      rw [daysBeforeMonth_succ (hmonth.trans hle)]
      omega

theorem monthDays_le (month year : Nat) : monthDays month year ≤ 31 := by
  unfold monthDays
  split
  · omega
  · by_cases hmonth : month - 1 < 12
    · interval_cases month - 1 <;> decide
    · rw [List.getD_eq_getElem?_getD, List.getElem?_eq_none
        (by simp only [daysPerMonth, List.length_cons, List.length_nil]; omega)]
      exact Nat.zero_le _

/-- The months make up the year. -/
theorem daysBeforeMonth_year (hyear : 1 ≤ year) :
    daysBeforeMonth year 13 = yearDays year := by
  have hfebruary : monthDays 2 year = if leapYear year then 29 else 28 := by
    unfold monthDays
    have habsent : year ≠ 0 := by omega
    cases leapYear year <;> simp [daysPerMonth, habsent]
  have hmonths : daysBeforeMonth year 13 = 337 + monthDays 2 year := by
    simp [daysBeforeMonth, monthDays, daysPerMonth, List.range'_succ]
    omega
  rw [hmonths, hfebruary, yearDays]
  split <;> omega

theorem daysBeforeYear_eq (hyear : 1 ≤ year) :
    daysBeforeYear year = ((year - 1) * 365 + (year - 1) / 4 -
      (year - 1) / 100 + (year - 1) / 400 : Nat) := by
  obtain ⟨before, rfl⟩ := Nat.exists_eq_add_of_le hyear
  have hbefore : ((1 + before : Nat) : Int) - 1 = before := by omega
  rw [daysBeforeYear, hbefore, Int.tdiv_eq_ediv_of_nonneg (by omega),
    Int.tdiv_eq_ediv_of_nonneg (by omega),
    Int.tdiv_eq_ediv_of_nonneg (by omega), Nat.add_sub_cancel_left]
  omega

theorem yearDays_eq (year : Nat) :
    yearDays year + (if 100 ∣ year then 1 else 0) =
      365 + (if 4 ∣ year then 1 else 0) + (if 400 ∣ year then 1 else 0) := by
  unfold yearDays leapYear
  by_cases hfour : 4 ∣ year
  · by_cases hcentury : 100 ∣ year
    · by_cases hcycle : 400 ∣ year <;>
        simp [hfour, hcentury, hcycle, Nat.mod_eq_zero_of_dvd,
          Nat.dvd_iff_mod_eq_zero.symm]
    · have hcycle : ¬ 400 ∣ year := by omega
      simp [hfour, hcentury, hcycle, Nat.dvd_iff_mod_eq_zero.symm]
  · have hcentury : ¬ 100 ∣ year := by omega
    have hcycle : ¬ 400 ∣ year := by omega
    simp [hfour, hcentury, hcycle, Nat.dvd_iff_mod_eq_zero.symm]

/-- Years follow one another without a gap. -/
theorem daysBeforeYear_succ (hyear : 1 ≤ year) :
    daysBeforeYear ((year : Int) + 1) =
      daysBeforeYear year + yearDays year := by
  obtain ⟨before, rfl⟩ := Nat.exists_eq_add_of_le hyear
  rw [show ((1 + before : Nat) : Int) + 1 = ((1 + before + 1 : Nat) : Int) by
    omega, daysBeforeYear_eq hyear, daysBeforeYear_eq (by omega)]
  have hdays := yearDays_eq (1 + before)
  simp only [Nat.add_sub_cancel, Nat.add_sub_cancel_left]
  rw [Nat.add_comm 1 before] at hdays ⊢
  rw [@Nat.succ_div before 4, @Nat.succ_div before 100,
    @Nat.succ_div before 400]
  have hquarter : before / 100 ≤ before / 4 :=
    Nat.div_le_div_left (by omega) (by omega)
  split at hdays <;> split at hdays <;> split at hdays <;> simp_all <;> omega

theorem daysBeforeYear_mono (hyear : 1 ≤ year) (hle : year ≤ later) :
    daysBeforeYear year ≤ daysBeforeYear later := by
  induction later, hle using Nat.le_induction with
  | base => exact Int.le_refl _
  | succ later hle ih =>
      push_cast
      rw [daysBeforeYear_succ (hyear.trans hle)]
      omega

/-- The year that contains an ordinal day is unique. -/
theorem containingYear_unique (hfirst : 1 ≤ year) (hother : 1 ≤ other)
    (hlow : daysBeforeYear year ≤ ordinal)
    (hhigh : ordinal < daysBeforeYear ((year : Int) + 1))
    (hlowOther : daysBeforeYear other ≤ ordinal)
    (hhighOther : ordinal < daysBeforeYear ((other : Int) + 1)) :
    year = other := by
  rcases Nat.lt_trichotomy year other with hlt | heq | hgt
  · have hmono := @daysBeforeYear_mono (year + 1) other (by omega) hlt
    push_cast at hmono
    omega
  · exact heq
  · have hmono := @daysBeforeYear_mono (other + 1) year (by omega) hgt
    push_cast at hmono
    omega

/-! The binary search. -/

/-- A round keeps the ordinal between the two ends. -/
theorem searchYear_between (hends : low ≤ high)
    (hlow : daysBeforeYear low ≤ ordinal)
    (hhigh : ordinal < daysBeforeYear (high + 1))
    (hfuel : high - low ≤ fuel) :
    low ≤ searchYear ordinal fuel low high ∧
      searchYear ordinal fuel low high ≤ high ∧
      daysBeforeYear (searchYear ordinal fuel low high) ≤ ordinal ∧
      ordinal < daysBeforeYear (searchYear ordinal fuel low high + 1) := by
  induction fuel generalizing low high with
  | zero =>
      have hsame : high = low := by omega
      subst hsame
      exact ⟨hends, hends, hlow, hhigh⟩
  | succ fuel ih =>
      rw [searchYear]
      by_cases hlt : low < high
      · rw [if_pos hlt]
        split
        · rename_i hmiddle
          obtain ⟨hfirst, hrest⟩ := @ih (low + (high - low + 1) / 2) high
            (by omega) hmiddle hhigh (by omega)
          exact ⟨by omega, hrest⟩
        · rename_i hmiddle
          obtain ⟨hfirst, hlast, hrest⟩ := @ih low
            (low + (high - low + 1) / 2 - 1) (by omega) hlow
            (by rw [Int.sub_add_cancel]; omega) (by omega)
          exact ⟨hfirst, by omega, hrest⟩
      · have hsame : high = low := by omega
        subst hsame
        rw [if_neg hlt]
        exact ⟨hends, hends, hlow, hhigh⟩

/-- Rounds past the one that closes the gap change nothing. -/
theorem searchYear_ended (hfuel : high - low ≤ fuel) (extra : Nat) :
    searchYear ordinal (fuel + extra) low high =
      searchYear ordinal fuel low high := by
  induction fuel generalizing low high with
  | zero =>
      cases extra with
      | zero => rfl
      | succ extra =>
          rw [Nat.zero_add, searchYear, searchYear, if_neg (by omega)]
  | succ fuel ih =>
      rw [Nat.add_right_comm, searchYear, searchYear]
      split
      · split <;> exact ih (by omega)
      · rfl

/-! The walk over the months. -/

theorem lt_monthDays_december (hlast : ¬ month < 12) (hle : month ≤ 12)
    (hday : daysBeforeMonth year month + day < daysBeforeMonth year 13) :
    day < monthDays month year := by
  obtain rfl : month = 12 := by omega
  have hyear : daysBeforeMonth year 13 =
      daysBeforeMonth year 12 + monthDays 12 year :=
    daysBeforeMonth_succ (by omega)
  omega

theorem searchMonth_spec (hmonth : 1 ≤ month) (hlast : month ≤ 12)
    (hday : daysBeforeMonth year month + day < daysBeforeMonth year 13)
    (hfuel : 12 - month ≤ fuel) :
    month ≤ (searchMonth year fuel month day).1 ∧
      (searchMonth year fuel month day).1 ≤ 12 ∧
      (searchMonth year fuel month day).2 <
        monthDays (searchMonth year fuel month day).1 year ∧
      daysBeforeMonth year (searchMonth year fuel month day).1 +
        (searchMonth year fuel month day).2 =
          daysBeforeMonth year month + day := by
  induction fuel generalizing month day with
  | zero =>
      have hdecember : ¬ month < 12 := by omega
      exact ⟨Nat.le_refl _, hlast,
        lt_monthDays_december hdecember hlast hday, rfl⟩
  | succ fuel ih =>
      rw [searchMonth]
      by_cases hmore : month < 12 ∧ monthDays month year ≤ day
      · rw [if_pos hmore]
        have hnext : daysBeforeMonth year (month + 1) +
            (day - monthDays month year) = daysBeforeMonth year month + day := by
          rw [daysBeforeMonth_succ hmonth]
          omega
        obtain ⟨hfirst, hle, hlt, heq⟩ := @ih (month + 1)
          (day - monthDays month year) (by omega) (by omega)
          (by rw [hnext]; exact hday) (by omega)
        exact ⟨by omega, hle, hlt, heq.trans hnext⟩
      · rw [if_neg hmore]
        refine ⟨Nat.le_refl _, hlast, ?_, rfl⟩
        change day < monthDays month year
        by_cases hlt : month < 12
        · omega
        · exact lt_monthDays_december hlt hlast hday

end Libsqli.Temporal

namespace Libsqli.Temporal

open Libsqli.Data.Bytes

variable {date left right : Date} {bytes : List UInt8}

/-! Days of the calendar, apart from the integers that hold them. -/

structure CalendarDay where
  year : Nat
  month : Nat
  day : Nat
  deriving DecidableEq, Repr

namespace CalendarDay

variable {first second : CalendarDay}

structure Valid (date : CalendarDay) : Prop where
  year_pos : 1 ≤ date.year
  year_le : date.year ≤ lastYear
  month_pos : 1 ≤ date.month
  month_le : date.month ≤ 12
  day_pos : 1 ≤ date.day
  day_le : date.day ≤ monthDays date.month date.year

/-- The day after. -/
def next (date : CalendarDay) : CalendarDay :=
  if date.day < monthDays date.month date.year then
    ⟨date.year, date.month, date.day + 1⟩
  else if date.month < 12 then ⟨date.year, date.month + 1, 1⟩
  else ⟨date.year + 1, 1, 1⟩

/-- Earlier in the calendar. -/
def Before (first second : CalendarDay) : Prop :=
  first.year < second.year ∨ first.year = second.year ∧
    (first.month < second.month ∨ first.month = second.month ∧
      first.day < second.day)

/-- Days since the first of January of year one. -/
def ordinal (date : CalendarDay) : Int :=
  daysBeforeYear date.year + (daysBeforeMonth date.year date.month +
    (date.day - 1) : Nat)

/-- A valid day lies within its year. -/
theorem Valid.dayOfYear_lt (hvalid : first.Valid) :
    daysBeforeMonth first.year first.month + (first.day - 1) <
      yearDays first.year := by
  have hday := hvalid.day_pos
  have hlast := hvalid.day_le
  have hmonth := @daysBeforeMonth_succ first.year _ hvalid.month_pos
  have hmono := @daysBeforeMonth_mono first.year (first.month + 1) 13 (by omega)
    (Nat.succ_le_succ hvalid.month_le)
  rw [daysBeforeMonth_year hvalid.year_pos] at hmono
  omega

theorem daysBeforeYear_le_ordinal (date : CalendarDay) :
    daysBeforeYear date.year ≤ date.ordinal := by
  unfold ordinal
  omega

theorem Valid.ordinal_lt (hvalid : first.Valid) :
    first.ordinal < daysBeforeYear ((first.year : Int) + 1) := by
  rw [daysBeforeYear_succ hvalid.year_pos, ordinal]
  have := hvalid.dayOfYear_lt
  omega

theorem Valid.ordinal_nonneg (hvalid : first.Valid) : 0 ≤ first.ordinal :=
  (daysBeforeYear_mono (Nat.le_refl 1) hvalid.year_pos).trans
    (daysBeforeYear_le_ordinal first)

theorem Valid.ordinal_lt_last (hvalid : first.Valid) :
    first.ordinal < daysBeforeYear ((lastYear : Int) + 1) := by
  have hmono := @daysBeforeYear_mono (first.year + 1) (lastYear + 1) (by omega)
    (Nat.succ_le_succ hvalid.year_le)
  push_cast at hmono
  exact lt_of_lt_of_le hvalid.ordinal_lt hmono

theorem ordinal_next (hvalid : first.Valid) :
    first.next.ordinal = first.ordinal + 1 := by
  have hday := hvalid.day_pos
  have hlast := hvalid.day_le
  have hmonth := @daysBeforeMonth_succ first.year _ hvalid.month_pos
  unfold next
  by_cases hinside : first.day < monthDays first.month first.year
  · rw [if_pos hinside]
    simp only [ordinal]
    omega
  · rw [if_neg hinside]
    by_cases hmonths : first.month < 12
    · rw [if_pos hmonths]
      simp only [ordinal]
      omega
    · have hdecember : first.month = 12 := by
        have := hvalid.month_le
        omega
      have hyear := daysBeforeMonth_year hvalid.year_pos
      rw [if_neg hmonths]
      simp only [ordinal, Nat.cast_add, Nat.cast_one,
        daysBeforeYear_succ hvalid.year_pos, daysBeforeMonth_one]
      rw [hdecember] at hmonth hinside hlast ⊢
      rw [show 12 + 1 = 13 from rfl, hyear] at hmonth
      omega

theorem ordinal_lt_of_before (hfirst : first.Valid)
    (hbefore : first.Before second) : first.ordinal < second.ordinal := by
  rcases hbefore with hyear | ⟨hyear, hmonth | ⟨hmonth, hday⟩⟩
  · have hmono := @daysBeforeYear_mono (first.year + 1) second.year (by omega)
      hyear
    push_cast at hmono
    have := hfirst.ordinal_lt
    have := daysBeforeYear_le_ordinal second
    omega
  · have hstep := @daysBeforeMonth_succ first.year _ hfirst.month_pos
    have hmono := @daysBeforeMonth_mono first.year (first.month + 1)
      second.month (by omega) hmonth
    have := hfirst.day_le
    have := hfirst.day_pos
    simp only [ordinal, ← hyear]
    omega
  · have := hfirst.day_pos
    simp only [ordinal, ← hyear, ← hmonth]
    omega

theorem before_trichotomy (first second : CalendarDay) :
    first.Before second ∨ first = second ∨ second.Before first := by
  obtain ⟨year, month, day⟩ := first
  obtain ⟨otherYear, otherMonth, otherDay⟩ := second
  simp only [Before, mk.injEq]
  omega

theorem ordinal_lt_iff (hfirst : first.Valid) (hsecond : second.Valid) :
    first.ordinal < second.ordinal ↔ first.Before second := by
  refine ⟨fun hlt => ?_, ordinal_lt_of_before hfirst⟩
  rcases before_trichotomy first second with hbefore | heq | hafter
  · exact hbefore
  · rw [heq] at hlt
    omega
  · have := ordinal_lt_of_before hsecond hafter
    omega

theorem ordinal_injective (hfirst : first.Valid) (hsecond : second.Valid)
    (hsame : first.ordinal = second.ordinal) : first = second := by
  rcases before_trichotomy first second with hbefore | heq | hafter
  · have := ordinal_lt_of_before hfirst hbefore
    omega
  · exact heq
  · have := ordinal_lt_of_before hsecond hafter
    omega

end CalendarDay

/-! The year search and the month walk find the day of an ordinal. -/

variable {ordinal : Int}

theorem ordinalYear_spec (hnonneg : 0 ≤ ordinal)
    (hlast : ordinal < daysBeforeYear ((lastYear : Int) + 1)) :
    1 ≤ ordinalYear ordinal ∧ ordinalYear ordinal ≤ lastYear ∧
      daysBeforeYear (ordinalYear ordinal) ≤ ordinal ∧
      ordinal < daysBeforeYear (ordinalYear ordinal + 1) :=
  searchYear_between (by decide) hnonneg hlast (by decide)

/-- The day that the decoder finds for an ordinal. -/
def ordinalDay (ordinal : Int) : CalendarDay :=
  ⟨(ordinalYear ordinal).toNat, (ordinalMonthDay ordinal).1,
    (ordinalMonthDay ordinal).2 + 1⟩

theorem ordinalDay_spec (hnonneg : 0 ≤ ordinal)
    (hlast : ordinal < daysBeforeYear ((lastYear : Int) + 1)) :
    (ordinalDay ordinal).Valid ∧ (ordinalDay ordinal).ordinal = ordinal := by
  obtain ⟨hfirst, hle, hlow, hhigh⟩ := ordinalYear_spec hnonneg hlast
  obtain ⟨year, hyear⟩ := Int.eq_ofNat_of_zero_le
    (show 0 ≤ ordinalYear ordinal by omega)
  simp only [ordinalDay, ordinalMonthDay, hyear, Int.toNat_natCast] at *
  rw [daysBeforeYear_succ (by omega)] at hhigh
  obtain ⟨hmonth, hmonths, hday, hsum⟩ := @searchMonth_spec 11 year 1
    (ordinal - daysBeforeYear year).toNat (by omega) (by omega)
    (by rw [daysBeforeMonth_one, daysBeforeMonth_year (by omega)]; omega)
    (by omega)
  rw [daysBeforeMonth_one, Nat.zero_add] at hsum
  refine ⟨⟨by simpa using hfirst, by simpa using hle, hmonth, hmonths,
    Nat.succ_pos _, hday⟩, ?_⟩
  simp only [CalendarDay.ordinal, Nat.add_sub_cancel, hsum]
  omega

end Libsqli.Temporal
