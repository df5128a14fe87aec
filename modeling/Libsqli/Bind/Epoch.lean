import Libsqli.Bind.Param
import Libsqli.Temporal.CivilDays

namespace Libsqli.Bind

open Libsqli.Data.Radix
open Libsqli.Temporal

/-! Timestamps and counts from the Unix epoch. -/

/-- `sqli_timestamp_to_epoch_sec` -/
def Timestamp.toEpochSec (ts : Timestamp) : Int :=
  if ts.isNull then 0
  else ymdToDays ts.year.toInt ts.month.toInt ts.day.toInt * 86400 +
    ts.hour.toInt * 3600 + ts.minute.toInt * 60 + ts.second.toInt

/-- `sqli_timestamp_to_epoch_ms` -/
def Timestamp.toEpochMs (ts : Timestamp) : Int :=
  if ts.isNull then 0
  else ts.toEpochSec * 1000 + ts.microsecond.toInt.tdiv 1000

/-- `sqli_timestamp_to_epoch_days` -/
def Timestamp.toEpochDays (ts : Timestamp) : Int32 :=
  if ts.isNull then 0
  else Int32.ofInt (ymdToDays ts.year.toInt ts.month.toInt ts.day.toInt)

/-- A quotient and a remainder of C, corrected where the remainder is below
zero. -/
def floorSplit (count size : Int) : Int × Int :=
  if count.tmod size < 0 then (count.tdiv size - 1, count.tmod size + size)
  else (count.tdiv size, count.tmod size)

/-- `sqli_timestamp_from_epoch_days`; the addition of two `int`s wraps. -/
def fromEpochDays (days : Int32) : Timestamp :=
  let date := daysToYmdIfx (days + Int32.ofInt unixEpochDay)
  { isNull := false, year := date.1, month := date.2.1, day := date.2.2
    hour := 0, minute := 0, second := 0, microsecond := 0 }

/-- `sqli_timestamp_from_epoch_sec` -/
def fromEpochSec (sec : Int64) : Timestamp :=
  let split := floorSplit sec.toInt 86400
  { fromEpochDays (Int32.ofInt split.1) with
    hour := Int32.ofInt (split.2.tdiv 3600)
    minute := Int32.ofInt ((split.2.tmod 3600).tdiv 60)
    second := Int32.ofInt ((split.2.tmod 3600).tmod 60) }

/-- `sqli_timestamp_from_epoch_ms` -/
def fromEpochMs (ms : Int64) : Timestamp :=
  let split := floorSplit ms.toInt 1000
  { fromEpochSec (Int64.ofInt split.1) with
    microsecond := Int32.ofInt (split.2 * 1000) }

theorem floorSplit_eq (hsize : 0 < size) (count : Int) :
    floorSplit count size = (count / size, count % size) := by
  have hquotient := Int.mul_ediv_add_emod count size
  have htruncated := Int.mul_tdiv_add_tmod count size
  have hnonneg := Int.emod_nonneg count hsize.ne'
  have hlt := Int.emod_lt_of_pos count hsize
  have habove := Int.tmod_lt_of_pos count hsize
  have hbelow : -size < count.tmod size := by
    have hneg := Int.tmod_lt_of_pos (-count) hsize
    rw [Int.neg_tmod] at hneg
    omega
  have hcandidates : ∀ quotient rest, size * quotient + rest = count →
      0 ≤ rest → rest < size → count / size = quotient ∧
        count % size = rest := by
    rintro quotient rest rfl hlower hupper
    rw [Int.add_comm, Int.add_mul_ediv_left _ _ hsize.ne',
      Int.add_mul_emod_self_left, Int.ediv_eq_zero_of_lt hlower hupper,
      Int.emod_eq_of_lt hlower hupper]
    omega
  unfold floorSplit
  split
  · obtain ⟨hdiv, hmod⟩ := hcandidates (count.tdiv size - 1)
      (count.tmod size + size) (by rw [Int.mul_sub]; omega) (by omega)
      (by omega)
    rw [hdiv, hmod]
  · obtain ⟨hdiv, hmod⟩ := hcandidates (count.tdiv size) (count.tmod size)
      htruncated (by omega) habove
    rw [hdiv, hmod]

/-! Points of the calendar. -/

/-- A time of a day in the years 1 to 9999, to the microsecond. -/
structure Moment where
  date : CalendarDay
  hour : Nat
  minute : Nat
  second : Nat
  microsecond : Nat
  date_valid : date.Valid
  hour_lt : hour < 24
  minute_lt : minute < 60
  second_lt : second < 60
  microsecond_lt : microsecond < 1000000

/-- Days from the Unix epoch. -/
def Moment.days (moment : Moment) : Int := moment.date.ordinal - 719162

/-- Microseconds from the Unix epoch. -/
def Moment.instant (moment : Moment) : Int :=
  (moment.days * 86400 + moment.hour * 3600 + moment.minute * 60 +
    moment.second) * 1000000 + moment.microsecond

/-- The timestamp with the fields of a moment. -/
def Moment.timestamp (moment : Moment) : Timestamp where
  isNull := false
  year := Int32.ofInt moment.date.year
  month := Int32.ofInt moment.date.month
  day := Int32.ofInt moment.date.day
  hour := Int32.ofInt moment.hour
  minute := Int32.ofInt moment.minute
  second := Int32.ofInt moment.second
  microsecond := Int32.ofInt moment.microsecond

variable {moment : Moment}

theorem Moment.days_span (moment : Moment) : CivilSpan moment.days := by
  have hlast : daysBeforeYear ((lastYear : Int) + 1) = 3652059 := rfl
  have hnonneg := moment.date_valid.ordinal_nonneg
  have hlt := moment.date_valid.ordinal_lt_last
  unfold CivilSpan Moment.days
  omega

/-- The day of an instant. -/
theorem Moment.instant_div (moment : Moment) :
    moment.instant / 86400000000 = moment.days := by
  have hhour := moment.hour_lt
  have hminute := moment.minute_lt
  have hsecond := moment.second_lt
  have hmicrosecond := moment.microsecond_lt
  unfold Moment.instant
  omega

theorem Moment.instant_span (moment : Moment) :
    CivilSpan (moment.instant / 86400000000) := by
  rw [moment.instant_div]
  exact moment.days_span

/-- Every field of a moment fits in an `int`. -/
theorem Moment.fields_fit (moment : Moment) :
    moment.date.year ≤ 9999 ∧ moment.date.month ≤ 12 ∧
      moment.date.day ≤ 31 :=
  ⟨moment.date_valid.year_le, moment.date_valid.month_le,
    moment.date_valid.day_le.trans (monthDays_le _ _)⟩

theorem Moment.days_eq (moment : Moment) :
    ymdToDays moment.timestamp.year.toInt moment.timestamp.month.toInt
      moment.timestamp.day.toInt = moment.days := by
  obtain ⟨hyear, hmonth, hday⟩ := moment.fields_fit
  have hvalid := moment.date_valid
  have hcount := ymdToDays_ordinal hvalid.year_pos hvalid.month_pos
    hvalid.month_le hvalid.day_pos hday
  simp only [Moment.timestamp]
  rw [toInt_ofInt_of_range (by omega) (by omega),
    toInt_ofInt_of_range (by omega) (by omega),
    toInt_ofInt_of_range (by omega) (by omega), hcount, Moment.days]

theorem Moment.toEpochSec (moment : Moment) :
    moment.timestamp.toEpochSec = moment.instant / 1000000 := by
  have hhour := moment.hour_lt
  have hminute := moment.minute_lt
  have hsecond := moment.second_lt
  have hmicrosecond := moment.microsecond_lt
  rw [Timestamp.toEpochSec, if_neg nofun, moment.days_eq]
  simp only [Moment.timestamp, Moment.instant]
  rw [toInt_ofInt_of_range (by omega) (by omega),
    toInt_ofInt_of_range (by omega) (by omega),
    toInt_ofInt_of_range (by omega) (by omega)]
  omega

theorem Moment.toEpochMs (moment : Moment) :
    moment.timestamp.toEpochMs = moment.instant / 1000 := by
  have hmicrosecond := moment.microsecond_lt
  rw [Timestamp.toEpochMs, if_neg nofun, moment.toEpochSec]
  simp only [Moment.timestamp]
  rw [toInt_ofInt_of_range (by omega) (by omega),
    Int.tdiv_eq_ediv_of_nonneg (by omega)]
  unfold Moment.instant
  omega

theorem Moment.toEpochDays (moment : Moment) :
    moment.timestamp.toEpochDays.toInt = moment.instant / 86400000000 := by
  obtain ⟨hlower, hupper⟩ := moment.days_span
  rw [Timestamp.toEpochDays, if_neg nofun, moment.days_eq,
    toInt_ofInt_of_range (by omega) (by omega), moment.instant_div]

/-! The moment of a count. -/

/-- The date of a day of the calendar. -/
theorem exists_calendarDay {days : Int32} (hspan : CivilSpan days.toInt) :
    ∃ date : CalendarDay, date.Valid ∧ date.ordinal - 719162 = days.toInt ∧
      daysToYmdIfx (days + Int32.ofInt unixEpochDay) =
        (Int32.ofInt date.year, Int32.ofInt date.month,
          Int32.ofInt date.day) := by
  obtain ⟨hlower, hupper⟩ := hspan
  have hshift : (days + Int32.ofInt unixEpochDay).toInt =
      days.toInt + unixEpochDay := by
    simp only [unixEpochDay]
    rw [Int32.toInt_add, toInt_ofInt_of_range (by omega) (by omega)]
    exact Int.bmod_eq_of_le (by omega) (by omega)
  obtain ⟨year, month, day, hymd, -, -, hcivil⟩ :=
    daysToYmdIfx_civil (days + Int32.ofInt unixEpochDay)
  rw [hshift, show days.toInt + unixEpochDay - unixEpochDay = days.toInt by
    omega] at hcivil
  obtain ⟨hyear, hyears⟩ := hcivil.span_iff.mpr ⟨hlower, hupper⟩
  have hmonth := hcivil.month_pos
  have hday := hcivil.day_pos
  refine ⟨⟨year.toNat, month.toNat, day.toNat⟩, hcivil.valid hyear hyears,
    ?_, ?_⟩
  · have hordinal := hcivil.ordinal_eq hyear
    omega
  · rw [hymd, Int.toNat_of_nonneg (by omega), Int.toNat_of_nonneg (by omega),
      Int.toNat_of_nonneg (by omega)]

/-- A day, a second of the day and a microsecond of the second. -/
theorem exists_moment {days : Int32} {second micro : Int}
    (hspan : CivilSpan days.toInt) (hsecond : 0 ≤ second)
    (hseconds : second < 86400) (hmicro : 0 ≤ micro)
    (hmicros : micro < 1000000) :
    ∃ moment : Moment,
      { fromEpochDays days with
        hour := Int32.ofInt (second.tdiv 3600)
        minute := Int32.ofInt ((second.tmod 3600).tdiv 60)
        second := Int32.ofInt ((second.tmod 3600).tmod 60)
        microsecond := Int32.ofInt micro } = moment.timestamp ∧
      moment.instant = (days.toInt * 86400 + second) * 1000000 + micro := by
  obtain ⟨date, hvalid, hordinal, hymd⟩ := exists_calendarDay hspan
  rw [Int.tdiv_eq_ediv_of_nonneg hsecond, Int.tmod_eq_emod_of_nonneg hsecond,
    Int.tdiv_eq_ediv_of_nonneg (by omega),
    Int.tmod_eq_emod_of_nonneg (by omega)]
  refine ⟨⟨date, (second / 3600).toNat, (second % 3600 / 60).toNat,
    (second % 3600 % 60).toNat, micro.toNat, hvalid, by omega, by omega,
    by omega, by omega⟩, ?_, ?_⟩
  · simp only [Moment.timestamp, fromEpochDays, hymd]
    rw [Int.toNat_of_nonneg (by omega), Int.toNat_of_nonneg (by omega),
      Int.toNat_of_nonneg (by omega), Int.toNat_of_nonneg hmicro]
  · simp only [Moment.instant, Moment.days, hordinal]
    omega

theorem fromEpochDays_moment {days : Int32} (hspan : CivilSpan days.toInt) :
    ∃ moment : Moment, fromEpochDays days = moment.timestamp ∧
      moment.instant = days.toInt * 86400000000 := by
  obtain ⟨moment, hmoment, hinstant⟩ := @exists_moment days 0 0 hspan
    (by decide) (by decide) (by decide) (by decide)
  exact ⟨moment, hmoment, by omega⟩

theorem fromEpochSec_moment {sec : Int64}
    (hspan : CivilSpan (sec.toInt / 86400)) :
    ∃ moment : Moment, fromEpochSec sec = moment.timestamp ∧
      moment.instant = sec.toInt * 1000000 := by
  have hday : (Int32.ofInt (sec.toInt / 86400)).toInt = sec.toInt / 86400 := by
    obtain ⟨hlower, hupper⟩ := hspan
    exact toInt_ofInt_of_range (by omega) (by omega)
  obtain ⟨moment, hmoment, hinstant⟩ :=
    @exists_moment (Int32.ofInt (sec.toInt / 86400)) (sec.toInt % 86400) 0
      (by rwa [hday]) (by omega) (by omega) (by decide) (by decide)
  refine ⟨moment, ?_, by omega⟩
  rw [← hmoment, fromEpochSec, floorSplit_eq (by decide)]
  rfl

theorem fromEpochMs_moment {ms : Int64}
    (hspan : CivilSpan (ms.toInt / 86400000)) :
    ∃ moment : Moment, fromEpochMs ms = moment.timestamp ∧
      moment.instant = ms.toInt * 1000 := by
  have hsec : (Int64.ofInt (ms.toInt / 1000)).toInt = ms.toInt / 1000 := by
    obtain ⟨hlower, hupper⟩ := hspan
    exact Int64.toInt_ofInt_of_le (by omega) (by omega)
  have hdays : ms.toInt / 1000 / 86400 = ms.toInt / 86400000 := by omega
  have hday : (Int32.ofInt (ms.toInt / 1000 / 86400)).toInt =
      ms.toInt / 1000 / 86400 := by
    obtain ⟨hlower, hupper⟩ := hspan
    exact toInt_ofInt_of_range (by omega) (by omega)
  obtain ⟨moment, hmoment, hinstant⟩ :=
    @exists_moment (Int32.ofInt (ms.toInt / 1000 / 86400))
      (ms.toInt / 1000 % 86400) (ms.toInt % 1000 * 1000)
      (by rwa [hday, hdays]) (by omega) (by omega) (by omega) (by omega)
  refine ⟨moment, ?_, by omega⟩
  rw [← hmoment, fromEpochMs, floorSplit_eq (by decide), fromEpochSec, hsec,
    floorSplit_eq (by decide)]

end Libsqli.Bind
