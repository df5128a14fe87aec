import Libsqli.Temporal.DateCodec

namespace Libsqli.Temporal

/-! The day numbers of the epoch functions. -/

/-- Conversion to the 32 bits of an `unsigned`. -/
def unsigned (value : Int) : Int := value % 2 ^ 32

/-- The day of the Unix epoch in days from 31 December 1899. -/
def unixEpochDay : Int := 25568

/-- `ymd_to_days`: years start in March and come in eras of 400. -/
def ymdToDays (year month day : Int) : Int :=
  let m := if month ≤ 2 then month + 12 else month
  let y := if month ≤ 2 then year - 1 else year
  let era := (if 0 ≤ y then y else y - 399).tdiv 400
  let yoe := unsigned (y - era * 400)
  let doy := unsigned ((153 * (m - 3) + 2).tdiv 5 + day - 1)
  let doe := unsigned (yoe * 365 + yoe / 4 - yoe / 100 + doy)
  era * 146097 + doe - 719468

def yearOfEra (doe : Int) : Int :=
  unsigned (doe - doe / 1460 + doe / 36524 - doe / 146096) / 365

def dayOfEraYear (doe : Int) : Int :=
  unsigned (doe - (365 * yearOfEra doe + yearOfEra doe / 4 -
    yearOfEra doe / 100))

def marchMonth (doy : Int) : Int := unsigned (5 * doy + 2) / 153

def dayOfMonth (doy : Int) : Int :=
  unsigned (doy - unsigned (153 * marchMonth doy + 2) / 5 + 1)

/-- The `-9` is added modulo `2 ^ 32`. -/
def calendarMonth (mp : Int) : Int :=
  unsigned (mp + unsigned (if mp < 10 then 3 else -9))

/-- `sqli_days_to_ymd_ifx` -/
def daysToYmdIfx (ifxDays : Int32) : Int32 × Int32 × Int32 :=
  let z := ifxDays.toInt - unixEpochDay + 719468
  let era := (if 0 ≤ z then z else z - 146096).tdiv 146097
  let doe := unsigned (z - era * 146097)
  let doy := dayOfEraYear doe
  let mm := calendarMonth (marchMonth doy)
  let yy := yearOfEra doe + era * 400 + if mm ≤ 2 then 1 else 0
  (Int32.ofInt yy, Int32.ofInt mm, Int32.ofInt (dayOfMonth doy))

/-- The date before it is stored as three `int`s. -/
def wideYmd (ifxDays : Int32) : Int × Int × Int :=
  let z := ifxDays.toInt - unixEpochDay + 719468
  let doe := z % 146097
  let mm := calendarMonth (marchMonth (dayOfEraYear doe))
  (yearOfEra doe + z / 146097 * 400 + (if mm ≤ 2 then 1 else 0), mm,
    dayOfMonth (dayOfEraYear doe))

variable {doe century cycle rest doy year value size : Int}

theorem unsigned_eq (hlower : 0 ≤ value) (hupper : value < 2 ^ 32) :
    unsigned value = value :=
  Int.emod_eq_of_lt hlower hupper

/-- The division of C, with its operand moved below zero, rounds down. -/
theorem tdiv_floor (hsize : 0 < size) :
    (if 0 ≤ value then value else value - (size - 1)).tdiv size =
      value / size := by
  split
  · next hvalue => exact Int.tdiv_eq_ediv_of_nonneg hvalue
  · next hvalue =>
    have hneg : value - (size - 1) = -(size - 1 - value) := by omega
    rw [hneg, Int.neg_tdiv, Int.tdiv_eq_ediv_of_nonneg (by omega)]
    have hquotient : (size - 1 - value) / size = -(value / size) := by
      rw [Int.ediv_eq_iff_of_pos hsize]
      have hdiv := Int.mul_ediv_add_emod value size
      have hmod := Int.emod_nonneg value hsize.ne'
      have hlt := Int.emod_lt_of_pos value hsize
      have hneg : -(value / size) * size = -(size * (value / size)) := by ring
      omega
    omega

/-! From the calendar to day numbers. -/

theorem unsigned_mod (hsize : 0 < size) (hfits : size ≤ 2 ^ 32) (value : Int) :
    unsigned (value % size) = value % size := by
  have hlt := Int.emod_lt_of_pos value hsize
  exact unsigned_eq (Int.emod_nonneg value hsize.ne') (by omega)

/-- Days of the March-based years before `year`. -/
theorem eraDays_eq (year : Int) :
    year / 400 * 146097 + (year % 400 * 365 + year % 400 / 4 -
        year % 400 / 100) =
      year * 365 + year / 4 - year / 100 + year / 400 := by
  omega

/-- The formula on a month and a year counted from March. -/
theorem ymdToDays_eq {month day y m : Int} (hmonth : 3 ≤ m) (hmonths : m ≤ 14)
    (hday : 1 ≤ day) (hdays : day ≤ 31)
    (hy : (if month ≤ 2 then year - 1 else year) = y)
    (hm : (if month ≤ 2 then month + 12 else month) = m) :
    ymdToDays year month day = y * 365 + y / 4 - y / 100 + y / 400 +
      ((153 * (m - 3) + 2) / 5 + day - 1) - 719468 := by
  have hera := @tdiv_floor y 400 (by decide)
  have hmarch : (153 * (m - 3) + 2).tdiv 5 = (153 * (m - 3) + 2) / 5 :=
    Int.tdiv_eq_ediv_of_nonneg (by omega)
  have hmod : y - y / 400 * 400 = y % 400 := by omega
  have hyoe := @unsigned_mod 400 (by decide) (by decide) y
  have hdoy : unsigned ((153 * (m - 3) + 2) / 5 + day - 1) =
      (153 * (m - 3) + 2) / 5 + day - 1 := unsigned_eq (by omega) (by omega)
  have hdoe : unsigned (y % 400 * 365 + y % 400 / 4 - y % 400 / 100 +
      ((153 * (m - 3) + 2) / 5 + day - 1)) =
      y % 400 * 365 + y % 400 / 4 - y % 400 / 100 +
        ((153 * (m - 3) + 2) / 5 + day - 1) :=
    unsigned_eq (by omega) (by omega)
  have hsplit := eraDays_eq y
  simp only [ymdToDays, hy, hm]
  rw [show (if 0 ≤ y then y else y - 399).tdiv 400 = y / 400 from hera, hmarch,
    hmod, hyoe, hdoy, hdoe]
  omega

/-- Days before a month from March on, apart from the leap day. -/
theorem daysBeforeMonth_march {year month : Nat} (hyear : 1 ≤ year)
    (hmonth : 3 ≤ month) (hmonths : month ≤ 12) :
    daysBeforeMonth year month = yearDays year - 306 +
      (153 * (month - 3) + 2) / 5 := by
  have habsent : year ≠ 0 := by omega
  have hmarch : daysBeforeMonth year 3 = yearDays year - 306 := by
    simp only [daysBeforeMonth, yearDays]
    cases hleap : leapYear year <;>
      simp [hleap, habsent, monthDays, daysPerMonth, List.range'_succ]
  have hrest : ∀ later, 3 ≤ later → later ≤ 12 →
      daysBeforeMonth year later =
        daysBeforeMonth year 3 + (153 * (later - 3) + 2) / 5 := by
    intro later hlater
    induction later, hlater using Nat.le_induction with
    | base => simp
    | succ later hlater ih =>
        intro hlast
        rw [daysBeforeMonth_succ (by omega), ih (by omega)]
        have hlength : monthDays later year = daysPerMonth.getD (later - 1) 0 :=
          if_neg (by omega)
        have hbound : later ≤ 11 := by omega
        rw [hlength]
        interval_cases later <;> simp [daysPerMonth]
  rw [hrest month hmonth hmonths, hmarch]

/-- The formula agrees with the calendar. -/
theorem ymdToDays_ordinal {day : CalendarDay} (hyear : 1 ≤ day.year)
    (hmonth : 1 ≤ day.month) (hmonths : day.month ≤ 12) (hday : 1 ≤ day.day)
    (hdays : day.day ≤ 31) :
    ymdToDays day.year day.month day.day = day.ordinal - 719162 := by
  obtain ⟨year, month, day⟩ := day
  simp only at hyear hmonth hmonths hday hdays
  simp only [CalendarDay.ordinal]
  by_cases hearly : month ≤ 2
  · rw [@ymdToDays_eq year month day (year - 1) (month + 12) (by omega)
      (by omega) (by omega) (by omega) (if_pos (by omega))
      (if_pos (by omega)), daysBeforeYear_eq hyear]
    have hbefore : daysBeforeMonth year month = if month = 2 then 31 else 0 := by
      interval_cases month
      · rfl
      · simp [daysBeforeMonth, monthDays, daysPerMonth]
    rw [hbefore]
    split <;> omega
  · have hstep := daysBeforeYear_succ hyear
    rw [show (year : Int) + 1 = ((year + 1 : Nat) : Int) by omega,
      daysBeforeYear_eq (by omega)] at hstep
    rw [@ymdToDays_eq year month day year month (by omega) (by omega)
      (by omega) (by omega) (if_neg (by omega)) (if_neg (by omega)),
      daysBeforeMonth_march hyear (by omega) hmonths]
    have hlength : 365 ≤ yearDays year := by
      unfold yearDays
      split <;> omega
    omega

/-! From day numbers to the calendar. -/

/-- A day of an era, as centuries, cycles of four years, years and days. -/
structure EraDay (doe century cycle rest doy : Int) : Prop where
  century_nonneg : 0 ≤ century
  century_le : century ≤ 3
  cycle_nonneg : 0 ≤ cycle
  cycle_le : cycle ≤ 24
  rest_nonneg : 0 ≤ rest
  rest_le : rest ≤ 3
  doy_nonneg : 0 ≤ doy
  doy_le : doy ≤ 365
  leap : doy = 365 → rest = 3 ∧ (cycle = 24 → century = 3)
  sum : doe = 36524 * century + 1461 * cycle + 365 * rest + doy

theorem exists_eraDay (hlower : 0 ≤ doe) (hupper : doe ≤ 146096) :
    ∃ century cycle rest doy, EraDay doe century cycle rest doy := by
  have hcentury : ∃ century left, 0 ≤ century ∧ century ≤ 3 ∧ 0 ≤ left ∧
      (left ≤ 36523 ∨ left = 36524 ∧ century = 3) ∧
      doe = 36524 * century + left := by
    by_cases hlast : doe = 146096
    · exact ⟨3, 36524, by omega, by omega, by omega, .inr ⟨rfl, rfl⟩, by omega⟩
    · exact ⟨doe / 36524, doe % 36524, by omega, by omega, by omega,
        .inl (by omega), by omega⟩
  obtain ⟨century, left, hcentury, hcenturies, hleft, hlefts, hdoe⟩ := hcentury
  have hrest : ∃ rest doy, 0 ≤ rest ∧ rest ≤ 3 ∧ 0 ≤ doy ∧
      (doy ≤ 364 ∨ doy = 365 ∧ rest = 3) ∧
      left % 1461 = 365 * rest + doy := by
    by_cases hlast : left % 1461 = 1460
    · exact ⟨3, 365, by omega, by omega, by omega, .inr ⟨rfl, rfl⟩, by omega⟩
    · exact ⟨left % 1461 / 365, left % 1461 % 365, by omega, by omega,
        by omega, .inl (by omega), by omega⟩
  obtain ⟨rest, doy, hrest, hrests, hdoy, hdoys, hleap⟩ := hrest
  exact ⟨century, left / 1461, rest, doy, hcentury, hcenturies, by omega,
    by omega, hrest, hrests, hdoy, by omega, by omega, by omega⟩

theorem EraDay.yearOfEra (hday : EraDay doe century cycle rest doy) :
    yearOfEra doe = 100 * century + 4 * cycle + rest := by
  obtain ⟨hcentury, hcenturies, hcycle, hcycles, hrest, hrests, hdoy, hdoys,
    hleap, hsum⟩ := hday
  have hquarter : doe / 1460 = 25 * century + cycle +
      (24 * century + cycle + 365 * rest + doy) / 1460 := by omega
  have hhundred : doe / 36524 - doe / 146096 = century := by
    by_cases hlast : 1461 * cycle + 365 * rest + doy = 36524
    · have hend : doe = 146096 := by omega
      rw [hend]
      omega
    · have hfirst : doe / 146096 = 0 := by omega
      omega
  have hquotient : (doe - doe / 1460 + doe / 36524 - doe / 146096) / 365 =
      100 * century + 4 * cycle + rest := by omega
  rw [Temporal.yearOfEra, unsigned_eq (by omega) (by omega), hquotient]

theorem EraDay.dayOfEraYear (hday : EraDay doe century cycle rest doy) :
    dayOfEraYear doe = doy := by
  have hyear := hday.yearOfEra
  obtain ⟨hcentury, hcenturies, hcycle, hcycles, hrest, hrests, hdoy, hdoys,
    hleap, hsum⟩ := hday
  rw [Temporal.dayOfEraYear, hyear, unsigned_eq (by omega) (by omega)]
  omega

/-- The month and the day of a day counted from the first of March. -/
theorem marchMonth_spec (hlower : 0 ≤ doy) (hupper : doy ≤ 365) :
    0 ≤ marchMonth doy ∧ marchMonth doy ≤ 11 ∧
      (153 * marchMonth doy + 2) / 5 ≤ doy ∧
      doy < (153 * (marchMonth doy + 1) + 2) / 5 := by
  have hwrap : unsigned (5 * doy + 2) = 5 * doy + 2 :=
    unsigned_eq (by omega) (by omega)
  rw [marchMonth, hwrap]
  omega

theorem dayOfMonth_eq (hlower : 0 ≤ doy) (hupper : doy ≤ 365) :
    dayOfMonth doy = doy - (153 * marchMonth doy + 2) / 5 + 1 := by
  obtain ⟨hmonth, hmonths, hfirst, hlast⟩ := marchMonth_spec hlower hupper
  have hwrap : unsigned (153 * marchMonth doy + 2) =
      153 * marchMonth doy + 2 := unsigned_eq (by omega) (by omega)
  rw [dayOfMonth, hwrap, unsigned_eq (by omega) (by omega)]

theorem calendarMonth_eq {mp : Int} (hlower : 0 ≤ mp) (hupper : mp ≤ 11) :
    calendarMonth mp = if mp < 10 then mp + 3 else mp - 9 := by
  unfold calendarMonth unsigned
  split <;> omega

/-- The day of the calendar `days` days after the Unix epoch. -/
structure Civil (days year month day : Int) : Prop where
  month_pos : 1 ≤ month
  month_le : month ≤ 12
  day_pos : 1 ≤ day
  day_le : day ≤ 31
  day_valid : 1 ≤ year → day ≤ monthDays month.toNat year.toNat
  days_eq : ymdToDays year month day = days

theorem leapYear_of_eraDay {era year : Int} (hyear : 1 ≤ year)
    (hday : EraDay doe century cycle rest 365)
    (hsum : year = 100 * century + 4 * cycle + rest + era * 400 + 1) :
    leapYear year.toNat = true := by
  obtain ⟨hrest, hcycle⟩ := hday.leap rfl
  have hcycles := hday.cycle_nonneg
  have hlast := hday.cycle_le
  have hcentury := hday.century_nonneg
  simp only [leapYear, Bool.and_eq_true, Bool.or_eq_true, beq_iff_eq,
    bne_iff_ne]
  omega

theorem monthDays_le_of_march {mp month : Int} {year : Nat} (hlower : 0 ≤ mp)
    (hupper : mp ≤ 11) (hmonth : (if mp < 10 then mp + 3 else mp - 9) = month) :
    min ((153 * (mp + 1) + 2) / 5) 365 - (153 * mp + 2) / 5 ≤
      monthDays month.toNat year := by
  by_cases hfebruary : mp = 11
  · have htwo : month = 2 := by omega
    rw [htwo, show (2 : Int).toNat = 2 from rfl]
    unfold monthDays
    split
    · omega
    · simp only [daysPerMonth, List.getD_cons_succ, List.getD_cons_zero]
      omega
  · subst hmonth
    have hbefore : mp ≤ 10 := by omega
    interval_cases mp <;> simp [monthDays, daysPerMonth]

theorem EraDay.civil {era year month day : Int}
    (hday : EraDay doe century cycle rest doy)
    (hmonth : month = calendarMonth (marchMonth doy))
    (hdayOfMonth : day = dayOfMonth doy)
    (hyear : year = Temporal.yearOfEra doe + era * 400 + if month ≤ 2 then 1 else 0) :
    Civil (era * 146097 + doe - 719468) year month day := by
  obtain ⟨hlower, hupper, hfirst, hlast⟩ :=
    marchMonth_spec hday.doy_nonneg hday.doy_le
  have hcalendar := calendarMonth_eq hlower hupper
  rw [← hmonth] at hcalendar
  rw [dayOfMonth_eq hday.doy_nonneg hday.doy_le] at hdayOfMonth
  rw [hday.yearOfEra] at hyear
  have hdays : day ≤ 31 := by omega
  refine ⟨by omega, by omega, by omega, hdays, ?_, ?_⟩
  · intro hpositive
    by_cases hleap : doy = 365
    · subst hleap
      have hmarch : marchMonth 365 = 11 := by decide
      rw [hmarch] at hcalendar hdayOfMonth
      have hfebruary : month = 2 := by omega
      rw [if_pos (by omega)] at hyear
      have htrue := leapYear_of_eraDay hpositive hday hyear
      rw [hfebruary, show (2 : Int).toNat = 2 from rfl, monthDays,
        if_pos ⟨rfl, .inr htrue⟩]
      omega
    · have hlength := @monthDays_le_of_march (marchMonth doy) month year.toNat
        hlower hupper hcalendar.symm
      have hend := hday.doy_le
      omega
  · have hback := @ymdToDays_eq year month day
      (Temporal.yearOfEra doe + era * 400) (marchMonth doy + 3) (by omega) (by omega)
      (by omega) hdays (by rw [hday.yearOfEra]; split <;> omega)
      (by split <;> omega)
    rw [hback, hday.yearOfEra]
    obtain ⟨hcentury, hcenturies, hcycle, hcycles, hrest, hrests, hdoy, hdoys,
      hleap, hsum⟩ := hday
    have hquarters : (100 * century + 4 * cycle + rest + era * 400) / 4 =
        25 * century + cycle + era * 100 := by omega
    have hcenturies : (100 * century + 4 * cycle + rest + era * 400) / 100 =
        century + era * 4 := by omega
    have heras : (100 * century + 4 * cycle + rest + era * 400) / 400 =
        era := by omega
    rw [hquarters, hcenturies, heras]
    omega

theorem daysToYmdIfx_eq (ifxDays : Int32) :
    daysToYmdIfx ifxDays =
      (Int32.ofInt (wideYmd ifxDays).1, Int32.ofInt (wideYmd ifxDays).2.1,
        Int32.ofInt (wideYmd ifxDays).2.2) := by
  obtain ⟨z, hz⟩ : ∃ z, z = ifxDays.toInt - unixEpochDay + 719468 := ⟨_, rfl⟩
  have hera := @tdiv_floor z 146097 (by decide)
  have hmod : z - z / 146097 * 146097 = z % 146097 := by omega
  have hdoe := @unsigned_mod 146097 (by decide) (by decide) z
  simp only [daysToYmdIfx, wideYmd, ← hz]
  rw [show (if 0 ≤ z then z else z - 146096).tdiv 146097 = z / 146097 from
    hera, hmod, hdoe]

theorem wideYmd_civil (ifxDays : Int32) :
    -6000000 ≤ (wideYmd ifxDays).1 ∧ (wideYmd ifxDays).1 ≤ 6000000 ∧
      Civil (ifxDays.toInt - unixEpochDay) (wideYmd ifxDays).1
        (wideYmd ifxDays).2.1 (wideYmd ifxDays).2.2 := by
  have hlower := ifxDays.le_toInt
  have hupper := ifxDays.toInt_lt
  obtain ⟨z, hz⟩ : ∃ z, z = ifxDays.toInt - unixEpochDay + 719468 := ⟨_, rfl⟩
  obtain ⟨century, cycle, rest, doy, hday⟩ := @exists_eraDay (z % 146097)
    (by omega) (by omega)
  have hcivil := @EraDay.civil _ _ _ _ _ (z / 146097) _ _ _ hday rfl rfl rfl
  rw [show z / 146097 * 146097 + z % 146097 - 719468 =
    ifxDays.toInt - unixEpochDay by omega] at hcivil
  simp only [wideYmd, ← hz, hday.dayOfEraYear]
  refine ⟨?_, ?_, hcivil⟩
  · rw [hday.yearOfEra]
    have := hday.century_nonneg
    have := hday.cycle_nonneg
    have := hday.rest_nonneg
    simp only [unixEpochDay] at hz
    split <;> omega
  · rw [hday.yearOfEra]
    have := hday.century_le
    have := hday.cycle_le
    have := hday.rest_le
    simp only [unixEpochDay] at hz
    split <;> omega

/-- The date that an `int32_t` day number stands for. -/
theorem daysToYmdIfx_civil (ifxDays : Int32) :
    ∃ year month day, daysToYmdIfx ifxDays =
        (Int32.ofInt year, Int32.ofInt month, Int32.ofInt day) ∧
      -6000000 ≤ year ∧ year ≤ 6000000 ∧
      Civil (ifxDays.toInt - unixEpochDay) year month day :=
  ⟨_, _, _, daysToYmdIfx_eq ifxDays, wideYmd_civil ifxDays⟩

/-! The years of the calendar. -/

/-- The days of the years 1 to 9999, counted from the Unix epoch. -/
def CivilSpan (days : Int) : Prop := -719162 ≤ days ∧ days ≤ 2932896

variable {days month day : Int}

theorem Civil.days_lt (hcivil : Civil days year month day) (hyear : year < 1) :
    days < -719162 := by
  obtain ⟨hmonth, hmonths, hday, hdays, -, rfl⟩ := hcivil
  by_cases hearly : month ≤ 2
  · rw [@ymdToDays_eq year month day (year - 1) (month + 12) (by omega)
      (by omega) hday hdays (if_pos hearly) (if_pos hearly)]
    omega
  · rw [@ymdToDays_eq year month day year month (by omega) (by omega) hday
      hdays (if_neg hearly) (if_neg hearly)]
    omega

/-- A date of the calendar, as the days before it count it. -/
theorem Civil.ordinal_eq (hcivil : Civil days year month day)
    (hyear : 1 ≤ year) :
    (CalendarDay.mk year.toNat month.toNat day.toNat).ordinal =
      days + 719162 := by
  obtain ⟨hmonth, hmonths, hday, hdays, -, hcount⟩ := hcivil
  have hordinal := @ymdToDays_ordinal ⟨year.toNat, month.toNat, day.toNat⟩
    (by simp only; omega) (by simp only; omega) (by simp only; omega)
    (by simp only; omega) (by simp only; omega)
  simp only [Int.toNat_of_nonneg (show 0 ≤ year by omega),
    Int.toNat_of_nonneg (show 0 ≤ month by omega),
    Int.toNat_of_nonneg (show 0 ≤ day by omega)] at hordinal
  omega

theorem Civil.valid (hcivil : Civil days year month day) (hyear : 1 ≤ year)
    (hyears : year ≤ 9999) :
    (CalendarDay.mk year.toNat month.toNat day.toNat).Valid := by
  have hday := hcivil.day_valid hyear
  obtain ⟨hmonth, hmonths, hpositive, hdays, -, -⟩ := hcivil
  refine ⟨?_, ?_, ?_, ?_, ?_, ?_⟩ <;> simp only [lastYear] <;> omega

theorem Civil.span_iff (hcivil : Civil days year month day) :
    (1 ≤ year ∧ year ≤ 9999) ↔ CivilSpan days := by
  have hlast : daysBeforeYear ((lastYear : Int) + 1) = 3652059 := rfl
  constructor
  · rintro ⟨hyear, hyears⟩
    have hordinal := hcivil.ordinal_eq hyear
    have hvalid := hcivil.valid hyear hyears
    have hnonneg := hvalid.ordinal_nonneg
    have hlt := hvalid.ordinal_lt_last
    unfold CivilSpan
    omega
  · rintro ⟨hlower, hupper⟩
    have hyear : 1 ≤ year := by
      by_contra hbefore
      have := hcivil.days_lt (by omega)
      omega
    refine ⟨hyear, ?_⟩
    by_contra hafter
    have hordinal := hcivil.ordinal_eq hyear
    have hmono := @daysBeforeYear_mono (lastYear + 1) year.toNat (by decide)
      (by simp only [lastYear]; omega)
    have hle := CalendarDay.daysBeforeYear_le_ordinal
      ⟨year.toNat, month.toNat, day.toNat⟩
    push_cast at hmono
    simp only at hle
    omega

/-- Two dates of one day are the same. -/
theorem Civil.unique (hcivil : Civil days year month day) {other : CalendarDay}
    (hvalid : other.Valid) (hdays : other.ordinal = days + 719162) :
    year = other.year ∧ month = other.month ∧ day = other.day := by
  have hlast : daysBeforeYear ((lastYear : Int) + 1) = 3652059 := rfl
  have hnonneg := hvalid.ordinal_nonneg
  have hlt := hvalid.ordinal_lt_last
  obtain ⟨hyear, hyears⟩ := hcivil.span_iff.mpr (by unfold CivilSpan; omega)
  have hsame := CalendarDay.ordinal_injective (hcivil.valid hyear hyears)
    hvalid ((hcivil.ordinal_eq hyear).trans hdays.symm)
  have hmonth := hcivil.month_pos
  have hday := hcivil.day_pos
  rw [← hsame]
  simp only
  omega

theorem toInt_ofInt_of_range {value : Int} (hlower : -2147483648 ≤ value)
    (hupper : value < 2147483648) : (Int32.ofInt value).toInt = value := by
  rw [Int32.toInt_ofInt_of_le (by omega) (by omega)]

/-! The three ways to count agree. -/

theorem daysToYmdIfx_date {date : Date} (hvalid : date.calendarDay.Valid) :
    daysToYmdIfx (Int32.ofInt date.days) =
      (date.year, Int32.ofNat date.month.toNat, Int32.ofNat date.day.toNat) := by
  obtain ⟨hlower, hupper⟩ := Date.days_range hvalid
  have hdays := Date.days_eq hvalid
  rw [show daysBeforeYear epochFollowingYear = 693595 from rfl] at hdays
  obtain ⟨year, month, day, hymd, -, -, hcivil⟩ :=
    daysToYmdIfx_civil (Int32.ofInt date.days)
  rw [toInt_ofInt_of_range (by omega) (by omega)] at hcivil
  obtain ⟨hyear, hmonth, hday⟩ := hcivil.unique hvalid
    (by simp only [unixEpochDay]; omega)
  have hpositive := hvalid.year_pos
  rw [hymd, hyear, hmonth, hday]
  simp only [Date.calendarDay, ← Int32.toNat_toInt] at hpositive ⊢
  rw [Int.toNat_of_nonneg (by omega), Int32.ofInt_toInt]
  rfl

theorem Date.days_ymdToDays {date : Date} (hvalid : date.calendarDay.Valid) :
    date.days = unixEpochDay +
      ymdToDays date.year.toInt date.month.toNat date.day.toNat := by
  have hdays := Date.days_eq hvalid
  rw [show daysBeforeYear epochFollowingYear = 693595 from rfl] at hdays
  have hcount := ymdToDays_ordinal hvalid.year_pos hvalid.month_pos
    hvalid.month_le hvalid.day_pos
    (hvalid.day_le.trans (monthDays_le _ _))
  have hpositive := hvalid.year_pos
  simp only [Date.calendarDay, ← Int32.toNat_toInt] at hcount hpositive
  rw [Int.toNat_of_nonneg (by omega)] at hcount
  rw [hcount, hdays]
  simp only [Date.calendarDay, ← Int32.toNat_toInt, unixEpochDay]
  omega

theorem calendars_agree :
    (∀ (date : Date) (capacity : Nat), date.isNull = false →
      date.validate = .ok → dateWireSize ≤ capacity →
      ∃ bytes, encodeDate date capacity = .ok bytes ∧
        payloadDays bytes = unixEpochDay +
          ymdToDays date.year.toInt date.month.toNat date.day.toNat ∧
        daysToYmdIfx (Int32.ofInt (payloadDays bytes)) =
          (date.year, Int32.ofNat date.month.toNat,
            Int32.ofNat date.day.toNat)) ∧
    (∀ days : Int32, -693594 ≤ days.toInt → days.toInt ≤ 2958464 →
      ∃ year month day, daysToYmdIfx days = (year, month, day) ∧
        unixEpochDay + ymdToDays year.toInt month.toInt day.toInt =
          days.toInt) ∧
    ∀ (bytes : List UInt8) (out date : Date),
      decodeDate bytes out = (.ok, date) → date.isNull = false →
      daysToYmdIfx (Int32.ofInt (payloadDays bytes)) =
        (date.year, Int32.ofNat date.month.toNat,
          Int32.ofNat date.day.toNat) := by
  refine ⟨?_, ?_, ?_⟩
  · intro date capacity hnull hvalidate hcapacity
    have hvalid := ((Date.validate_ok_iff date).mp hvalidate).resolve_left
      (by simp [hnull])
    refine ⟨_, encodeDate_ok hvalidate hcapacity, ?_, ?_⟩
    · rw [payloadDays_payload hnull hvalid]
      exact Date.days_ymdToDays hvalid
    · rw [payloadDays_payload hnull hvalid]
      exact daysToYmdIfx_date hvalid
  · intro days hlower hupper
    obtain ⟨year, month, day, hymd, hyear, hyears, hcivil⟩ :=
      daysToYmdIfx_civil days
    have hmonth := hcivil.month_pos
    have hmonths := hcivil.month_le
    have hday := hcivil.day_pos
    have hdays := hcivil.day_le
    refine ⟨_, _, _, hymd, ?_⟩
    rw [toInt_ofInt_of_range (by omega) (by omega),
      toInt_ofInt_of_range (by omega) (by omega),
      toInt_ofInt_of_range (by omega) (by omega), hcivil.days_eq]
    omega
  · intro bytes out date hdecode hnull
    obtain ⟨hvalidate, -, hbytes⟩ := payload_of_decodeDate hdecode
    have hvalid := ((Date.validate_ok_iff date).mp hvalidate).resolve_left
      (by simp [hnull])
    rw [← hbytes, payloadDays_payload hnull hvalid]
    exact daysToYmdIfx_date hvalid

theorem calendars_agree_leapDay :
    ∃ bytes, encodeDate ⟨1900, 2, 28, false⟩ 4 = .ok bytes ∧
      payloadDays bytes = unixEpochDay + ymdToDays 1900 2 28 ∧
      daysToYmdIfx (Int32.ofInt (payloadDays bytes)) = (1900, 2, 28) :=
  calendars_agree.1 ⟨1900, 2, 28, false⟩ 4 rfl (by decide) (by decide)

end Libsqli.Temporal
