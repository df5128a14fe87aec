import Libsqli.Temporal.Calendar

namespace Libsqli.Temporal

open Libsqli.Data.Bytes

variable {date left right next : Date} {bytes : List UInt8} {days : Int}

/-! Valid DATE values are the days of the calendar and NULL. -/

def Date.calendarDay (date : Date) : CalendarDay :=
  ⟨date.year.toNatClampNeg, date.month.toNat, date.day.toNat⟩

theorem Date.validate_ok_iff (date : Date) :
    date.validate = .ok ↔ date.isNull = true ∨ date.calendarDay.Valid := by
  unfold Date.validate
  cases hnull : date.isNull with
  | true => simp
  | false =>
      have hyear : date.year < calendarFirstYear ∨
          calendarLastYear < date.year ↔
          date.year.toNatClampNeg < 1 ∨ 9999 < date.year.toNatClampNeg := by
        rw [← Int32.toNat_toInt]
        simp only [Int32.lt_iff_toInt_lt,
          show calendarFirstYear.toInt = 1 from rfl,
          show calendarLastYear.toInt = 9999 from rfl]
        omega
      simp only [Bool.false_eq_true, if_false, false_or, ← or_assoc, hyear,
        UInt8.lt_iff_toNat_lt, show (1 : UInt8).toNat = 1 from rfl,
        show monthsPerYear.toNat = 12 from rfl]
      constructor
      · intro hok
        split at hok
        · cases hok
        · rename_i hranges
          split at hok
          · rename_i hday
            simp only [not_or, Nat.not_lt] at hranges
            obtain ⟨⟨⟨⟨hfirst, hlast⟩, hmonth⟩, hmonths⟩, hone⟩ := hranges
            exact ⟨hfirst, hlast, hmonth, hmonths, hone, hday⟩
          · cases hok
      · rintro ⟨hfirst, hlast, hmonth, hmonths, hone, hday⟩
        simp only [Date.calendarDay, lastYear] at *
        rw [if_neg (by omega), if_pos hday]

/-- A valid date is determined by its day. -/
theorem Date.eq_of_calendarDay (hleft : left.isNull = false)
    (hright : right.isNull = false) (hvalid : left.calendarDay.Valid)
    (hsame : left.calendarDay = right.calendarDay) : left = right := by
  have hyear : left.year = right.year := by
    have hpositive := hvalid.year_pos
    have heq := congrArg CalendarDay.year hsame
    simp only [Date.calendarDay, ← Int32.toNat_toInt] at hpositive heq
    apply Int32.toInt_inj.mp
    omega
  have hmonth : left.month = right.month :=
    UInt8.toNat_inj.mp (congrArg CalendarDay.month hsame)
  have hday : left.day = right.day :=
    UInt8.toNat_inj.mp (congrArg CalendarDay.day hsame)
  cases left
  cases right
  simp_all

theorem Date.days_eq (hvalid : date.calendarDay.Valid) :
    date.days = date.calendarDay.ordinal -
      (daysBeforeYear epochFollowingYear - 1) := by
  have hyear : date.year.toInt = (date.year.toNatClampNeg : Int) := by
    have := hvalid.year_pos
    simp only [Date.calendarDay, ← Int32.toNat_toInt] at this ⊢
    omega
  have hday := hvalid.day_pos
  simp only [Date.calendarDay] at hday
  simp only [Date.days, CalendarDay.ordinal, Date.calendarDay, hyear,
    daysBeforeMonth]
  omega

/-! The four octets as a signed number of days. -/

def payloadDays (bytes : List UInt8) : Int := codeDays (natOfBytes bytes)

/-- The payload of NULL, read as a number. -/
def nullDays : Int := -2147483648

theorem codeDays_mod (hlow : -2147483648 ≤ days) (hhigh : days < 2147483648) :
    codeDays (days % 2 ^ 32).toNat = days := by
  unfold codeDays
  split <;> omega

theorem codeDays_injective (hleft : code < 2 ^ 32)
    (hright : other < 2 ^ 32) (hsame : codeDays code = codeDays other) :
    code = other := by
  unfold codeDays at hsame
  split at hsame <;> split at hsame <;> omega

theorem codeDays_null_iff (hcode : code < 2 ^ 32) :
    codeDays code = nullDays ↔ code = 0x80000000 := by
  unfold codeDays nullDays
  split <;> omega

theorem payload_lt (hlength : bytes.length = dateWireSize) :
    natOfBytes bytes < 2 ^ 32 := by
  have := natOfBytes_lt bytes
  rw [hlength] at this
  exact this

/-- Days of the calendar, counted as the payload counts them. -/
theorem Date.days_range (hvalid : date.calendarDay.Valid) :
    -693594 ≤ date.days ∧ date.days ≤ 2958464 := by
  have hnonneg := hvalid.ordinal_nonneg
  have hlast := hvalid.ordinal_lt_last
  rw [show daysBeforeYear ((lastYear : Int) + 1) = 3652059 from rfl] at hlast
  rw [Date.days_eq hvalid,
    show daysBeforeYear epochFollowingYear = 693595 from rfl]
  omega

def Date.payload (date : Date) : List UInt8 := bigEndian dateWireSize date.code

theorem encodeDate_ok (hvalid : date.validate = .ok)
    (hcapacity : dateWireSize ≤ capacity) :
    encodeDate date capacity = .ok date.payload := by
  rw [encodeDate, hvalid]
  simp only [if_neg (Nat.not_lt.mpr hcapacity), Date.payload]

theorem encodeDate_ok_iff :
    encodeDate date capacity = .ok bytes ↔ date.validate = .ok ∧
      dateWireSize ≤ capacity ∧ bytes = date.payload := by
  unfold encodeDate
  by_cases hcapacity : capacity < dateWireSize
  · have hsmall : ¬ dateWireSize ≤ capacity := Nat.not_le.mpr hcapacity
    cases date.validate <;> simp [hcapacity, hsmall]
  · have hlarge : dateWireSize ≤ capacity := Nat.le_of_not_lt hcapacity
    cases date.validate <;> simp [hcapacity, hlarge, Date.payload, eq_comm]

theorem Date.code_lt (date : Date) : date.code < 2 ^ 32 := by
  unfold Date.code
  split <;> omega

@[simp] theorem natOfBytes_payload (date : Date) :
    natOfBytes date.payload = date.code :=
  natOfBytes_bigEndian_of_lt date.code_lt

theorem payloadDays_payload (hnull : date.isNull = false)
    (hvalid : date.calendarDay.Valid) :
    payloadDays date.payload = date.days := by
  have hrange := Date.days_range hvalid
  simp only [payloadDays, natOfBytes_payload, Date.code, hnull,
    Bool.false_eq_true, if_false]
  exact codeDays_mod (by omega) (by omega)

theorem payloadDays_null (hnull : date.isNull = true) :
    payloadDays date.payload = nullDays := by
  rw [payloadDays, natOfBytes_payload, Date.code, if_pos hnull]
  rfl

/-! Decoding finds the day whose payload was given. -/

/-- The payloads of NULL and of the days from 1 January 1 to 31 December
9999. -/
def Accepted (bytes : List UInt8) : Prop :=
  bytes.length = dateWireSize ∧ (payloadDays bytes = nullDays ∨
    -693594 ≤ payloadDays bytes ∧ payloadDays bytes ≤ 2958464)

theorem set_calendarDay (day : CalendarDay) (hvalid : day.Valid)
    (out : Date) :
    ∃ date, Date.set day.year day.month day.day out = (.ok, date) ∧
      date.isNull = false ∧ date.calendarDay = day := by
  have hyear := hvalid.year_le
  have hmonth := hvalid.month_le
  have hday := hvalid.day_le.trans (monthDays_le day.month day.year)
  have hday_pos := hvalid.day_pos
  have hmonth_pos := hvalid.month_pos
  simp only [lastYear] at hyear
  have hsame : (Date.mk (Int32.ofInt day.year) (UInt8.ofNat day.month)
      (UInt8.ofNat day.day) false).calendarDay = day := by
    simp only [Date.calendarDay, Int32.ofInt_eq_ofNat]
    rw [Int32.toNatClampNeg_ofNat_of_lt (by omega),
      UInt8.toNat_ofNat_of_lt' (by simp only [UInt8.size]; omega),
      UInt8.toNat_ofNat_of_lt' (by simp only [UInt8.size]; omega)]
  refine ⟨_, ?_, rfl, hsame⟩
  have hok : (Date.mk (Int32.ofInt day.year) (UInt8.ofNat day.month)
      (UInt8.ofNat day.day) false).validate = .ok :=
    (Date.validate_ok_iff _).mpr (.inr (hsame.symm ▸ hvalid))
  rw [Date.set, if_neg (by omega)]
  simp only [Int.toNat_natCast, hok]

theorem decodeDate_rejected (hrejected : ¬ Accepted bytes) (out : Date) :
    decodeDate bytes out = (.protoError, out) := by
  unfold decodeDate
  by_cases hlength : bytes.length = dateWireSize
  · have hdays : payloadDays bytes ≠ nullDays ∧
        ¬ (-693594 ≤ payloadDays bytes ∧ payloadDays bytes ≤ 2958464) := by
      simpa [Accepted, hlength] using hrejected
    have hnull : natOfBytes bytes ≠ 0x80000000 := fun hcode =>
      hdays.1 ((codeDays_null_iff (payload_lt hlength)).mpr hcode)
    have hrange := hdays.2
    rw [payloadDays] at hrange
    rw [if_neg (by simpa using hlength), if_neg hnull]
    simp only [show daysBeforeYear epochFollowingYear = 693595 from rfl,
      show daysBeforeYear (calendarLastYear.toInt + 1) = 3652059 from rfl]
    rw [if_pos (by omega)]
  · rw [if_pos hlength]

theorem decodeDate_null (hlength : bytes.length = dateWireSize)
    (hnull : payloadDays bytes = nullDays) (out : Date) :
    decodeDate bytes out = (.ok, .null) := by
  rw [decodeDate, if_neg (by simpa using hlength),
    if_pos ((codeDays_null_iff (payload_lt hlength)).mp hnull)]

theorem decodeDate_day (hlength : bytes.length = dateWireSize)
    (hlow : -693594 ≤ payloadDays bytes) (hhigh : payloadDays bytes ≤ 2958464)
    (out : Date) :
    ∃ date, decodeDate bytes out = (.ok, date) ∧ date.isNull = false ∧
      date.calendarDay.Valid ∧ date.days = payloadDays bytes := by
  have hnull : natOfBytes bytes ≠ 0x80000000 := fun hcode => by
    have := (codeDays_null_iff (payload_lt hlength)).mpr hcode
    simp only [payloadDays, nullDays] at *
    omega
  rw [payloadDays] at hlow hhigh
  obtain ⟨hvalid, hordinal⟩ := @ordinalDay_spec
    (codeDays (natOfBytes bytes) + 693595 - 1) (by omega)
    (by rw [show daysBeforeYear ((lastYear : Int) + 1) = 3652059 from rfl]
        omega)
  obtain ⟨date, hset, hpresent, hday⟩ := set_calendarDay _ hvalid out
  have hyear : ((ordinalDay (codeDays (natOfBytes bytes) + 693595 - 1)).year :
      Int) = ordinalYear (codeDays (natOfBytes bytes) + 693595 - 1) := by
    have := hvalid.year_pos
    simp only [ordinalDay] at this ⊢
    omega
  refine ⟨date, ?_, hpresent, hday ▸ hvalid, ?_⟩
  · rw [decodeDate, if_neg (by simpa using hlength), if_neg hnull]
    simp only [show daysBeforeYear epochFollowingYear = 693595 from rfl,
      show daysBeforeYear (calendarLastYear.toInt + 1) = 3652059 from rfl]
    rw [if_neg (by omega), ← hset, hyear]
    rfl
  · rw [Date.days_eq (hday ▸ hvalid), hday, hordinal,
      show daysBeforeYear epochFollowingYear = 693595 from rfl, payloadDays]
    omega

theorem decodeDate_payload (hvalid : date.validate = .ok) (out : Date) :
    decodeDate date.payload out =
      (.ok, if date.isNull then .null else date) := by
  have hlength : date.payload.length = dateWireSize := length_bigEndian _ _
  rcases (Date.validate_ok_iff date).mp hvalid with hnull | hday
  · rw [if_pos hnull, decodeDate_null hlength (payloadDays_null hnull)]
  · cases hnull : date.isNull with
    | true =>
        rw [if_pos rfl, decodeDate_null hlength (payloadDays_null hnull)]
    | false =>
        have hdays := payloadDays_payload hnull hday
        have hrange := Date.days_range hday
        obtain ⟨other, hdecode, hother, hotherDay, hsame⟩ :=
          decodeDate_day hlength (by omega) (by omega) out
        rw [hdays, Date.days_eq hday, Date.days_eq hotherDay] at hsame
        have hequal : other = date :=
          Date.eq_of_calendarDay hother hnull hotherDay
            (CalendarDay.ordinal_injective hotherDay hday (by omega))
        rw [hdecode, hequal, if_neg (by decide)]

theorem payload_of_decodeDate (hdecode : decodeDate bytes out = (.ok, date)) :
    date.validate = .ok ∧ (date.isNull = true → date = .null) ∧
      date.payload = bytes := by
  have haccepted : Accepted bytes := by
    by_contra hrejected
    rw [decodeDate_rejected hrejected] at hdecode
    cases hdecode
  obtain ⟨hlength, hdays⟩ := haccepted
  have hbytes : bigEndian dateWireSize (natOfBytes bytes) = bytes :=
    hlength ▸ bigEndian_natOfBytes bytes
  have hcode : ∀ {other : Date}, payloadDays other.payload =
      payloadDays bytes → other.payload = bytes := by
    intro other hsame
    rw [payloadDays, payloadDays, natOfBytes_payload] at hsame
    rw [Date.payload, codeDays_injective other.code_lt (payload_lt hlength)
      hsame, hbytes]
  rcases hdays with hnull | ⟨hlow, hhigh⟩
  · rw [decodeDate_null hlength hnull] at hdecode
    cases hdecode
    exact ⟨rfl, fun _ => rfl, hcode ((payloadDays_null rfl).trans hnull.symm)⟩
  · obtain ⟨other, hother, hpresent, hvalid, hsame⟩ :=
      decodeDate_day hlength hlow hhigh out
    rw [hdecode] at hother
    cases hother
    exact ⟨(Date.validate_ok_iff date).mpr (.inr hvalid),
      fun hnull => absurd hnull (by simp [hpresent]),
      hcode ((payloadDays_payload hpresent hvalid).trans hsame)⟩

/-- Valid dates and accepted payloads correspond one to one and in order. -/
theorem dateCodec_orderIso :
    (∀ date : Date, date.validate = .ok ↔
      date.isNull = true ∨ date.calendarDay.Valid) ∧
    (∀ (date out : Date) (capacity : Nat), date.validate = .ok →
      dateWireSize ≤ capacity →
      ∃ bytes, encodeDate date capacity = .ok bytes ∧
        decodeDate bytes out =
          (.ok, if date.isNull then Date.null else date)) ∧
    (∀ (bytes : List UInt8) (out date : Date) (capacity : Nat),
      decodeDate bytes out = (.ok, date) → dateWireSize ≤ capacity →
      date.validate = .ok ∧ (date.isNull = true → date = Date.null) ∧
        encodeDate date capacity = .ok bytes) ∧
    (∀ (date next : Date) (bytes following : List UInt8) (capacity : Nat),
      date.isNull = false → next.isNull = false →
      date.calendarDay.next = next.calendarDay →
      encodeDate date capacity = .ok bytes →
      encodeDate next capacity = .ok following →
      payloadDays following = payloadDays bytes + 1) ∧
    (∀ (left right : Date) (lower upper : List UInt8) (capacity : Nat),
      left.isNull = false → right.isNull = false →
      encodeDate left capacity = .ok lower →
      encodeDate right capacity = .ok upper →
      (left.calendarDay.Before right.calendarDay ↔
        payloadDays lower < payloadDays upper)) ∧
    (∀ ordinal : Int, 0 ≤ ordinal →
      ordinal < daysBeforeYear ((lastYear : Int) + 1) →
      (∀ extra, searchYear ordinal (9998 + extra) calendarFirstYear.toInt
        calendarLastYear.toInt = ordinalYear ordinal) ∧
      ∀ year : Nat, 1 ≤ year → ((year : Int) = ordinalYear ordinal ↔
        daysBeforeYear year ≤ ordinal ∧
          ordinal < daysBeforeYear ((year : Int) + 1))) ∧
    ∀ (bytes : List UInt8) (out : Date),
      (¬ Accepted bytes → decodeDate bytes out = (.protoError, out)) ∧
      (Accepted bytes → (decodeDate bytes out).1 = .ok) := by
  refine ⟨Date.validate_ok_iff, ?_, ?_, ?_, ?_, ?_, ?_⟩
  · intro date out capacity hvalid hcapacity
    exact ⟨_, encodeDate_ok hvalid hcapacity, decodeDate_payload hvalid out⟩
  · intro bytes out date capacity hdecode hcapacity
    obtain ⟨hvalid, hnull, hbytes⟩ := payload_of_decodeDate hdecode
    exact ⟨hvalid, hnull, hbytes ▸ encodeDate_ok hvalid hcapacity⟩
  · intro date next bytes following capacity hdate hnext hday hencode hfollowing
    obtain ⟨hvalid, -, rfl⟩ := encodeDate_ok_iff.mp hencode
    obtain ⟨hvalidNext, -, rfl⟩ := encodeDate_ok_iff.mp hfollowing
    have hfirst := ((Date.validate_ok_iff date).mp hvalid).resolve_left
      (by simp [hdate])
    have hsecond := ((Date.validate_ok_iff next).mp hvalidNext).resolve_left
      (by simp [hnext])
    rw [payloadDays_payload hdate hfirst, payloadDays_payload hnext hsecond,
      Date.days_eq hfirst, Date.days_eq hsecond, ← hday,
      CalendarDay.ordinal_next hfirst]
    omega
  · intro left right lower upper capacity hleft hright hlower hupper
    obtain ⟨hvalid, -, rfl⟩ := encodeDate_ok_iff.mp hlower
    obtain ⟨hvalidRight, -, rfl⟩ := encodeDate_ok_iff.mp hupper
    have hfirst := ((Date.validate_ok_iff left).mp hvalid).resolve_left
      (by simp [hleft])
    have hsecond := ((Date.validate_ok_iff right).mp hvalidRight).resolve_left
      (by simp [hright])
    rw [payloadDays_payload hleft hfirst, payloadDays_payload hright hsecond,
      Date.days_eq hfirst, Date.days_eq hsecond,
      ← CalendarDay.ordinal_lt_iff hfirst hsecond]
    omega
  · intro ordinal hnonneg hlast
    obtain ⟨hfirst, -, hlow, hhigh⟩ := ordinalYear_spec hnonneg hlast
    refine ⟨searchYear_ended (by decide), fun year hyear => ⟨?_, ?_⟩⟩
    · intro heq
      rw [heq]
      exact ⟨hlow, hhigh⟩
    · rintro ⟨hlowYear, hhighYear⟩
      obtain ⟨found, hfound⟩ := Int.eq_ofNat_of_zero_le
        (show 0 ≤ ordinalYear ordinal by omega)
      rw [hfound] at hfirst hlow hhigh ⊢
      exact congrArg Nat.cast (containingYear_unique hyear (by omega) hlowYear
        hhighYear hlow hhigh)
  · intro bytes out
    refine ⟨fun hrejected => decodeDate_rejected hrejected out, ?_⟩
    rintro ⟨hlength, hnull | ⟨hlow, hhigh⟩⟩
    · rw [decodeDate_null hlength hnull]
    · obtain ⟨date, hdecode, -⟩ := decodeDate_day hlength hlow hhigh out
      rw [hdecode]

theorem dateCodec_orderIso_leapDay :
    payloadDays (Date.mk 2000 3 1 false).payload =
      payloadDays (Date.mk 2000 2 29 false).payload + 1 :=
  dateCodec_orderIso.2.2.2.1 ⟨2000, 2, 29, false⟩ ⟨2000, 3, 1, false⟩ _ _ 4
    rfl rfl (by decide) (encodeDate_ok (by decide) (by decide))
    (encodeDate_ok (by decide) (by decide))

end Libsqli.Temporal
