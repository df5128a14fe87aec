import Libsqli.Bind.Epoch
import Libsqli.Temporal.Timestamp

namespace Libsqli.Bind

open Libsqli.Data.Ctype
open Libsqli.Data.Numeral
open Libsqli.Data.Radix
open Libsqli.Temporal

/-! The texts that timestamps are bound as. -/

variable {value lower upper fallback : Int32} {timestamp : Timestamp}

theorem digit_spec {digit : Nat} (hdigit : digit < 10) :
    digitValue (UInt8.ofNat (48 + digit)) = digit ∧
      isDigit (UInt8.ofNat (48 + digit)) = true := by
  have hall : ∀ digit : Fin 10, digitValue (UInt8.ofNat (48 + digit)) = digit ∧
      isDigit (UInt8.ofNat (48 + digit)) = true := by decide
  exact hall ⟨digit, hdigit⟩

theorem zeroPadded_spec (width number : Nat) :
    (zeroPadded width number).length = width ∧
      (zeroPadded width number).all isDigit = true ∧
      digitsValue (zeroPadded width number) = number % 10 ^ width := by
  have hdigits := toBigEndian_lt (by decide : 0 < 10) width number
  refine ⟨by simp [zeroPadded], ?_, ?_⟩
  · rw [List.all_eq_true]
    intro byte hbyte
    obtain ⟨digit, hdigit, rfl⟩ := List.mem_map.mp hbyte
    exact (digit_spec (hdigits digit hdigit)).2
  · have hvalues : (zeroPadded width number).map digitValue =
        toBigEndian 10 width number := by
      rw [zeroPadded, List.map_map]
      exact (List.map_congr_left fun digit hdigit =>
        (digit_spec (hdigits digit hdigit)).1).trans (List.map_id _)
    rw [digitsValue, hvalues, ofBigEndian_toBigEndian_mod]

theorem zeroPadded_injective {width left right : Nat}
    (hleft : left < 10 ^ width) (hright : right < 10 ^ width)
    (hsame : zeroPadded width left = zeroPadded width right) :
    left = right := by
  have hvalue := congrArg digitsValue hsame
  rwa [(zeroPadded_spec width left).2.2, (zeroPadded_spec width right).2.2,
    Nat.mod_eq_of_lt hleft, Nat.mod_eq_of_lt hright] at hvalue

/-- The seven numbers of a timestamp text. -/
structure Fields where
  year : Nat
  month : Nat
  day : Nat
  hour : Nat
  minute : Nat
  second : Nat
  microsecond : Nat

/-- The numbers have no more digits than the text has room for. -/
structure Fields.Printable (fields : Fields) : Prop where
  year : fields.year < 10 ^ 4
  month : fields.month < 10 ^ 2
  day : fields.day < 10 ^ 2
  hour : fields.hour < 10 ^ 2
  minute : fields.minute < 10 ^ 2
  second : fields.second < 10 ^ 2
  microsecond : fields.microsecond < 10 ^ 6

def Fields.digits (fields : Fields) : Temporal.Timestamp where
  year := zeroPadded 4 fields.year
  month := zeroPadded 2 fields.month
  day := zeroPadded 2 fields.day
  hour := zeroPadded 2 fields.hour
  minute := zeroPadded 2 fields.minute
  second := zeroPadded 2 fields.second
  fraction := zeroPadded 6 fields.microsecond

/-- `YYYY-MM-DD hh:mm:ss.ffffff` -/
def Fields.text (fields : Fields) : List UInt8 := fields.digits.text space

theorem Fields.text_eq (fields : Fields) :
    fields.text = zeroPadded 4 fields.year ++ minus ::
      (zeroPadded 2 fields.month ++ minus :: (zeroPadded 2 fields.day ++ space ::
        (zeroPadded 2 fields.hour ++ colon :: (zeroPadded 2 fields.minute ++
          colon :: (zeroPadded 2 fields.second ++ point ::
            zeroPadded 6 fields.microsecond))))) := by
  have hfraction : fields.digits.fraction ≠ [] := by
    intro hempty
    have hlength := (zeroPadded_spec 6 fields.microsecond).1
    rw [show zeroPadded 6 fields.microsecond = [] from hempty] at hlength
    cases hlength
  exact Temporal.Timestamp.text_nested space hfraction

theorem Fields.length_text (fields : Fields) : fields.text.length = 26 := by
  simp only [fields.text_eq, List.length_append, List.length_cons,
    (zeroPadded_spec _ _).1]

theorem zeroPadded_cons_injective {width left right : Nat} {byte : UInt8}
    {front rest : List UInt8} (hleft : left < 10 ^ width)
    (hright : right < 10 ^ width)
    (hsame : zeroPadded width left ++ byte :: front =
      zeroPadded width right ++ byte :: rest) :
    left = right ∧ front = rest := by
  obtain ⟨hnumber, hrest⟩ := List.append_inj hsame
    ((zeroPadded_spec width left).1.trans (zeroPadded_spec width right).1.symm)
  exact ⟨zeroPadded_injective hleft hright hnumber, (List.cons.inj hrest).2⟩

theorem Fields.text_injective {left right : Fields} (hleft : left.Printable)
    (hright : right.Printable) (hsame : left.text = right.text) :
    left = right := by
  rw [left.text_eq, right.text_eq] at hsame
  obtain ⟨hyear, hsame⟩ :=
    zeroPadded_cons_injective hleft.year hright.year hsame
  obtain ⟨hmonth, hsame⟩ :=
    zeroPadded_cons_injective hleft.month hright.month hsame
  obtain ⟨hday, hsame⟩ :=
    zeroPadded_cons_injective hleft.day hright.day hsame
  obtain ⟨hhour, hsame⟩ :=
    zeroPadded_cons_injective hleft.hour hright.hour hsame
  obtain ⟨hminute, hsame⟩ :=
    zeroPadded_cons_injective hleft.minute hright.minute hsame
  obtain ⟨hsecond, hsame⟩ :=
    zeroPadded_cons_injective hleft.second hright.second hsame
  have hmicrosecond :=
    zeroPadded_injective hleft.microsecond hright.microsecond hsame
  cases left
  cases right
  simp_all

/-- The numbers printed for a timestamp. -/
def Timestamp.printed (timestamp : Timestamp) : Fields where
  year := clampMember timestamp.year 1 9999 1970
  month := clampMember timestamp.month 1 12 1
  day := clampMember timestamp.day 1 31 1
  hour := clampMember timestamp.hour 0 23 0
  minute := clampMember timestamp.minute 0 59 0
  second := clampMember timestamp.second 0 59 0
  microsecond := clampMember timestamp.microsecond 0 999999 0

theorem Timestamp.text_printed (timestamp : Timestamp) :
    timestamp.text = timestamp.printed.text := by
  rw [Fields.text_eq]
  simp only [Timestamp.text, List.append_assoc, List.singleton_append]
  rfl

/-! Which members are printed as they are. -/

theorem clampMember_le (hfallback : fallback ≤ upper) :
    clampMember value lower upper fallback ≤ upper.toInt.toNat := by
  have hle : ∀ chosen : Int32, chosen ≤ upper →
      chosen.toNatClampNeg ≤ upper.toInt.toNat := by
    intro chosen hchosen
    rw [Int32.le_iff_toInt_le] at hchosen
    rw [← Int32.toNat_toInt]
    omega
  unfold clampMember
  split
  · next hinside => exact hle _ hinside.2
  · exact hle _ hfallback

theorem clampMember_eq_iff (hlower : 0 ≤ lower) (hfirst : lower ≤ fallback)
    (hlast : fallback ≤ upper) :
    value.toInt = clampMember value lower upper fallback ↔
      lower ≤ value ∧ value ≤ upper := by
  have hkept : ∀ chosen : Int32, lower ≤ chosen →
      (chosen.toNatClampNeg : Int) = chosen.toInt := by
    intro chosen hchosen
    have hnonneg := Int32.le_iff_toInt_le.mp (Int32.le_trans hlower hchosen)
    rw [← Int32.toNat_toInt]
    exact Int.toNat_of_nonneg hnonneg
  unfold clampMember
  by_cases hinside : lower ≤ value ∧ value ≤ upper
  · rw [if_pos hinside, hkept value hinside.1]
    exact iff_of_true rfl hinside
  · rw [if_neg hinside, hkept fallback hfirst, Int32.toInt_inj]
    refine iff_of_false ?_ hinside
    rintro rfl
    exact hinside ⟨hfirst, hlast⟩

/-- Every member is one that the binder prints. -/
structure Timestamp.InRanges (timestamp : Timestamp) : Prop where
  year : 1 ≤ timestamp.year ∧ timestamp.year ≤ 9999
  month : 1 ≤ timestamp.month ∧ timestamp.month ≤ 12
  day : 1 ≤ timestamp.day ∧ timestamp.day ≤ 31
  hour : 0 ≤ timestamp.hour ∧ timestamp.hour ≤ 23
  minute : 0 ≤ timestamp.minute ∧ timestamp.minute ≤ 59
  second : 0 ≤ timestamp.second ∧ timestamp.second ≤ 59
  microsecond : 0 ≤ timestamp.microsecond ∧ timestamp.microsecond ≤ 999999

/-- The members of a timestamp are these numbers. -/
structure Timestamp.Has (timestamp : Timestamp) (fields : Fields) : Prop where
  year : timestamp.year.toInt = fields.year
  month : timestamp.month.toInt = fields.month
  day : timestamp.day.toInt = fields.day
  hour : timestamp.hour.toInt = fields.hour
  minute : timestamp.minute.toInt = fields.minute
  second : timestamp.second.toInt = fields.second
  microsecond : timestamp.microsecond.toInt = fields.microsecond

/-- A text of exactly the members of a timestamp. -/
def Timestamp.SpelledBy (timestamp : Timestamp) (text : List UInt8) : Prop :=
  ∃ fields : Fields, fields.Printable ∧ timestamp.Has fields ∧
    fields.text = text

theorem Timestamp.printed_printable (timestamp : Timestamp) :
    timestamp.printed.Printable := by
  constructor <;>
    exact (clampMember_le (by decide)).trans_lt (by decide)

theorem Timestamp.has_printed_iff (timestamp : Timestamp) :
    timestamp.Has timestamp.printed ↔ timestamp.InRanges := by
  have hyear := @clampMember_eq_iff timestamp.year 1 9999 1970 (by decide)
    (by decide) (by decide)
  have hmonth := @clampMember_eq_iff timestamp.month 1 12 1 (by decide)
    (by decide) (by decide)
  have hday := @clampMember_eq_iff timestamp.day 1 31 1 (by decide)
    (by decide) (by decide)
  have hhour := @clampMember_eq_iff timestamp.hour 0 23 0 (by decide)
    (by decide) (by decide)
  have hminute := @clampMember_eq_iff timestamp.minute 0 59 0 (by decide)
    (by decide) (by decide)
  have hsecond := @clampMember_eq_iff timestamp.second 0 59 0 (by decide)
    (by decide) (by decide)
  have hmicrosecond := @clampMember_eq_iff timestamp.microsecond 0 999999 0
    (by decide) (by decide) (by decide)
  constructor
  · intro hhas
    exact ⟨hyear.mp hhas.year, hmonth.mp hhas.month, hday.mp hhas.day,
      hhour.mp hhas.hour, hminute.mp hhas.minute, hsecond.mp hhas.second,
      hmicrosecond.mp hhas.microsecond⟩
  · intro hranges
    exact ⟨hyear.mpr hranges.year, hmonth.mpr hranges.month,
      hday.mpr hranges.day, hhour.mpr hranges.hour,
      hminute.mpr hranges.minute, hsecond.mpr hranges.second,
      hmicrosecond.mpr hranges.microsecond⟩

theorem Timestamp.spelledBy_text_iff (timestamp : Timestamp) :
    timestamp.SpelledBy timestamp.text ↔ timestamp.InRanges := by
  rw [← timestamp.has_printed_iff, timestamp.text_printed]
  constructor
  · rintro ⟨fields, hprintable, hhas, htext⟩
    have hsame := Fields.text_injective hprintable timestamp.printed_printable
      htext
    rwa [← hsame]
  · intro hhas
    exact ⟨_, timestamp.printed_printable, hhas, rfl⟩

/-! The texts of moments. -/

def Moment.fields (moment : Moment) : Fields :=
  ⟨moment.date.year, moment.date.month, moment.date.day, moment.hour,
    moment.minute, moment.second, moment.microsecond⟩

/-- A text stands for an instant, given in microseconds from the epoch. -/
def Denotes (instant : Int) (text : List UInt8) : Prop :=
  ∃ moment : Moment, moment.fields.text = text ∧ moment.instant = instant

theorem Moment.timestamp_has (moment : Moment) :
    moment.timestamp.Has moment.fields := by
  obtain ⟨hyear, hmonth, hday⟩ := moment.fields_fit
  have hhour := moment.hour_lt
  have hminute := moment.minute_lt
  have hsecond := moment.second_lt
  have hmicrosecond := moment.microsecond_lt
  constructor <;>
    exact toInt_ofInt_of_range (by omega) (by omega)

theorem Moment.timestamp_inRanges (moment : Moment) :
    moment.timestamp.InRanges := by
  obtain ⟨hyears, hmonths, hdays⟩ := moment.fields_fit
  have hvalid := moment.date_valid
  have hyear := hvalid.year_pos
  have hmonth := hvalid.month_pos
  have hday := hvalid.day_pos
  have hhour := moment.hour_lt
  have hminute := moment.minute_lt
  have hsecond := moment.second_lt
  have hmicrosecond := moment.microsecond_lt
  have hhas := moment.timestamp_has
  have hinside : ∀ (member lower upper : Int32) (number : Nat),
      member.toInt = number → lower.toInt ≤ number → number ≤ upper.toInt →
      lower ≤ member ∧ member ≤ upper := by
    intro member lower upper number hmember hlower hupper
    rw [Int32.le_iff_toInt_le, Int32.le_iff_toInt_le, hmember]
    exact ⟨hlower, hupper⟩
  exact ⟨hinside _ 1 9999 _ hhas.year (Int.ofNat_le.mpr hyear)
      (Int.ofNat_le.mpr hyears),
    hinside _ 1 12 _ hhas.month (Int.ofNat_le.mpr hmonth)
      (Int.ofNat_le.mpr hmonths),
    hinside _ 1 31 _ hhas.day (Int.ofNat_le.mpr hday)
      (Int.ofNat_le.mpr hdays),
    hinside _ 0 23 _ hhas.hour (Int.natCast_nonneg _)
      (Int.ofNat_le.mpr (Nat.le_of_lt_succ hhour)),
    hinside _ 0 59 _ hhas.minute (Int.natCast_nonneg _)
      (Int.ofNat_le.mpr (Nat.le_of_lt_succ hminute)),
    hinside _ 0 59 _ hhas.second (Int.natCast_nonneg _)
      (Int.ofNat_le.mpr (Nat.le_of_lt_succ hsecond)),
    hinside _ 0 999999 _ hhas.microsecond (Int.natCast_nonneg _)
      (Int.ofNat_le.mpr (Nat.le_of_lt_succ hmicrosecond))⟩

/-- The numbers of a timestamp are determined. -/
theorem Timestamp.Has.unique {left right : Fields}
    (hleft : timestamp.Has left) (hright : timestamp.Has right) :
    left = right := by
  obtain ⟨hyear, hmonth, hday, hhour, hminute, hsecond, hmicrosecond⟩ := hleft
  obtain ⟨hyear', hmonth', hday', hhour', hminute', hsecond',
    hmicrosecond'⟩ := hright
  cases left
  cases right
  simp only at *
  congr 1 <;> omega

theorem Moment.timestamp_text (moment : Moment) :
    moment.timestamp.text = moment.fields.text := by
  have hprinted := moment.timestamp.has_printed_iff.mpr
    moment.timestamp_inRanges
  rw [Timestamp.text_printed, hprinted.unique moment.timestamp_has]

theorem Denotes.span {instant : Int} {text : List UInt8}
    (hdenotes : Denotes instant text) :
    CivilSpan (instant / 86400000000) := by
  obtain ⟨moment, -, rfl⟩ := hdenotes
  exact moment.instant_span

end Libsqli.Bind
