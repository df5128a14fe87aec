import Libsqli.Result.Timestamps

namespace Libsqli.Result

open Layout
open Libsqli.Bind
open Libsqli.Data.Numeral
open Libsqli.Temporal (CivilSpan)

/-! Epoch counts, and the texts they are bound as, read back. -/

/-- A character column of a fetched row holds a text, perhaps with spaces behind
it, and the character set of the connection leaves ASCII alone. -/
structure Holds (setting : Setting) (options : TextOptions) (result : Result)
    (index : Nat) (text : List UInt8) : Prop where
  shown : ∃ tuple located, RowShown setting result tuple located
  column : ∃ (column : Column) (pad : Nat),
    isStringyType column.type = true ∧
      currentSpan setting result index =
        .ok (column, text ++ List.replicate pad 32)
  ascii : options.KeepsAscii

/-- From every such column the text is read as a timestamp, once the string getter
has its buffers. -/
def ReadsAs (text : List UInt8) (timestamp : Bind.Timestamp) : Prop :=
  ∀ setting options result index, Holds setting options result index text →
    ∀ calloc base services out, ∃ after,
      getTimestamp calloc true base setting services options result index out =
        some ((.ok, timestamp), after)

variable {moment : Moment} {fields : Fields} {timestamp : Bind.Timestamp}
  {malloc : Nat → Bool} {stmt after : Statement} {index : Nat}
  {param : BoundParam} {text : List UInt8}

theorem digits_written (fields : Fields) : Written fields.digits := by
  refine ⟨fun digits hmember => ?_, (zeroPadded_spec _ _).1,
    (zeroPadded_spec _ _).1, (zeroPadded_spec _ _).1, (zeroPadded_spec _ _).1,
    (zeroPadded_spec _ _).1, (zeroPadded_spec _ _).1, fun hempty => ?_⟩
  · simp only [Fields.digits, List.mem_cons, List.not_mem_nil, or_false]
      at hmember
    rcases hmember with rfl | rfl | rfl | rfl | rfl | rfl | rfl <;>
      exact (zeroPadded_spec _ _).2.1
  · have hlength := (zeroPadded_spec 6 fields.microsecond).1
    rw [show zeroPadded 6 fields.microsecond = [] from hempty] at hlength
    cases hlength

/-- What was printed is read back. -/
theorem writtenFields_moment (moment : Moment) :
    writtenFields moment.fields.digits
        (sixDigits moment.fields.digits.fraction) = moment.timestamp := by
  obtain ⟨hyear, hmonth, hday⟩ := moment.fields_fit
  have hhour := moment.hour_lt
  have hminute := moment.minute_lt
  have hsecond := moment.second_lt
  have hmicrosecond := moment.microsecond_lt
  have hvalue : ∀ width number : Nat, number < 10 ^ width →
      digitsValue (zeroPadded width number) = number := by
    intro width number hnumber
    rw [(zeroPadded_spec width number).2.2, Nat.mod_eq_of_lt hnumber]
  have hsix : sixDigits (zeroPadded 6 moment.microsecond) =
      moment.microsecond := by
    have hlength := (zeroPadded_spec 6 moment.microsecond).1
    rw [sixDigits, List.take_of_length_le hlength.le, hlength,
      hvalue 6 _ (by omega)]
    exact Nat.mul_one _
  simp only [writtenFields, Moment.timestamp, Moment.fields, Fields.digits]
  rw [hvalue 4 _ (by omega), hvalue 2 _ (by omega), hvalue 2 _ (by omega),
    hvalue 2 _ (by omega), hvalue 2 _ (by omega), hvalue 2 _ (by omega), hsix]

theorem moment_readsAs (moment : Moment) :
    ReadsAs moment.fields.text moment.timestamp := by
  intro setting options result index hholds calloc base services out
  obtain ⟨tuple, located, hshown⟩ := hholds.shown
  obtain ⟨column, pad, hstringy, hspan⟩ := hholds.column
  have hwritten := digits_written moment.fields
  obtain ⟨spaces, hread⟩ := @getTimestamp_written result setting services
    options tuple located index base pad column calloc true _ hshown hwritten
    hstringy hholds.ascii hspan
  have hlength := (zeroPadded_spec 6 moment.fields.microsecond).1
  have hcut : cutFraction moment.fields.digits = moment.fields.digits := by
    have htake : moment.fields.digits.fraction.take 4075 =
        moment.fields.digits.fraction :=
      List.take_of_length_le (hlength.le.trans (by decide))
    rw [cutFraction, htake]
  have htext := (textTimestamp_keeps_iff hwritten (ends_spaces spaces)).mpr
    (.inl hlength.le)
  rw [hread, if_neg Bool.true_eq_false_eq_False, hcut, htext, writtenFields_moment]
  exact ⟨_, rfl⟩

/-- The text that a binder of timestamps stores. -/
theorem bound_text (hpresent : timestamp.isNull = false)
    (hbind : stmt.bindTimestamp malloc index (some timestamp) = (.ok, after))
    (hparam : after.params[index]? = some param)
    (hsval : param.sval = some text) : text = timestamp.text := by
  have hbinds := (@binds_iff malloc stmt index timestamp (· = timestamp.text)
    hpresent).mpr (.inl rfl)
  rw [hbind] at hbinds
  generalize hreturned : (Status.ok, after) = returned at hbinds
  cases hbinds with
  | failed status hstatus =>
      exact absurd (congrArg Prod.fst hreturned).symm hstatus
  | bound other found hindex _ _ hfound hwanted =>
      have hafter : after = stmt.setParam index other :=
        congrArg Prod.snd hreturned
      rw [hafter, Statement.setParam, List.getElem?_set_self hindex] at hparam
      cases hparam
      rw [hsval] at hfound
      exact (Option.some.inj hfound).trans hwanted

/-- A timestamp is a time of the calendar, that of an instant, and what the binder
stores for it is read back as it. -/
structure RoundTrips (timestamp : Bind.Timestamp) (instant : Int)
    (bind : (Nat → Bool) → Statement → Nat → Status × Statement) : Prop where
  calendar : ∃ moment : Moment, timestamp = moment.timestamp ∧
    moment.instant = instant
  text : ∀ malloc stmt index after param text,
    bind malloc stmt index = (.ok, after) →
    after.params[index]? = some param → param.sval = some text →
    ReadsAs text timestamp

theorem roundTrips_of_moment {instant : Int}
    (hmoment : ∃ moment : Moment, timestamp = moment.timestamp ∧
      moment.instant = instant) :
    RoundTrips timestamp instant fun malloc stmt index =>
      stmt.bindTimestamp malloc index (some timestamp) := by
  refine ⟨hmoment, ?_⟩
  obtain ⟨moment, rfl, -⟩ := hmoment
  intro malloc stmt index after param text hbind hparam hsval
  rw [bound_text rfl hbind hparam hsval, moment.timestamp_text]
  exact moment_readsAs moment

/-- The counts of the years 1 to 9999 come back from the timestamps made of them,
and the timestamps from the texts they are bound as. -/
theorem epochs_roundTrip :
    (∀ sec : Int64, CivilSpan (sec.toInt / 86400) →
      (fromEpochSec sec).toEpochSec = sec.toInt ∧
        RoundTrips (fromEpochSec sec) (sec.toInt * 1000000)
          fun malloc stmt index => stmt.bindEpochSec malloc index sec) ∧
    (∀ ms : Int64, CivilSpan (ms.toInt / 86400000) →
      (fromEpochMs ms).toEpochMs = ms.toInt ∧
        RoundTrips (fromEpochMs ms) (ms.toInt * 1000)
          fun malloc stmt index => stmt.bindEpochMs malloc index ms) ∧
    ∀ days : Int32, CivilSpan days.toInt →
      (fromEpochDays days).toEpochDays = days ∧
        RoundTrips (fromEpochDays days) (days.toInt * 86400000000)
          fun malloc stmt index => stmt.bindEpochDays malloc index days := by
  refine ⟨fun sec hspan => ?_, fun ms hspan => ?_, fun days hspan => ?_⟩
  · refine ⟨?_, roundTrips_of_moment (fromEpochSec_moment hspan)⟩
    obtain ⟨moment, hmoment, hinstant⟩ := fromEpochSec_moment hspan
    rw [hmoment, moment.toEpochSec, hinstant]
    omega
  · refine ⟨?_, roundTrips_of_moment (fromEpochMs_moment hspan)⟩
    obtain ⟨moment, hmoment, hinstant⟩ := fromEpochMs_moment hspan
    rw [hmoment, moment.toEpochMs, hinstant]
    omega
  · refine ⟨?_, roundTrips_of_moment (fromEpochDays_moment hspan)⟩
    obtain ⟨moment, hmoment, hinstant⟩ := fromEpochDays_moment hspan
    rw [hmoment, ← Int32.toInt_inj, moment.toEpochDays, hinstant]
    omega

end Libsqli.Result
