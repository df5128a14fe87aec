import Libsqli.Bind.Instants

namespace Libsqli.Bind

open Libsqli.Temporal

/-! When a bound text is the instant or the timestamp that was given. -/

/-- `sqli_bind_timestamp` -/
def Statement.bindTimestamp (malloc : Nat → Bool) (stmt : Statement)
    (index : Nat) (value : Option Timestamp) : Status × Statement :=
  stmt.bind malloc index (.timestamp value)

/-- `sqli_bind_epoch_sec` -/
def Statement.bindEpochSec (malloc : Nat → Bool) (stmt : Statement)
    (index : Nat) (sec : Int64) : Status × Statement :=
  stmt.bindTimestamp malloc index (some (fromEpochSec sec))

/-- `sqli_bind_epoch_ms` -/
def Statement.bindEpochMs (malloc : Nat → Bool) (stmt : Statement)
    (index : Nat) (ms : Int64) : Status × Statement :=
  stmt.bindTimestamp malloc index (some (fromEpochMs ms))

/-- `sqli_bind_epoch_days` -/
def Statement.bindEpochDays (malloc : Nat → Bool) (stmt : Statement)
    (index : Nat) (days : Int32) : Status × Statement :=
  stmt.bindTimestamp malloc index (some (fromEpochDays days))

/-- A call fails and leaves the statement alone, or binds a text as wanted. -/
inductive Binds (wanted : List UInt8 → Prop) (stmt : Statement)
    (index : Nat) : Status × Statement → Prop
  | failed (status : Status) (hstatus : status ≠ .ok) :
      Binds wanted stmt index (status, stmt)
  | bound (param : BoundParam) (text : List UInt8)
      (hindex : index < stmt.params.length) (htype : param.type = .string)
      (hnull : param.isNull = false) (hsval : param.sval = some text)
      (hwanted : wanted text) :
      Binds wanted stmt index (.ok, stmt.setParam index param)

/-- There is no such parameter, or no memory for the text of 26 characters. -/
def Unbindable (malloc : Nat → Bool) (stmt : Statement) (index : Nat) : Prop :=
  stmt.params.length ≤ index ∨ malloc 27 = false

/-! What the calls store as `int`s on the way. -/

/-- An `int` holds the value. -/
def Fits (value : Int) : Prop := -2147483648 ≤ value ∧ value < 2147483648

/-- The day number, that from the other epoch and the date. -/
def dayInts (day : Int) : List Int :=
  let narrowed := Int32.ofInt day
  let date := wideYmd (narrowed + Int32.ofInt unixEpochDay)
  [day, narrowed.toInt + unixEpochDay, date.1, date.2.1, date.2.2]

def secInts (sec : Int) : List Int :=
  let split := floorSplit sec 86400
  dayInts split.1 ++ [split.2.tdiv 3600, (split.2.tmod 3600).tdiv 60,
    (split.2.tmod 3600).tmod 60]

def msInts (ms : Int) : List Int :=
  let split := floorSplit ms 1000
  secInts split.1 ++ [split.2 * 1000]

/-- The day number stays an `int` when it is counted from 1899. -/
def Shiftable (day : Int) : Prop :=
  -2147483648 ≤ day ∧ day + unixEpochDay < 2147483648

variable {malloc : Nat → Bool} {stmt : Statement} {index : Nat}
  {timestamp : Timestamp} {wanted : List UInt8 → Prop} {day : Int}

theorem shiftable_of_span (hspan : CivilSpan day) : Shiftable day := by
  obtain ⟨hlower, hupper⟩ := hspan
  simp only [Shiftable, unixEpochDay]
  omega

theorem fits_dayInts_iff :
    (∀ value ∈ dayInts day, Fits value) ↔ Shiftable day := by
  have hcivil := wideYmd_civil (Int32.ofInt day + Int32.ofInt unixEpochDay)
  simp only [dayInts, List.forall_mem_cons, List.not_mem_nil, false_imp_iff,
    implies_true, and_true]
  generalize wideYmd (Int32.ofInt day + Int32.ofInt unixEpochDay) = date
    at hcivil ⊢
  obtain ⟨hlower, hupper, hcivil⟩ := hcivil
  have hmonth := hcivil.month_pos
  have hmonths := hcivil.month_le
  have hday := hcivil.day_pos
  have hdays := hcivil.day_le
  simp only [Fits, Shiftable, unixEpochDay]
  constructor
  · rintro ⟨⟨hday, hdayUpper⟩, ⟨-, hshift⟩, -⟩
    rw [toInt_ofInt_of_range hday hdayUpper] at hshift
    exact ⟨hday, hshift⟩
  · rintro ⟨hdayLower, hshift⟩
    rw [toInt_ofInt_of_range hdayLower (by omega)]
    omega

/-- Of the `int`s of a count of seconds only those of its day can overflow. -/
theorem fits_secInts_iff (sec : Int) :
    (∀ value ∈ secInts sec, Fits value) ↔ Shiftable (sec / 86400) := by
  rw [secInts, floorSplit_eq (by decide), List.forall_mem_append,
    fits_dayInts_iff]
  refine and_iff_left ?_
  have hlower := Int.emod_nonneg sec (by decide : (86400 : Int) ≠ 0)
  have hupper := Int.emod_lt_of_pos sec (by decide : (0 : Int) < 86400)
  rw [Int.tdiv_eq_ediv_of_nonneg hlower, Int.tmod_eq_emod_of_nonneg hlower,
    Int.tdiv_eq_ediv_of_nonneg (by omega),
    Int.tmod_eq_emod_of_nonneg (by omega)]
  simp only [List.forall_mem_cons, List.not_mem_nil, false_imp_iff,
    implies_true, and_true, Fits]
  omega

theorem fits_msInts_iff (ms : Int) :
    (∀ value ∈ msInts ms, Fits value) ↔ Shiftable (ms / 86400000) := by
  rw [msInts, floorSplit_eq (by decide), List.forall_mem_append,
    fits_secInts_iff, show ms / 1000 / 86400 = ms / 86400000 by omega]
  refine and_iff_left ?_
  simp only [List.forall_mem_cons, List.not_mem_nil, false_imp_iff,
    implies_true, and_true, Fits]
  omega

/-! What a timestamp binds. -/

theorem bindTimestamp_eq (hpresent : timestamp.isNull = false)
    (hindex : index < stmt.params.length) :
    stmt.bindTimestamp malloc index (some timestamp) =
      if malloc 27 then (.ok, stmt.setParam index
        { stmt.params[index].release with
          sval := some timestamp.text, type := .string })
      else (.allocFail, stmt) := by
  have hlength : timestamp.text.length + 1 = 27 := by
    rw [timestamp.text_printed, Fields.length_text]
  have hsame : stmt.setParam index stmt.params[index] = stmt := by
    rw [Statement.setParam, List.set_getElem_self]
  simp only [Statement.bindTimestamp, Statement.bind, BindCall.precheck,
    List.getElem?_eq_getElem hindex, BindCall.apply, Bind.bindTimestamp,
    hpresent, setParamString, hlength]
  cases malloc 27 with
  | true => rfl
  | false =>
      simp only [Bool.false_eq_true, if_false]
      rw [hsame]

theorem binds_ok_iff {param : BoundParam} {text : List UInt8}
    (hindex : index < stmt.params.length) (htype : param.type = .string)
    (hnull : param.isNull = false) (hsval : param.sval = some text) :
    Binds wanted stmt index (.ok, stmt.setParam index param) ↔
      wanted text := by
  constructor
  · intro hbinds
    generalize hreturned : (Status.ok, stmt.setParam index param) = returned
      at hbinds
    cases hbinds with
    | failed status hstatus =>
        exact absurd (congrArg Prod.fst hreturned).symm hstatus
    | bound other found _ _ _ hfound hwanted =>
        have hparams := congrArg (fun stmt : Statement => stmt.params[index]?)
          (congrArg Prod.snd hreturned)
        simp only [Statement.setParam, List.getElem?_set_self hindex,
          Option.some.injEq] at hparams
        rw [← hparams, hsval] at hfound
        rwa [Option.some.inj hfound]
  · exact fun hwanted => .bound _ _ hindex htype hnull hsval hwanted

theorem binds_iff (hpresent : timestamp.isNull = false) :
    Binds wanted stmt index
        (stmt.bindTimestamp malloc index (some timestamp)) ↔
      wanted timestamp.text ∨ Unbindable malloc stmt index := by
  by_cases hindex : index < stmt.params.length
  · rw [bindTimestamp_eq hpresent hindex]
    cases hmalloc : malloc 27 with
    | true =>
        rw [if_pos rfl, or_iff_left (by simp [Unbindable, hmalloc, hindex])]
        exact binds_ok_iff hindex rfl rfl rfl
    | false =>
        rw [if_neg nofun]
        exact iff_of_true (.failed _ nofun) (.inr (.inr hmalloc))
  · have hnone : stmt.bindTimestamp malloc index (some timestamp) =
        (.outOfRange, stmt) := by
      simp only [Statement.bindTimestamp, Statement.bind, BindCall.precheck,
        List.getElem?_eq_none (Nat.not_lt.mp hindex)]
    rw [hnone]
    exact iff_of_true (.failed _ nofun) (.inr (.inl (Nat.not_lt.mp hindex)))

/-! Epoch counts. -/

/-- A count stands for its instant exactly if its day is in the years that the
binder prints. -/
theorem denotes_text_iff {instant : Int}
    (hmoment : CivilSpan (instant / 86400000000) →
      ∃ moment : Moment, timestamp = moment.timestamp ∧
        moment.instant = instant) :
    Denotes instant timestamp.text ↔ CivilSpan (instant / 86400000000) := by
  constructor
  · exact Denotes.span
  · intro hspan
    obtain ⟨moment, rfl, hinstant⟩ := hmoment hspan
    exact ⟨moment, moment.timestamp_text.symm, hinstant⟩

/-- The part of a count that is about what is stored on the way. -/
theorem exact_iff {fits denotes unbindable : Prop} (hfits : fits ↔ Shiftable day)
    (hdenotes : denotes ↔ CivilSpan day) :
    fits ∧ (denotes ∨ unbindable) ↔
      CivilSpan day ∨ Shiftable day ∧ unbindable := by
  rw [hfits, hdenotes]
  constructor
  · rintro ⟨hshiftable, hspan | hunbindable⟩
    · exact .inl hspan
    · exact .inr ⟨hshiftable, hunbindable⟩
  · rintro (hspan | ⟨hshiftable, hunbindable⟩)
    · exact ⟨shiftable_of_span hspan, .inl hspan⟩
    · exact ⟨hshiftable, .inr hunbindable⟩

theorem bindEpochSec_iff (sec : Int64) :
    ((∀ value ∈ secInts sec.toInt, Fits value) ∧
        Binds (Denotes (sec.toInt * 1000000)) stmt index
          (stmt.bindEpochSec malloc index sec)) ↔
      CivilSpan (sec.toInt / 86400) ∨
        Shiftable (sec.toInt / 86400) ∧ Unbindable malloc stmt index := by
  have hday : sec.toInt * 1000000 / 86400000000 = sec.toInt / 86400 := by omega
  rw [Statement.bindEpochSec, binds_iff rfl]
  refine exact_iff (fits_secInts_iff _) ?_
  rw [denotes_text_iff, hday]
  rw [hday]
  exact fromEpochSec_moment

theorem bindEpochMs_iff (ms : Int64) :
    ((∀ value ∈ msInts ms.toInt, Fits value) ∧
        Binds (Denotes (ms.toInt * 1000)) stmt index
          (stmt.bindEpochMs malloc index ms)) ↔
      CivilSpan (ms.toInt / 86400000) ∨
        Shiftable (ms.toInt / 86400000) ∧ Unbindable malloc stmt index := by
  have hday : ms.toInt * 1000 / 86400000000 = ms.toInt / 86400000 := by omega
  rw [Statement.bindEpochMs, binds_iff rfl]
  refine exact_iff (fits_msInts_iff _) ?_
  rw [denotes_text_iff, hday]
  rw [hday]
  exact fromEpochMs_moment

theorem bindEpochDays_iff (days : Int32) :
    ((∀ value ∈ dayInts days.toInt, Fits value) ∧
        Binds (Denotes (days.toInt * 86400000000)) stmt index
          (stmt.bindEpochDays malloc index days)) ↔
      CivilSpan days.toInt ∨
        Shiftable days.toInt ∧ Unbindable malloc stmt index := by
  have hday : days.toInt * 86400000000 / 86400000000 = days.toInt := by omega
  rw [Statement.bindEpochDays, binds_iff rfl]
  refine exact_iff fits_dayInts_iff ?_
  rw [denotes_text_iff, hday]
  rw [hday]
  exact fromEpochDays_moment

/-- When the calls bind what they are given, without an overflow on the way. -/
theorem epochBinds_exact_iff (malloc : Nat → Bool) (stmt : Statement)
    (index : Nat) :
    (∀ sec : Int64, ((∀ value ∈ secInts sec.toInt, Fits value) ∧
        Binds (Denotes (sec.toInt * 1000000)) stmt index
          (stmt.bindEpochSec malloc index sec)) ↔
      CivilSpan (sec.toInt / 86400) ∨
        Shiftable (sec.toInt / 86400) ∧ Unbindable malloc stmt index) ∧
    (∀ ms : Int64, ((∀ value ∈ msInts ms.toInt, Fits value) ∧
        Binds (Denotes (ms.toInt * 1000)) stmt index
          (stmt.bindEpochMs malloc index ms)) ↔
      CivilSpan (ms.toInt / 86400000) ∨
        Shiftable (ms.toInt / 86400000) ∧ Unbindable malloc stmt index) ∧
    (∀ days : Int32, ((∀ value ∈ dayInts days.toInt, Fits value) ∧
        Binds (Denotes (days.toInt * 86400000000)) stmt index
          (stmt.bindEpochDays malloc index days)) ↔
      CivilSpan days.toInt ∨
        Shiftable days.toInt ∧ Unbindable malloc stmt index) ∧
    ∀ timestamp : Timestamp, timestamp.isNull = false →
      (Binds timestamp.SpelledBy stmt index
          (stmt.bindTimestamp malloc index (some timestamp)) ↔
        timestamp.InRanges ∨ Unbindable malloc stmt index) := by
  refine ⟨bindEpochSec_iff, bindEpochMs_iff, bindEpochDays_iff, ?_⟩
  intro timestamp hpresent
  rw [binds_iff hpresent, timestamp.spelledBy_text_iff]

/-- A statement with one parameter that is not bound. -/
def oneParam : Statement := ⟨1, 2, 0, [.zeroed], []⟩

/-- A day behind the year 9999 is bound as another one. -/
theorem epochBinds_substituted :
    (oneParam.bindEpochDays (fun _ => true) 0 2932897).1 = .ok ∧
      ¬ Binds (Denotes (2932897 * 86400000000)) oneParam 0
        (oneParam.bindEpochDays (fun _ => true) 0 2932897) := by
  constructor
  · rw [Statement.bindEpochDays, bindTimestamp_eq rfl (by decide)]
    rfl
  · intro hbinds
    have hboth := (@bindEpochDays_iff (fun _ => true) oneParam 0 2932897).mp
      ⟨fits_dayInts_iff.mpr (by unfold Shiftable; decide), hbinds⟩
    rcases hboth with hspan | ⟨-, hindex | hmalloc⟩
    · exact absurd hspan.2 (by decide)
    · exact absurd hindex (by decide)
    · cases hmalloc

end Libsqli.Bind
