import Libsqli.Bind.EpochBinds
import Libsqli.Bind.Faithful
import Libsqli.Temporal.Text

namespace Libsqli.Bind

open Libsqli.Temporal

/-! The bind calls of the interface. A pointer that may be NULL is an option. -/

/-- A NULL text or NULL octets are refused once the index has been checked. -/
def Statement.bindPointer (malloc : Nat → Bool) (stmt : Statement)
    (index : Nat) (call : List UInt8 → BindCall) :
    Option (List UInt8) → Status × Statement
  | none =>
      (if index < stmt.params.length then .invalidState else .outOfRange, stmt)
  | some value => stmt.bind malloc index (call value)

/-- `sqli_bind_date` -/
def Statement.bindDate (malloc : Nat → Bool) (stmt : Statement) (index : Nat) :
    Option Date → Status × Statement
  | none => (.invalidArgument, stmt)
  | some value => stmt.bind malloc index (.date value)

/-- `sqli_bind_date_string` -/
def Statement.bindDateString (malloc : Nat → Bool) (stmt : Statement)
    (index : Nat) : Option (List UInt8) → Status × Statement
  | none => (.invalidArgument, stmt)
  | some text =>
      match Date.parse text false .null with
      | (.ok, date) => stmt.bindDate malloc index (some date)
      | (status, _) => (status, stmt)

/-- `sqli_bind_decimal` -/
def Statement.bindDecimal (malloc : Nat → Bool) (stmt : Statement)
    (index : Nat) : Option Decimal → Option DecimalTarget → Status × Statement
  | some value, some target => stmt.bind malloc index (.decimal value target)
  | _, _ => (.invalidArgument, stmt)

/-- `sqli_bind_datetime` -/
def Statement.bindDatetime (malloc : Nat → Bool) (stmt : Statement)
    (index : Nat) : Option Datetime → Option TemporalRange → Status × Statement
  | some value, some target => stmt.bind malloc index (.datetime value target)
  | _, _ => (.invalidArgument, stmt)

/-- `sqli_bind_interval` -/
def Statement.bindInterval (malloc : Nat → Bool) (stmt : Statement)
    (index : Nat) (leadingPrecision : UInt8) :
    Option Interval → Option TemporalRange → Status × Statement
  | some value, some target =>
      stmt.bind malloc index (.interval value target leadingPrecision)
  | _, _ => (.invalidArgument, stmt)

inductive Binder where
  | int (value : Int32)
  | int64 (value : Int64)
  | double (value : UInt64)
  | string (value : Option (List UInt8))
  | decimalString (value : Option (List UInt8))
  | dateString (value : Option (List UInt8))
  | datetimeString (value : Option (List UInt8))
  | intervalString (value : Option (List UInt8))
  | bool (value : Bool)
  | bytes (value : Option (List UInt8))
  | null
  | nullInt
  | nullInt64
  | nullDouble
  | date (value : Option Date)
  | decimal (value : Option Decimal) (target : Option DecimalTarget)
  | datetime (value : Option Datetime) (target : Option TemporalRange)
  | interval (value : Option Interval) (target : Option TemporalRange)
      (leadingPrecision : UInt8)
  | timestamp (value : Option Timestamp)
  | epochSec (sec : Int64)
  | epochMs (ms : Int64)
  | epochDays (days : Int32)
  | sblob (lob : Option SblobHandle)

/-- The function of each name. -/
def Binder.run (malloc : Nat → Bool) (stmt : Statement) (index : Nat) :
    Binder → Status × Statement
  | .int value => stmt.bind malloc index (.int value)
  | .int64 value => stmt.bind malloc index (.int64 value)
  | .double value => stmt.bind malloc index (.double value)
  | .string value => stmt.bindPointer malloc index .string value
  | .decimalString value => stmt.bindPointer malloc index .string value
  | .dateString value => stmt.bindDateString malloc index value
  | .datetimeString value => stmt.bindPointer malloc index .string value
  | .intervalString value => stmt.bindPointer malloc index .string value
  | .bool value => stmt.bind malloc index (.bool value)
  | .bytes value => stmt.bindPointer malloc index .bytes value
  | .null => stmt.bind malloc index .null
  | .nullInt => stmt.bind malloc index .nullInt
  | .nullInt64 => stmt.bind malloc index .nullInt64
  | .nullDouble => stmt.bind malloc index .nullDouble
  | .date value => stmt.bindDate malloc index value
  | .decimal value target => stmt.bindDecimal malloc index value target
  | .datetime value target => stmt.bindDatetime malloc index value target
  | .interval value target leading =>
      stmt.bindInterval malloc index leading value target
  | .timestamp value => stmt.bindTimestamp malloc index value
  | .epochSec sec => stmt.bindEpochSec malloc index sec
  | .epochMs ms => stmt.bindEpochMs malloc index ms
  | .epochDays days => stmt.bindEpochDays malloc index days
  | .sblob lob => stmt.bind malloc index (.sblob lob)

/-! A bind call that fails. -/

/-- A failed call leaves the statement as it was, another one changes nothing but
the parameter of the index. -/
structure Atomic (before : Statement) (index : Nat)
    (outcome : Status × Statement) : Prop where
  failed : outcome.1 ≠ .ok → outcome.2 = before
  bound : outcome.1 = .ok → ∃ param, outcome.2 = before.setParam index param

/-- The parameter holds something that `sqli_free_bound_param` takes away. -/
def BoundParam.Losable (param : BoundParam) : Prop :=
  param.sval ≠ none ∨ param.bval ≠ none ∨ param.isNull = true

/-- The locator is not stored. -/
def Unstorable (malloc : Nat → Bool) (lob : SblobHandle) : Prop :=
  lob.locator = [] ∨ sblobLocatorMax < lob.locator.length ∨
    malloc lob.locator.length = false

/-- A locator that is not stored is bound over something. -/
def LosesParam (malloc : Nat → Bool) (stmt : Statement) (index : Nat)
    (binder : Binder) : Prop :=
  ∃ lob param, binder = .sblob (some lob) ∧
    stmt.params[index]? = some param ∧ Unstorable malloc lob ∧ param.Losable

variable {malloc : Nat → Bool} {stmt : Statement} {index : Nat}
  {param : BoundParam} {call : BindCall} {binder : Binder} {status : Status}
  {serverType : Option UInt8}

theorem release_eq_iff : param.release = param ↔ ¬ param.Losable := by
  unfold BoundParam.Losable
  constructor
  · intro hrelease
    rw [← hrelease]
    simp [BoundParam.release]
  · intro hkept
    simp only [not_or, not_not, Bool.not_eq_true] at hkept
    obtain ⟨hsval, hbval, hnull⟩ := hkept
    obtain ⟨type, ival, ival64, dval, sval, bval, isNull, qualifier, bytes⟩ :=
      param
    cases hsval
    cases hbval
    cases hnull
    rfl

theorem setParam_of_getElem? (hparam : stmt.params[index]? = some param) :
    stmt.setParam index param = stmt := by
  obtain ⟨hindex, rfl⟩ := List.getElem?_eq_some_iff.mp hparam
  unfold Statement.setParam
  rw [List.set_getElem_self]

theorem setParam_eq_iff {other : BoundParam}
    (hparam : stmt.params[index]? = some param) :
    stmt.setParam index other = stmt ↔ other = param := by
  constructor
  · intro hset
    have hindex : index < stmt.params.length :=
      (List.getElem?_eq_some_iff.mp hparam).1
    have hother : (stmt.setParam index other).params[index]? = some other := by
      simp [Statement.setParam, hindex]
    rw [hset, hparam] at hother
    exact (Option.some.inj hother).symm
  · rintro rfl
    exact setParam_of_getElem? hparam

theorem Atomic.refused (hstatus : status ≠ .ok) :
    Atomic stmt index (status, stmt) :=
  ⟨fun _ => rfl, fun hok => absurd hok hstatus⟩

/-- What the call makes of a parameter decides about the statement. -/
theorem atomic_bind_iff (hprecheck : call.precheck = .ok)
    (hparam : stmt.params[index]? = some param) :
    Atomic stmt index (stmt.bind malloc index call) ↔
      ((call.apply malloc stmt.serverTypes[index]? param).1 ≠ .ok →
        (call.apply malloc stmt.serverTypes[index]? param).2 = param) := by
  unfold Statement.bind
  rw [hprecheck, hparam]
  dsimp only
  constructor
  · intro hatomic hfailed
    exact (setParam_eq_iff hparam).mp (hatomic.failed hfailed)
  · intro happly
    refine ⟨fun hfailed => ?_, fun _ => ⟨_, rfl⟩⟩
    exact (setParam_eq_iff hparam).mpr (happly hfailed)

def BindCall.isLocator : BindCall → Bool
  | .sblob _ => true
  | _ => false

/-- A call keeps the parameter that it fails to set. -/
def KeepsFailed (outcome : Status × BoundParam) (param : BoundParam) : Prop :=
  outcome.1 ≠ .ok → outcome.2 = param

theorem setParamString_keepsFailed (value : List UInt8) :
    KeepsFailed (setParamString malloc value param) param := by
  unfold setParamString
  split
  · exact fun hfailed => absurd rfl hfailed
  · exact fun _ => rfl

theorem setParamBytes_keepsFailed (value : List UInt8) :
    KeepsFailed (setParamBytes malloc value param) param := by
  unfold setParamBytes
  split
  · exact fun _ => rfl
  · split
    · exact fun hfailed => absurd rfl hfailed
    · exact fun _ => rfl

theorem bindNative_keepsFailed (type : BindType) (qualifier : UInt16)
    (encoded : Except Status (List UInt8)) (isNull : Bool) :
    KeepsFailed (bindNative type qualifier encoded isNull param) param := by
  cases encoded with
  | error status => exact fun _ => rfl
  | ok bytes => exact fun hfailed => absurd rfl hfailed

theorem bindDatetime_keepsFailed (value : Datetime) (target : TemporalRange) :
    KeepsFailed (bindDatetime value target param) param := by
  unfold bindDatetime
  cases temporalQualifier target false 0 with
  | error status => exact fun _ => rfl
  | ok qualifier => exact bindNative_keepsFailed _ _ _ _

theorem bindInterval_keepsFailed (value : Interval) (target : TemporalRange)
    (leading : UInt8) :
    KeepsFailed (bindInterval value target leading param) param := by
  unfold bindInterval
  cases temporalQualifier target true leading with
  | error status => exact fun _ => rfl
  | ok qualifier => exact bindNative_keepsFailed _ _ _ _

theorem bindTimestamp_keepsFailed (value : Option Timestamp) :
    KeepsFailed (bindTimestamp malloc value param) param := by
  cases value with
  | none => exact fun hfailed => absurd rfl hfailed
  | some value =>
      unfold bindTimestamp
      dsimp only
      split
      · exact fun hfailed => absurd rfl hfailed
      · exact setParamString_keepsFailed _

theorem apply_keepsFailed (hcall : call.isLocator = false) :
    KeepsFailed (call.apply malloc serverType param) param := by
  cases call with
  | string value => exact setParamString_keepsFailed value
  | bool value => exact setParamString_keepsFailed _
  | bytes value => exact setParamBytes_keepsFailed value
  | date value => exact bindNative_keepsFailed _ _ _ _
  | decimal value target => exact bindNative_keepsFailed _ _ _ _
  | datetime value target => exact bindDatetime_keepsFailed value target
  | interval value target leading =>
      exact bindInterval_keepsFailed value target leading
  | timestamp value => exact bindTimestamp_keepsFailed value
  | sblob lob => cases hcall
  | int value => exact fun hfailed => absurd rfl hfailed
  | int64 value => exact fun hfailed => absurd rfl hfailed
  | double value => exact fun hfailed => absurd rfl hfailed
  | null => exact fun hfailed => absurd rfl hfailed
  | nullInt => exact fun hfailed => absurd rfl hfailed
  | nullInt64 => exact fun hfailed => absurd rfl hfailed
  | nullDouble => exact fun hfailed => absurd rfl hfailed

theorem bindSblob_keepsFailed_iff (serverType : Option UInt8)
    (lob : SblobHandle) :
    KeepsFailed (bindSblob malloc serverType (some lob) param) param ↔
      ¬ (Unstorable malloc lob ∧ param.Losable) := by
  unfold bindSblob Unstorable KeepsFailed
  dsimp only
  by_cases hlocator : lob.locator = [] ∨ sblobLocatorMax < lob.locator.length
  · rw [if_pos hlocator]
    simp [← release_eq_iff, ← or_assoc, hlocator]
  · rw [if_neg hlocator]
    cases hroom : malloc lob.locator.length with
    | true => simp [hlocator]
    | false => simp [← release_eq_iff]

/-- Only a locator is bound in the wrong order. -/
theorem atomic_bind (call : BindCall) (hcall : call.isLocator = false) :
    Atomic stmt index (stmt.bind malloc index call) := by
  cases hprecheck : call.precheck with
  | ok =>
      cases hparam : stmt.params[index]? with
      | none =>
          unfold Statement.bind
          rw [hprecheck, hparam]
          exact .refused (by decide)
      | some param =>
          exact (atomic_bind_iff hprecheck hparam).mpr
            (apply_keepsFailed hcall)
  | _ =>
      unfold Statement.bind
      rw [hprecheck]
      exact .refused (by decide)

theorem atomic_bind_sblob_iff (lob : Option SblobHandle) :
    Atomic stmt index (stmt.bind malloc index (.sblob lob)) ↔
      ¬ LosesParam malloc stmt index (.sblob lob) := by
  cases hparam : stmt.params[index]? with
  | none =>
      have hatomic :
          Atomic stmt index (stmt.bind malloc index (.sblob lob)) := by
        unfold Statement.bind BindCall.precheck
        rw [hparam]
        exact .refused (by decide)
      refine iff_of_true hatomic ?_
      rintro ⟨_, param, -, hfound, -⟩
      rw [hparam] at hfound
      cases hfound
  | some param =>
      rw [atomic_bind_iff rfl hparam]
      cases lob with
      | none =>
          refine iff_of_true (fun hfailed => absurd rfl hfailed) ?_
          rintro ⟨_, _, hbinder, -⟩
          cases hbinder
      | some lob =>
          refine (bindSblob_keepsFailed_iff
            stmt.serverTypes[index]? lob).trans (not_congr ?_)
          constructor
          · rintro ⟨hstore, hlosable⟩
            exact ⟨lob, param, rfl, hparam, hstore, hlosable⟩
          · rintro ⟨_, found, hbinder, hfound, hstore, hlosable⟩
            rw [hparam] at hfound
            cases hbinder
            cases hfound
            exact ⟨hstore, hlosable⟩

theorem atomic_bindPointer {toCall : List UInt8 → BindCall}
    (hcall : ∀ value, (toCall value).isLocator = false)
    (value : Option (List UInt8)) :
    Atomic stmt index (stmt.bindPointer malloc index toCall value) := by
  cases value with
  | none =>
      unfold Statement.bindPointer
      dsimp only
      split
      · exact .refused (by decide)
      · exact .refused (by decide)
  | some value => exact atomic_bind _ (hcall value)

theorem atomic_bindDate (value : Option Date) :
    Atomic stmt index (stmt.bindDate malloc index value) := by
  cases value with
  | none => exact .refused (by decide)
  | some value => exact atomic_bind (.date value) rfl

theorem atomic_bindDateString (value : Option (List UInt8)) :
    Atomic stmt index (stmt.bindDateString malloc index value) := by
  cases value with
  | none => exact .refused (by decide)
  | some text =>
      unfold Statement.bindDateString
      dsimp only
      rcases hparse : Date.parse text false .null with ⟨status, date⟩
      cases status with
      | ok => exact atomic_bindDate (some date)
      | _ => exact .refused (by decide)

theorem atomic_bindDecimal (value : Option Decimal)
    (target : Option DecimalTarget) :
    Atomic stmt index (stmt.bindDecimal malloc index value target) := by
  unfold Statement.bindDecimal
  split
  · exact atomic_bind _ (by rfl)
  · exact .refused (by decide)

theorem atomic_bindDatetime (value : Option Datetime)
    (target : Option TemporalRange) :
    Atomic stmt index (stmt.bindDatetime malloc index value target) := by
  unfold Statement.bindDatetime
  split
  · exact atomic_bind _ (by rfl)
  · exact .refused (by decide)

theorem atomic_bindInterval (leading : UInt8) (value : Option Interval)
    (target : Option TemporalRange) :
    Atomic stmt index
      (stmt.bindInterval malloc index leading value target) := by
  unfold Statement.bindInterval
  split
  · exact atomic_bind _ (by rfl)
  · exact .refused (by decide)

/-- A bind call that fails changes nothing, unless it is about a locator that it
does not store: then what was bound before is lost. -/
theorem binder_atomic_iff (malloc : Nat → Bool) (stmt : Statement)
    (index : Nat) (binder : Binder) :
    Atomic stmt index (binder.run malloc stmt index) ↔
      ¬ LosesParam malloc stmt index binder := by
  have hother (hatomic : Atomic stmt index (binder.run malloc stmt index))
      (hbinder : ∀ lob, binder ≠ .sblob lob) :
      Atomic stmt index (binder.run malloc stmt index) ↔
        ¬ LosesParam malloc stmt index binder :=
    iff_of_true hatomic fun ⟨lob, _, hlob, _⟩ => hbinder (some lob) hlob
  cases binder with
  | sblob lob => exact atomic_bind_sblob_iff lob
  | string value => exact hother (atomic_bindPointer (fun _ => by rfl) value) nofun
  | decimalString value => exact hother (atomic_bindPointer (fun _ => by rfl) value) nofun
  | datetimeString value => exact hother (atomic_bindPointer (fun _ => by rfl) value) nofun
  | intervalString value => exact hother (atomic_bindPointer (fun _ => by rfl) value) nofun
  | bytes value => exact hother (atomic_bindPointer (fun _ => by rfl) value) nofun
  | date value => exact hother (atomic_bindDate value) nofun
  | dateString value => exact hother (atomic_bindDateString value) nofun
  | decimal value target => exact hother (atomic_bindDecimal value target) nofun
  | datetime value target =>
      exact hother (atomic_bindDatetime value target) nofun
  | interval value target leading =>
      exact hother (atomic_bindInterval leading value target) nofun
  | int value => exact hother (atomic_bind (.int value) rfl) nofun
  | int64 value => exact hother (atomic_bind (.int64 value) rfl) nofun
  | double value => exact hother (atomic_bind (.double value) rfl) nofun
  | bool value => exact hother (atomic_bind (.bool value) rfl) nofun
  | null => exact hother (atomic_bind .null rfl) nofun
  | nullInt => exact hother (atomic_bind .nullInt rfl) nofun
  | nullInt64 => exact hother (atomic_bind .nullInt64 rfl) nofun
  | nullDouble => exact hother (atomic_bind .nullDouble rfl) nofun
  | timestamp value => exact hother (atomic_bind (.timestamp value) rfl) nofun
  | epochSec sec => exact hother (atomic_bind (.timestamp _) rfl) nofun
  | epochMs ms => exact hother (atomic_bind (.timestamp _) rfl) nofun
  | epochDays days => exact hother (atomic_bind (.timestamp _) rfl) nofun

/-- A text is lost to a locator without octets. -/
theorem binder_sblob_loses_text :
    let stmt := insertStatement [textParam [97]]
    let outcome := Binder.run (fun _ => true) stmt 0 (.sblob (some ⟨0, []⟩))
    outcome.1 = .invalidState ∧ outcome.2.params ≠ stmt.params ∧
      buildBindMsg .ok outcome.2 true ≠ buildBindMsg .ok stmt true := by
  decide

end Libsqli.Bind
