import Libsqli.Retry.ReadOnly
import Libsqli.Status
import Mathlib.Data.UInt

namespace Libsqli.Retry

open Libsqli.Data.Ctype

/-! What a retry is decided on. -/

/-- The members of `sqli_error_info` that are classified. -/
structure ErrorInfo where
  hasError : Bool
  status : Status
  sqlcode : Int
  isamcode : Int
  sqlstate : List UInt8
  context : List UInt8
  unknownOpcode : UInt16
  message : List UInt8

/-- `sqli_error_class` -/
inductive ErrorClass where
  | none
  | auth
  | network
  | protocol
  | server
  | data
  | unknown
  deriving DecidableEq, Repr

def sqlcodeIsRetryableNetwork (sqlcode : Int) : Bool :=
  sqlcode ∈ [-908, -912, -913, -932, -936]

def sqlcodeIsNonretryableData (sqlcode : Int) : Bool :=
  sqlcode ∈ [-201, -206, -23101, -23197]

def isamcodeIsRetryable (isamcode : Int) : Bool :=
  (if isamcode < 0 then -isamcode else isamcode) ∈ [107, 143, 154, 7351]

def contextIndicatesNetwork (context : List UInt8) : Bool :=
  context ∈ [octets "connect/tcp", octets "connect/unix"]

/-- The texts that `message_indicates_network` looks for. -/
def networkTexts : List (List UInt8) :=
  [octets "TCP connection failed", octets "Unix socket connection failed",
    octets "failed to connect", octets "failed to read",
    octets "failed to send", octets "socket not connected",
    octets "broken pipe", octets "connection reset"]

def messageIndicatesNetwork (message : List UInt8) : Bool :=
  networkTexts.any fun text => text <:+: message

/-- `sqli_error_classify`: the class, and whether a retry makes sense. -/
def errorClassify (info : ErrorInfo) : ErrorClass × Bool :=
  if info.hasError = false then (.none, false)
  else if info.status = .authFail then (.auth, false)
  else if info.status = .timeout ∨ info.status = .ioError then (.network, true)
  else if info.status = .protoError ∧ info.unknownOpcode ≠ 0 then
    (.protocol, false)
  else if info.status = .err ∧ (contextIndicatesNetwork info.context ∨
      messageIndicatesNetwork info.message) then (.network, true)
  else if sqlcodeIsRetryableNetwork info.sqlcode ∨
      isamcodeIsRetryable info.isamcode then (.network, true)
  else if octets "40" <+: info.sqlstate then (.server, true)
  else if sqlcodeIsNonretryableData info.sqlcode then (.data, false)
  else if info.status = .protoError then (.protocol, false)
  else if info.sqlcode ≠ 0 ∨ info.isamcode ≠ 0 then (.server, false)
  else (.unknown, false)

/-- The first delay and the longest one, in milliseconds. -/
def delayBounds (klass : ErrorClass) : Nat × Nat :=
  match klass with
  | .network => (250, 60000)
  | .server => (100, 5000)
  | _ => (200, 30000)

def retryDelay (klass : ErrorClass) (attempt : UInt32) : Nat :=
  min ((delayBounds klass).1 <<< min attempt.toNat 12) (delayBounds klass).2

/-- `sqli_retry_recommend`; none where no retry is recommended. -/
def retryRecommend (info : ErrorInfo) (attempt : UInt32) : Option Nat :=
  if (errorClassify info).2 = false then none
  else some (retryDelay (errorClassify info).1 attempt)

/-! Delays of one class. -/

theorem retryDelay_mono (klass : ErrorClass) {first later : UInt32}
    (hle : first ≤ later) : retryDelay klass first ≤ retryDelay klass later := by
  have hattempt : min first.toNat 12 ≤ min later.toNat 12 :=
    min_le_min_right 12 (UInt32.le_iff_toNat_le.mp hle)
  have hpower : 2 ^ min first.toNat 12 ≤ 2 ^ min later.toNat 12 :=
    Nat.pow_le_pow_right (by decide) hattempt
  unfold retryDelay
  rw [Nat.shiftLeft_eq, Nat.shiftLeft_eq]
  exact min_le_min_right _ (Nat.mul_le_mul_left _ hpower)

theorem retryDelay_le (klass : ErrorClass) (attempt : UInt32) :
    retryDelay klass attempt ≤ 60000 := by
  refine (min_le_right _ _).trans ?_
  cases klass <;> decide

/-! The retry wrappers. -/

/-- How the executions one after the other end, each with the diagnostic it
leaves on the connection. -/
abbrev Failures := Nat → Status × ErrorInfo

/-- A delay, with the class it was chosen for. -/
structure Pause where
  klass : ErrorClass
  delay : Nat

structure RetryRun where
  status : Status
  executions : Nat
  pauses : List Pause

def RetryRun.once (status : Status) : RetryRun := ⟨status, 1, []⟩

def RetryRun.after (pause : Pause) (run : RetryRun) : RetryRun :=
  ⟨run.status, run.executions + 1, pause :: run.pauses⟩

/-- The loop of both wrappers, from one attempt on. -/
def retryLoop (readOnly : Bool) (maxRetries : UInt32) (failures : Failures)
    (attempt : UInt32) : RetryRun :=
  let rc := (failures attempt.toNat).1
  let info := (failures attempt.toNat).2
  if rc = .ok then .once .ok
  else if _hlast : maxRetries ≤ attempt then .once rc
  else if readOnly = false then .once rc
  else
    match retryRecommend info attempt with
    | none => .once rc
    | some delay =>
        .after ⟨(errorClassify info).1, delay⟩
          (retryLoop readOnly maxRetries failures (attempt + 1))
termination_by maxRetries.toNat - attempt.toNat
decreasing_by
  have hlt : attempt.toNat < maxRetries.toNat :=
    Nat.lt_of_not_le fun h => _hlast (UInt32.le_iff_toNat_le.mpr h)
  have hbound := maxRetries.toNat_lt
  rw [UInt32.toNat_add, UInt32.toNat_one, Nat.mod_eq_of_lt (by omega)]
  omega

/-- `sqli_query_with_retry` -/
def queryWithRetry (sql : Option (List UInt8)) (maxRetries : UInt32)
    (failures : Failures) : RetryRun :=
  match sql with
  | none => ⟨.invalidState, 0, []⟩
  | some text =>
      retryLoop (querySqlIsReadOnly (some text)) maxRetries failures 0

/-- What `sqli_prepare` stores for the wrapper and for batches. -/
structure PreparedStmt where
  readOnly : Bool

def prepareStmt (sql : List UInt8) : PreparedStmt :=
  ⟨prepareSqlIsReadOnly (some sql)⟩

/-- `sqli_execute_with_retry` -/
def executeWithRetry (stmt : Option PreparedStmt) (maxRetries : UInt32)
    (failures : Failures) : RetryRun :=
  match stmt with
  | none => ⟨.invalidState, 0, []⟩
  | some stmt => retryLoop stmt.readOnly maxRetries failures 0

open Libsqli.Data.Span

variable {readOnly : Bool} {maxRetries attempt : UInt32} {failures : Failures}

/-! How far the loop goes. -/

theorem toNat_attempt_succ (hlast : ¬ maxRetries ≤ attempt) :
    (attempt + 1).toNat = attempt.toNat + 1 ∧
      attempt.toNat < maxRetries.toNat := by
  have hlt : attempt.toNat < maxRetries.toNat :=
    Nat.lt_of_not_le fun h => hlast (UInt32.le_iff_toNat_le.mpr h)
  have hbound := maxRetries.toNat_lt
  rw [UInt32.toNat_add, UInt32.toNat_one, Nat.mod_eq_of_lt (by omega)]
  exact ⟨rfl, hlt⟩

theorem executions_retryLoop_le (readOnly : Bool) (maxRetries : UInt32)
    (failures : Failures) (attempt : UInt32)
    (hattempt : attempt ≤ maxRetries) :
    (retryLoop readOnly maxRetries failures attempt).executions +
      attempt.toNat ≤ maxRetries.toNat + 1 := by
  have hle := UInt32.le_iff_toNat_le.mp hattempt
  fun_induction retryLoop readOnly maxRetries failures attempt with
  | case1 attempt rc hok => dsimp only [RetryRun.once]; omega
  | case2 attempt rc hfailed hlast => dsimp only [RetryRun.once]; omega
  | case3 attempt rc hfailed hlast hwrites =>
      dsimp only [RetryRun.once]
      omega
  | case4 attempt rc info hfailed hlast hreads hnone =>
      dsimp only [RetryRun.once]
      omega
  | case5 attempt rc info hfailed hlast hreads delay hdelay ih =>
      obtain ⟨hsucc, hlt⟩ := toNat_attempt_succ hlast
      have hnext : attempt + 1 ≤ maxRetries :=
        UInt32.le_iff_toNat_le.mpr (by omega)
      have hrest := ih hnext (by omega)
      dsimp only [RetryRun.after]
      omega

theorem executions_retryLoop_writes (maxRetries : UInt32)
    (failures : Failures) (attempt : UInt32) :
    (retryLoop false maxRetries failures attempt).executions = 1 := by
  rw [retryLoop]
  split
  · rfl
  · split
    · rfl
    · rw [if_pos rfl]
      rfl

/-- Each delay is that of its class at this attempt or a later one. -/
theorem pauses_retryLoop (readOnly : Bool) (maxRetries : UInt32)
    (failures : Failures) (attempt : UInt32) :
    ∀ pause ∈ (retryLoop readOnly maxRetries failures attempt).pauses,
      ∃ later, attempt ≤ later ∧
        pause.delay = retryDelay pause.klass later := by
  fun_induction retryLoop readOnly maxRetries failures attempt with
  | case1 | case2 | case3 | case4 =>
      intro pause hmem
      cases hmem
  | case5 attempt rc info hfailed hlast hreads delay hdelay ih =>
      intro pause hmem
      rcases List.mem_cons.mp hmem with rfl | hmem
      · refine ⟨attempt, UInt32.le_refl _, ?_⟩
        unfold retryRecommend at hdelay
        split at hdelay
        · cases hdelay
        · exact (Option.some.inj hdelay).symm
      · obtain ⟨later, hle, hpause⟩ := ih pause hmem
        obtain ⟨hsucc, -⟩ := toNat_attempt_succ hlast
        have hnat := UInt32.le_iff_toNat_le.mp hle
        exact ⟨later, UInt32.le_iff_toNat_le.mpr (by omega), hpause⟩

theorem pauses_retryLoop_increase (readOnly : Bool) (maxRetries : UInt32)
    (failures : Failures) (attempt : UInt32) :
    (retryLoop readOnly maxRetries failures attempt).pauses.Pairwise
      fun first later => first.klass = later.klass →
        first.delay ≤ later.delay := by
  fun_induction retryLoop readOnly maxRetries failures attempt with
  | case1 | case2 | case3 | case4 => exact .nil
  | case5 attempt rc info hfailed hlast hreads delay hdelay ih =>
      refine .cons ?_ ih
      intro pause hmem hklass
      obtain ⟨later, hle, hpause⟩ := pauses_retryLoop _ _ _ _ pause hmem
      obtain ⟨hsucc, -⟩ := toNat_attempt_succ hlast
      have hnat := UInt32.le_iff_toNat_le.mp hle
      unfold retryRecommend at hdelay
      split at hdelay
      · cases hdelay
      · cases hdelay
        dsimp only at hklass ⊢
        rw [hpause, ← hklass]
        exact retryDelay_mono _ (UInt32.le_iff_toNat_le.mpr (by omega))

/-! What a retry wrapper promises. -/

structure Gated (readOnly : Bool) (maxRetries : UInt32) (run : RetryRun) :
    Prop where
  once : readOnly = false → run.executions ≤ 1
  bounded : run.executions ≤ maxRetries.toNat + 1
  increasing : run.pauses.Pairwise fun first later =>
    first.klass = later.klass → first.delay ≤ later.delay
  short : ∀ pause ∈ run.pauses, pause.delay ≤ 60000

theorem gated_retryLoop (readOnly : Bool) (maxRetries : UInt32)
    (failures : Failures) :
    Gated readOnly maxRetries (retryLoop readOnly maxRetries failures 0) where
  once := fun hwrites => by
    rw [hwrites, executions_retryLoop_writes]
  bounded := executions_retryLoop_le _ _ _ 0
    (UInt32.le_iff_toNat_le.mpr (Nat.zero_le _))
  increasing := pauses_retryLoop_increase _ _ _ _
  short := fun pause hmem => by
    obtain ⟨later, -, hpause⟩ := pauses_retryLoop _ _ _ _ pause hmem
    rw [hpause]
    exact retryDelay_le _ _

/-- The decisions of both entry points agree and gate the retries. -/
structure RetriesGated (text : List UInt8) : Prop where
  agree : ClassifiersAgree text
  query : ∀ maxRetries failures,
    Gated (querySqlIsReadOnly (some text)) maxRetries
      (queryWithRetry (some text) maxRetries failures)
  execute : ∀ maxRetries failures,
    Gated (prepareSqlIsReadOnly (some text)) maxRetries
      (executeWithRetry (some (prepareStmt text)) maxRetries failures)

theorem retriesGated_iff (text : List UInt8) :
    RetriesGated text ↔
      (OpensComment text → ∀ rest, Skipped text rest →
        firstWord rest ∉ readOnlyWords) := by
  rw [← classifiersAgree_iff]
  exact ⟨RetriesGated.agree, fun hagree =>
    ⟨hagree, gated_retryLoop _, gated_retryLoop _⟩⟩

/-- "/* c */ SELECT 1" -/
def commentedSelect : List UInt8 :=
  blockOpening ++ (octets " c " ++ (blockClosing ++ octets " SELECT 1"))

theorem commentedSelect_disagrees :
    querySqlIsReadOnly (some commentedSelect) = true ∧
      prepareSqlIsReadOnly (some commentedSelect) = false ∧
      ¬ RetriesGated commentedSelect := by
  have hstarts : Starts (octets "SELECT 1") :=
    ⟨ends_cons (by decide), by decide, by decide⟩
  have hskipped : Skipped commentedSelect (octets "SELECT 1") :=
    .block (by decide) (.space (by decide) (.stop hstarts))
  have hquery : querySqlIsReadOnly (some commentedSelect) = true := by
    rw [querySqlIsReadOnly, ← hskipped.eq_skipLeading]
    decide
  refine ⟨hquery, by decide, fun hgated => ?_⟩
  obtain ⟨-, hprepare⟩ := hgated.agree _ hskipped
  exact absurd hprepare (by decide)

end Libsqli.Retry
