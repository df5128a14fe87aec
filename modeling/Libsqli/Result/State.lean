import Libsqli.Lifecycle.Conn
import Libsqli.Result.Layout

namespace Libsqli

open Layout

/-- `sqli_cursor_type` -/
inductive CursorType where
  | forwardOnly
  | scrollInsensitive
  deriving DecidableEq, Repr

/-- `sqli_cursor_holdability` -/
inductive Holdability where
  | holdOverCommit
  | closeAtCommit
  deriving DecidableEq, Repr

def int32Max : Int := 2147483647

/-- Conversion to `int32_t`. -/
def toInt32 (value : Int) : Int := value.bmod (2 ^ 32)

theorem toInt32_eq_of_range {value : Int} (hlower : -2147483648 ≤ value)
    (hupper : value ≤ int32Max) : toInt32 value = value := by
  unfold int32Max at hupper
  unfold toInt32
  exact Int.bmod_eq_of_le (by omega) (by omega)

/-- The received tuples; an `int` counts them. -/
abbrev Rows := { rows : List (List UInt8) // (rows.length : Int) ≤ int32Max }

theorem no_rows_le : (([] : List (List UInt8)).length : Int) ≤ int32Max := by
  decide

/-- The position fields of `struct sqli_result` and the current-row view. -/
structure View where
  cursor : Int
  absoluteRowNum : Int
  atBeforeFirst : Bool
  atAfterLast : Bool
  tuple : Option (List UInt8)
  currentRow : Int
  cacheRow : Int
  deriving DecidableEq, Repr

/-- `struct sqli_result`.  `located` stands for the three per-column arrays, `none`
before their first allocation. -/
structure Result where
  columns : List Column
  rowsAffected : Int
  generatedSerial : Int
  generatedSerial8 : Int
  hasGeneratedSerial : Bool
  hasGeneratedSerial8 : Bool
  statementType : Nat
  warnings : Nat
  stmtId : Int
  cursorType : CursorType
  holdability : Holdability
  commitEpoch : Nat
  rollbackEpoch : Nat
  rows : Rows
  view : View
  eof : Bool
  errorCode : Int
  lastWasNull : Bool
  sawDone : Bool
  sawError : Bool
  located : Option (List Located)
  fetchStatus : Status
  deriving DecidableEq, Repr

/-- What a result reads of its connection. -/
structure Owner where
  lifecycle : Lifecycle
  state : ConnState
  socketFd : Int
  commitEpoch : Nat
  rollbackEpoch : Nat

/-- `SQLI_SFETCH_LAST` and `SQLI_SFETCH_ABSOLUTE`. -/
inductive ScrollType where
  | last
  | absolute
  deriving DecidableEq

/-- What sending a scroll fetch and receiving its reply leaves in the result; a
request that cannot be sent brings no rows. -/
structure ScrollReply where
  status : Status
  rows : Rows
  rowsAffected : Option Int
  sawError : Bool
  errorCode : Int
  eof : Bool

/-- What a call finds around the result. -/
structure Setting where
  owner : Option Owner
  calloc : Bool
  scrollFetch : ScrollType → Int → ScrollReply

namespace View

/-- The fields as a new result has them. -/
def initial : View := ⟨-1, 0, true, false, none, -1, -1⟩

/-- `sqli_result_mark_closed` -/
def closed : View := ⟨-1, 0, false, true, none, -1, -1⟩

def beforeFirst (view : View) : View :=
  ⟨-1, 0, true, false, none, -1, view.cacheRow⟩

def afterLast (view : View) : View :=
  ⟨-1, 0, false, true, none, -1, view.cacheRow⟩

/-- A failed `sqli_result_first` or `sqli_result_last` sets both flags. -/
def unpositioned (view : View) : View :=
  { view with absoluteRowNum := 0, atBeforeFirst := true, atAfterLast := true }

/-- The failure exits of `sqli_result_server_refetch`. -/
def refused (view : View) : View :=
  { view with absoluteRowNum := 0, atBeforeFirst := false, atAfterLast := true }

def onRow (view : View) (index : Int) (tuple : List UInt8) : View :=
  ⟨index, view.absoluteRowNum, false, false, some tuple, index, -1⟩

def numbered (view : View) (number : Int) : View :=
  { view with absoluteRowNum := number, atBeforeFirst := false,
              atAfterLast := false }

def leaveBeforeFirst (view : View) : View := { view with atBeforeFirst := false }

def cached (view : View) : View := { view with cacheRow := view.currentRow }

end View

namespace Result

def rowCount (result : Result) : Int := result.rows.val.length

/-- A row number as `int`; 0 off the rows. -/
def rowNumber (result : Result) : Int :=
  if result.view.atBeforeFirst ∨ result.view.atAfterLast then 0
  else if 0 < result.view.absoluteRowNum then result.view.absoluteRowNum
  else if result.view.cursor < 0 ∨ result.rowCount ≤ result.view.cursor then 0
  else result.view.cursor + 1

def withView (result : Result) (view : View) : Result := { result with view }

def withLocated (result : Result) (located : List Located) : Result :=
  { result with located := some located }

def withFetchStatus (result : Result) (fetchStatus : Status) : Result :=
  { result with fetchStatus }

/-- `sqli_result_mark_closed` -/
def markClosed (result : Result) : Result :=
  { result with view := .closed, eof := true }

/-- `sqli_result_clear_rows` -/
def clearRows (result : Result) : Result :=
  { result with rows := ⟨[], no_rows_le⟩, fetchStatus := .ok, view := .initial }

def emptyLocated (result : Result) : List Located :=
  List.replicate result.columns.length ⟨0, 0, false⟩

/-- How `sqli_result_prepare_row_cache` reads a tuple. -/
def locate (result : Result) (calloc : Bool) (tuple : List UInt8) :
    Except Status (List Located) :=
  if result.columns = [] then .error .invalidState
  else if result.located = none ∧ calloc = false then .error .allocFail
  else locateRow tuple 0 result.columns

/-- The arrays after a failure: allocated unless that is what failed. -/
def scratchLocated (result : Result) (calloc : Bool) : Option (List Located) :=
  match result.located with
  | some located => some located
  | none =>
      if result.columns = [] ∨ calloc = false then none
      else some result.emptyLocated

/-- `sqli_result_is_closed_by_commit` -/
def isClosedByCommit (result : Result) (setting : Setting) : Bool :=
  match setting.owner with
  | none => false
  | some owner =>
      owner.rollbackEpoch != result.rollbackEpoch ||
        (result.holdability == .closeAtCommit &&
          owner.commitEpoch != result.commitEpoch)

def selectStatement : Nat := 2

/-- `sqli_result_is_server_scrollable` -/
def isServerScrollable (result : Result) (setting : Setting) : Bool :=
  match setting.owner with
  | none => false
  | some owner =>
      result.cursorType == .scrollInsensitive &&
        result.statementType == selectStatement && 0 ≤ result.stmtId &&
        owner.state == .ready && 0 ≤ owner.socketFd

def receiveScroll (result : Result) (reply : ScrollReply) : Result :=
  { result with
    rows := reply.rows
    rowsAffected := reply.rowsAffected.getD result.rowsAffected
    sawDone := result.sawDone || reply.rowsAffected.isSome
    sawError := result.sawError || reply.sawError
    errorCode := if reply.sawError then reply.errorCode else result.errorCode
    eof := reply.eof
    fetchStatus := reply.status }

/-- The position that a scroll reply is given. -/
def scrollPosition (result : Result) (scroll : ScrollType) (index : Int) :
    Int :=
  match scroll with
  | .absolute => index
  | .last =>
      if 0 < result.rowsAffected then toInt32 result.rowsAffected
      else result.rowCount

@[simp] theorem rowCount_withView (result : Result) (view : View) :
    (result.withView view).rowCount = result.rowCount := rfl

@[simp] theorem rowCount_markClosed (result : Result) :
    result.markClosed.rowCount = result.rowCount := rfl

@[simp] theorem fetchStatus_markClosed (result : Result) :
    result.markClosed.fetchStatus = result.fetchStatus := rfl

@[simp] theorem view_markClosed (result : Result) :
    result.markClosed.view = .closed := rfl

@[simp] theorem rows_markClosed (result : Result) :
    result.markClosed.rows = result.rows := rfl

@[simp] theorem isClosedByCommit_withView (result : Result) (view : View)
    (setting : Setting) : (result.withView view).isClosedByCommit setting =
      result.isClosedByCommit setting := rfl

@[simp] theorem isServerScrollable_withView (result : Result) (view : View)
    (setting : Setting) : (result.withView view).isServerScrollable setting =
      result.isServerScrollable setting := rfl

theorem rowCount_le (result : Result) : result.rowCount ≤ int32Max :=
  result.rows.property

theorem rowNumber_of_pos {result : Result}
    (hbefore : result.view.atBeforeFirst = false)
    (hafter : result.view.atAfterLast = false)
    (hnumber : 0 < result.view.absoluteRowNum) :
    result.rowNumber = result.view.absoluteRowNum := by
  unfold rowNumber
  rw [if_neg (by simp [hbefore, hafter]), if_pos hnumber]

theorem rowNumber_of_flag {result : Result}
    (hflag : result.view.atBeforeFirst = true ∨
      result.view.atAfterLast = true) : result.rowNumber = 0 :=
  if_pos hflag

end Result

end Libsqli
