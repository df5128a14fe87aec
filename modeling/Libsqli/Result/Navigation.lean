import Libsqli.Result.State

namespace Libsqli.Result

open Layout

variable {result : Result} {setting : Setting} {calloc : Bool}
  {tuple : List UInt8} {index : Int}

/-- `sqli_result_prepare_row_cache` -/
def prepareRowCache (calloc : Bool) (result : Result) : Status × Result :=
  match result.view.tuple with
  | none => (.invalidState, result.withView { result.view with cacheRow := -1 })
  | some tuple =>
      if result.view.currentRow < 0 then
        (.invalidState, result.withView { result.view with cacheRow := -1 })
      else match result.locate calloc tuple with
        | .ok located =>
            (.ok, (result.withLocated located).withView result.view.cached)
        | .error status =>
            (status, { result with
              located := result.scratchLocated calloc
              view := { result.view with cacheRow := -1 } })

/-- The stored row at an index, if it is one of them. -/
def rowAt (result : Result) (index : Int) : Option (List UInt8) :=
  if index < 0 then none else result.rows.val[index.toNat]?

/-- `sqli_result_move_to_index` -/
def moveToIndex (calloc : Bool) (result : Result) (index : Int) :
    Bool × Result :=
  match result.rowAt index with
  | none => (false, result)
  | some tuple =>
      match prepareRowCache calloc
          (result.withView (result.view.onRow index tuple)) with
      | (.ok, next) => (true, next)
      | (status, next) => (false, (next.withFetchStatus status).markClosed)

theorem prepareRowCache_ok {tuple : List UInt8} {located : List Located}
    (htuple : result.view.tuple = some tuple)
    (hcurrent : 0 ≤ result.view.currentRow)
    (hlocate : result.locate calloc tuple = .ok located) :
    prepareRowCache calloc result =
      (.ok, (result.withLocated located).withView result.view.cached) := by
  unfold prepareRowCache
  simp only [htuple]
  rw [if_neg (Int.not_lt.mpr hcurrent), hlocate]

theorem prepareRowCache_error {tuple : List UInt8} {status : Status}
    (htuple : result.view.tuple = some tuple)
    (hcurrent : 0 ≤ result.view.currentRow)
    (hlocate : result.locate calloc tuple = .error status) :
    prepareRowCache calloc result = (status, { result with
      located := result.scratchLocated calloc
      view := { result.view with cacheRow := -1 } }) := by
  unfold prepareRowCache
  simp only [htuple]
  rw [if_neg (Int.not_lt.mpr hcurrent), hlocate]

theorem locate_ne_ok : result.locate calloc tuple ≠ .error .ok := by
  unfold locate
  split
  · decide
  · split
    · decide
    · exact locateRow_ne_ok

theorem rowAt_nonneg (hrow : result.rowAt index = some tuple) : 0 ≤ index := by
  unfold rowAt at hrow
  split at hrow
  · cases hrow
  · next hindex => exact Int.not_lt.mp hindex

theorem rowAt_of_lt {index : Nat} (hindex : index < result.rows.val.length) :
    result.rowAt index = some result.rows.val[index] := by
  simp [rowAt, hindex]

theorem rowAt_eq_none_iff {result : Result} {index : Int} :
    result.rowAt index = none ↔ index < 0 ∨ result.rowCount ≤ index := by
  unfold rowAt rowCount
  split
  · next hindex => simp [hindex]
  · next hindex =>
    rw [List.getElem?_eq_none_iff]
    omega

theorem moveToIndex_none (hrow : result.rowAt index = none) :
    moveToIndex calloc result index = (false, result) := by
  simp [moveToIndex, hrow]

/-- The result on a row whose layout was read. -/
def settled (result : Result) (index : Int) (tuple : List UInt8)
    (located : List Located) : Result :=
  (result.withLocated located).withView (result.view.onRow index tuple).cached

/-- The result after a row that could not be read. -/
def failed (result : Result) (calloc : Bool) (status : Status) : Result :=
  { result with
    located := result.scratchLocated calloc
    fetchStatus := status
    view := .closed
    eof := true }

theorem moveToIndex_ok {located : List Located}
    (hrow : result.rowAt index = some tuple)
    (hlocate : result.locate calloc tuple = .ok located) :
    moveToIndex calloc result index =
      (true, result.settled index tuple located) := by
  have hprepare := @prepareRowCache_ok
    (result.withView (result.view.onRow index tuple)) calloc tuple located rfl
    (rowAt_nonneg hrow) hlocate
  unfold moveToIndex
  simp only [hrow]
  rw [hprepare]
  rfl

theorem moveToIndex_error {status : Status}
    (hrow : result.rowAt index = some tuple)
    (hlocate : result.locate calloc tuple = .error status) :
    moveToIndex calloc result index = (false, result.failed calloc status) := by
  have hprepare := @prepareRowCache_error
    (result.withView (result.view.onRow index tuple)) calloc tuple status rfl
    (rowAt_nonneg hrow) hlocate
  have hstatus : status ≠ .ok := by
    rintro rfl
    exact locate_ne_ok hlocate
  unfold moveToIndex
  simp only [hrow]
  rw [hprepare]
  cases status
  case ok => exact absurd rfl hstatus
  all_goals rfl

/-- `sqli_result_server_refetch` -/
def serverRefetch (setting : Setting) (result : Result) (scroll : ScrollType)
    (index : Int) : Bool × Result :=
  if result.isServerScrollable setting = false then (false, result)
  else
    let reply := setting.scrollFetch scroll index
    let received := result.clearRows.receiveScroll reply
    if reply.status ≠ .ok ∨ received.rowCount ≤ 0 then
      (false, received.withView received.view.refused)
    else
      moveToIndex setting.calloc (received.withView
        (received.view.numbered (received.scrollPosition scroll index))) 0

/-- `sqli_result_first` -/
def first (setting : Setting) (result : Result) : Bool × Result :=
  if result.isClosedByCommit setting then (false, result.markClosed)
  else if result.isServerScrollable setting then
    match serverRefetch setting result .absolute 1 with
    | (true, next) => (true, next)
    | (false, next) => (false, next.withView next.view.unpositioned)
  else
    match moveToIndex setting.calloc result 0 with
    | (true, next) => (true, next.withView (next.view.numbered 1))
    | (false, next) => (false, next.withView next.view.unpositioned)

/-- `sqli_result_last` -/
def last (setting : Setting) (result : Result) : Bool × Result :=
  if result.isClosedByCommit setting then (false, result.markClosed)
  else if result.isServerScrollable setting then
    match serverRefetch setting result .last 0 with
    | (true, next) => (true, next)
    | (false, next) => (false, next.withView next.view.unpositioned)
  else
    match moveToIndex setting.calloc result (result.rowCount - 1) with
    | (true, next) =>
        (true, next.withView (next.view.numbered result.rowCount))
    | (false, next) => (false, next.withView next.view.unpositioned)

/-- `sqli_result_absolute` -/
def absolute (setting : Setting) (result : Result) (row : Int) :
    Bool × Result :=
  if result.isClosedByCommit setting then (false, result.markClosed)
  else if row ≤ 0 then (false, result)
  else if result.isServerScrollable setting then
    match serverRefetch setting result .absolute row with
    | (true, next) => (true, next)
    | (false, next) => (false, next.withView next.view.afterLast)
  else
    match moveToIndex setting.calloc result (row - 1) with
    | (true, next) => (true, next.withView (next.view.numbered row))
    | (false, next) => (false, next.withView next.view.afterLast)

/-- `sqli_result_relative`; the sum is an `int`. -/
def relative (setting : Setting) (result : Result) (offset : Int) :
    Bool × Result :=
  if result.isClosedByCommit setting then (false, result.markClosed)
  else if offset = 0 then
    (decide (0 ≤ result.view.cursor) && result.view.tuple.isSome, result)
  else if result.rowNumber ≤ 0 ∧
      ¬(result.view.atBeforeFirst ∧ 0 < offset) then (false, result)
  else if toInt32 (result.rowNumber + offset) ≤ 0 then
    (false, result.withView result.view.beforeFirst)
  else absolute setting result (toInt32 (result.rowNumber + offset))

/-- `sqli_result_previous` -/
def previous (setting : Setting) (result : Result) : Bool × Result :=
  if result.isClosedByCommit setting then (false, result.markClosed)
  else if result.view.atAfterLast then last setting result
  else if result.rowNumber ≤ 1 then
    (false, result.withView result.view.beforeFirst)
  else if result.isServerScrollable setting = false ∨
      (0 < result.view.cursor ∧ result.view.cursor < result.rowCount) then
    match moveToIndex setting.calloc result (result.view.cursor - 1) with
    | (true, next) =>
        (true, next.withView (next.view.numbered (result.rowNumber - 1)))
    | (false, next) => absolute setting next (result.rowNumber - 1)
  else absolute setting result (result.rowNumber - 1)

/-- The exit taken before a row number would overflow. -/
def overflowed (result : Result) : Result :=
  (result.withFetchStatus .outOfRange).markClosed

/-- The number of the row after the current one. -/
def nextNumber (result : Result) : Int :=
  if 0 < result.view.absoluteRowNum then result.view.absoluteRowNum + 1
  else result.view.cursor + 2

/-- `sqli_result_next_internal` -/
def nextInternal (setting : Setting) (result : Result) : Bool × Result :=
  if result.isClosedByCommit setting then (false, result.markClosed)
  else if result.view.atAfterLast then (false, result)
  else if result.view.atBeforeFirst then
    let entering := result.withView result.view.leaveBeforeFirst
    if result.view.cursor < 0 ∧ 0 < result.rowCount ∧
        result.view.absoluteRowNum = 0 then
      match moveToIndex setting.calloc entering 0 with
      | (true, next) =>
          (true, next.withView { next.view with absoluteRowNum := 1 })
      | (false, next) => (false, next)
    else first setting entering
  else if result.view.cursor + 1 < result.rowCount then
    if result.view.absoluteRowNum = int32Max then (false, result.overflowed)
    else
      match moveToIndex setting.calloc result (result.view.cursor + 1) with
      | (true, next) =>
          (true, next.withView (next.view.numbered result.nextNumber))
      | (false, next) => (false, next)
  else if result.isServerScrollable setting ∧
      0 < result.view.absoluteRowNum then
    if result.view.absoluteRowNum = int32Max then (false, result.overflowed)
    else absolute setting result (result.view.absoluteRowNum + 1)
  else (false, result.withView result.view.afterLast)

def isDiscarded (setting : Setting) : Bool :=
  match setting.owner with
  | none => false
  | some owner => owner.lifecycle.discarded

/-- `sqli_result_fetch` -/
def fetch (setting : Setting) (result : Result) : Status × Result :=
  if isDiscarded setting then (.invalidState, result.markClosed)
  else if result.fetchStatus ≠ .ok then
    (result.fetchStatus, result.markClosed)
  else if result.isClosedByCommit setting then
    (.invalidState, (result.withFetchStatus .invalidState).markClosed)
  else if result.sawError ∨ result.errorCode ≠ 0 then
    (.protoError, (result.withFetchStatus .protoError).markClosed)
  else
    match nextInternal setting result with
    | (row, next) =>
        if next.fetchStatus ≠ .ok then (next.fetchStatus, next.markClosed)
        else (if row then .ok else .eof, next)

/-- `sqli_result_next` -/
def next (setting : Setting) (result : Result) : Bool × Result :=
  ((fetch setting result).1 == .ok, (fetch setting result).2)

/-- `sqli_result_current_span` -/
def currentSpan (setting : Setting) (result : Result) (index : Nat) :
    Except Status (Column × List UInt8) :=
  match result.columns[index]? with
  | none => .error .outOfRange
  | some column =>
      if result.fetchStatus ≠ .ok then .error result.fetchStatus
      else if result.isClosedByCommit setting ∨ result.view.currentRow < 0 ∨
          result.view.atBeforeFirst ∨ result.view.atAfterLast ∨
          result.view.cacheRow ≠ result.view.currentRow then
        .error .invalidState
      else
        match result.view.tuple, result.located.bind (·[index]?) with
        | some tuple, some entry =>
            if tuple.length < entry.start ∨
                tuple.length - entry.start < entry.length then
              .error .protoError
            else .ok (column, (tuple.drop entry.start).take entry.length)
        | _, _ => .error .invalidState

end Libsqli.Result

namespace Libsqli

/-- The calls that move a result. -/
inductive Move where
  | fetch
  | next
  | first
  | last
  | absolute (row : Int32)
  | relative (offset : Int32)
  | previous
  deriving DecidableEq, Repr

/-- What a move returns: `sqli_result_fetch` a status, the others a flag. -/
inductive Outcome where
  | returned (status : Status)
  | flag (success : Bool)
  deriving DecidableEq, Repr

def Outcome.success : Outcome → Bool
  | .returned status => status == .ok
  | .flag success => success

/-- What a move returns that succeeds, or that ends where no row is. -/
def Move.report (move : Move) (success : Bool) : Outcome :=
  match move with
  | .fetch => .returned (if success then .ok else .eof)
  | _ => .flag success

@[simp] theorem Move.success_report (move : Move) (success : Bool) :
    (move.report success).success = success := by
  cases move <;> cases success <;> rfl

namespace Result

def flagged (returned : Bool × Result) : Outcome × Result :=
  (.flag returned.1, returned.2)

def move (setting : Setting) (result : Result) : Move → Outcome × Result
  | .fetch => (.returned (fetch setting result).1, (fetch setting result).2)
  | .next => flagged (next setting result)
  | .first => flagged (first setting result)
  | .last => flagged (last setting result)
  | .absolute row => flagged (absolute setting result row.toInt)
  | .relative offset => flagged (relative setting result offset.toInt)
  | .previous => flagged (previous setting result)

/-- The result after a sequence of moves, each in its own setting. -/
def afterMoves (result : Result) : List (Setting × Move) → Result
  | [] => result
  | call :: calls => afterMoves (result.move call.1 call.2).2 calls

/-- No row is exposed. -/
structure Blank (view : View) : Prop where
  cursor : view.cursor = -1
  absoluteRowNum : view.absoluteRowNum = 0
  tuple : view.tuple = none
  currentRow : view.currentRow = -1

structure OffRow (view : View) : Prop extends Blank view where
  flag : view.atBeforeFirst = true ∨ view.atAfterLast = true

variable {view : View}

theorem Blank.unpositioned (hblank : Blank view) : OffRow view.unpositioned :=
  ⟨⟨hblank.cursor, rfl, hblank.tuple, hblank.currentRow⟩, .inl rfl⟩

theorem Blank.leaveBeforeFirst (hblank : Blank view) :
    Blank view.leaveBeforeFirst :=
  ⟨hblank.cursor, hblank.absoluteRowNum, hblank.tuple, hblank.currentRow⟩

theorem offRow_closed : OffRow .closed :=
  ⟨⟨rfl, rfl, rfl, rfl⟩, .inr rfl⟩

theorem offRow_beforeFirst (view : View) : OffRow view.beforeFirst :=
  ⟨⟨rfl, rfl, rfl, rfl⟩, .inl rfl⟩

theorem offRow_afterLast (view : View) : OffRow view.afterLast :=
  ⟨⟨rfl, rfl, rfl, rfl⟩, .inr rfl⟩

end Result

end Libsqli
