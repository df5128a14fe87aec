import Libsqli.Session.Client

namespace Libsqli.Session

open Libsqli.Receive

/-! `sqli_prepare` and `sqli_execute`. -/

/-- What stays with a statement from its preparation on. -/
structure Handle where
  stmtId : Int
  socketFd : Int
  hasParams : Bool

/-- What the connection has set for cursors. -/
structure CursorChoice where
  cursorType : CursorType
  holdability : Holdability

def CursorChoice.settings (choice : CursorChoice) (txn : Txn) :
    CursorSettings :=
  ⟨choice.cursorType, choice.holdability, txn.commitEpoch, txn.rollbackEpoch⟩

/-- `sqli_send_stmt_control` -/
def stmtControl (caps : Capabilities) (wanted : Request) : Exchange Unit := do
  request wanted
  aside (receive caps .otherRecv)
  attempt (drainTail caps)

/-- `sqli_stmt_close_release` -/
def closeRelease (caps : Capabilities) (stmtId : Int) : Exchange Unit := do
  attempt (stmtControl caps (.close stmtId))
  attempt (stmtControl caps (.release stmtId))

/-- The cursor is gone with its transaction. -/
def Client.cursorLost (client : Client) : Bool :=
  client.result.rollbackEpoch != client.txn.rollbackEpoch ||
    (client.result.holdability == .closeAtCommit &&
      client.result.commitEpoch != client.txn.commitEpoch)

/-- `sqli_stmt_best_effort_control`: nothing is read. -/
def bestEffortControl (handle : Handle) (wanted : Request) : Exchange Unit :=
  fun client =>
    if handle.socketFd < 0 ∨ handle.stmtId < 0 ∨
        client.txn.lifecycle.discarded ∨
        client.txn.socketFd ≠ handle.socketFd then .ok () client
    else attempt (request wanted) client

def setCursor (isOpen : Bool) : Exchange Unit :=
  update fun client => { client with cursorOpen := isOpen }

/-- `sqli_stmt_close_cursor_if_open` -/
def closeCursorIfOpen (caps : Capabilities) (handle : Handle) :
    Exchange Unit := fun client =>
  if client.cursorOpen = false then .ok () client
  else if client.cursorLost then setCursor false client
  else if 0 < client.txn.socketFd ∧ client.txn.state = .ready ∧
      0 ≤ handle.stmtId ∧ client.txn.lifecycle.discarded = false then
    (do
      stmtControl caps (.close handle.stmtId)
      setCursor false : Exchange Unit) client
  else if 0 < handle.socketFd ∧ 0 ≤ handle.stmtId then
    (do
      bestEffortControl handle (.close handle.stmtId)
      setCursor false : Exchange Unit) client
  else setCursor false client

def statementSelect : Nat := 2
def statementProcedure : Nat := 56

/-- The statements that `sqli_execute` opens a cursor for. -/
def opensCursor (result : Result) : Bool :=
  result.statementType == statementSelect ||
    (result.statementType == statementProcedure && !result.columns.isEmpty)

def clearFlags (result : Result) : Result :=
  { result with sawDone := false, sawError := false }

def clearEof (result : Result) : Result := { result with eof := false }

/-- One round of the fetch loops. -/
def fetchRound (caps : Capabilities) : Exchange Unit := do
  updateResult clearFlags
  receive caps .fetchRecv

def nextFetch (stmtId : Int) : Exchange Unit := do
  updateResult clearEof
  request (.fetch stmtId)

theorem nextFetch_rows {stmtId : Int} {client after : Client}
    (hnext : nextFetch stmtId client = .ok () after) :
    after.result.rows = client.result.rows := by
  unfold nextFetch at hnext
  rw [Data.Program.bind_apply] at hnext
  change request _ _ = _ at hnext
  unfold request at hnext
  split at hnext
  · cases hnext
    rfl
  · cases hnext

/-- What decreases from round to round. -/
def Client.room (client : Client) : Nat :=
  int32Max.toNat - client.result.rows.val.length

theorem nextFetch_room {stmtId : Int} {client after behind : Client}
    (hgrown : ¬ after.rowCount ≤ client.rowCount)
    (hnext : nextFetch stmtId after = .ok () behind) :
    behind.room < client.room := by
  have hsame := nextFetch_rows hnext
  have hbound := after.result.rows.property
  unfold Client.rowCount Result.rowCount at hgrown
  unfold Client.room
  unfold Client.result at hbound hsame ⊢
  unfold int32Max at hbound ⊢
  rw [hsame]
  omega

/-- The fetch loops of `sqli_query_ex` and of `sqli_stmt_execute_select`: they
go on as long as rows come. -/
def fetchLoop (caps : Capabilities) (stmtId : Int) : Exchange Unit :=
  fun client =>
    match fetchRound caps client with
    | .error status after => .error status after
    | .ok () after =>
        if _hgrown : after.rowCount ≤ client.rowCount then .ok () after
        else
          match _hnext : nextFetch stmtId after with
          | .error status behind => .error status behind
          | .ok () behind => fetchLoop caps stmtId behind
termination_by client => client.room
decreasing_by exact nextFetch_room _hgrown _hnext

/-- The loop without its measure. -/
theorem fetchLoop_apply (caps : Capabilities) (stmtId : Int)
    (client : Client) :
    fetchLoop caps stmtId client =
      match fetchRound caps client with
      | .error status after => .error status after
      | .ok () after =>
          if after.rowCount ≤ client.rowCount then .ok () after
          else (do nextFetch stmtId; fetchLoop caps stmtId : Exchange Unit)
            after := by
  rw [fetchLoop]
  cases fetchRound caps client with
  | error status after => rfl
  | ok value after =>
      dsimp only
      split
      · rfl
      · rw [Data.Program.bind_apply]
        split <;> next hnext => rw [hnext]

theorem fetchLoop_respects {caps : Capabilities} {stmtId : Int}
    {related : Client → Client → Prop}
    (hround : Data.Program.Respects related (fetchRound caps))
    (hnext : Data.Program.Respects related (nextFetch stmtId))
    (hcount : ∀ client other, related client other →
      client.rowCount = other.rowCount) :
    Data.Program.Respects related (fetchLoop caps stmtId) := by
  intro client
  induction hroom : client.room using Nat.strong_induction_on
    generalizing client with
  | _ room ih =>
      intro other hrelated
      have hafter := hround client other hrelated
      rw [fetchLoop_apply, fetchLoop_apply, ← hcount client other hrelated]
      cases hleft : fetchRound caps client with
      | error status behind =>
          cases hright : fetchRound caps other with
          | error found last =>
              rw [hleft, hright] at hafter
              exact hafter
          | ok value last =>
              rw [hleft, hright] at hafter
              cases hafter
      | ok value behind =>
          cases hright : fetchRound caps other with
          | error found last =>
              rw [hleft, hright] at hafter
              cases hafter
          | ok found last =>
              rw [hleft, hright] at hafter
              obtain ⟨-, hbehind⟩ := hafter
              dsimp only
              rw [← hcount behind last hbehind]
              by_cases hgrown : behind.rowCount ≤ client.rowCount
              · rw [if_pos hgrown, if_pos hgrown]
                exact ⟨rfl, hbehind⟩
              · have hagain := hnext behind last hbehind
                rw [if_neg hgrown, if_neg hgrown, Data.Program.bind_apply,
                  Data.Program.bind_apply]
                cases hfetch : nextFetch stmtId behind with
                | error status first =>
                    cases hother : nextFetch stmtId last with
                    | error found second =>
                        rw [hfetch, hother] at hagain
                        exact hagain
                    | ok found second =>
                        rw [hfetch, hother] at hagain
                        cases hagain
                | ok value first =>
                    cases hother : nextFetch stmtId last with
                    | error found second =>
                        rw [hfetch, hother] at hagain
                        cases hagain
                    | ok found second =>
                        rw [hfetch, hother] at hagain
                        exact ih first.room
                          (hroom ▸ nextFetch_room hgrown hfetch) first rfl second
                          hagain.2

/-- Nothing has gone into the cleared result yet. -/
def prepareForExecute (choice : CursorChoice) (handle : Handle) :
    Exchange Unit :=
  update fun client => { client.withResult (prepareResultForExecute
    (choice.settings client.txn) handle.stmtId client.result) with
    taken := [] }

def bindIfNeeded (caps : Capabilities) (handle : Handle) : Exchange Unit :=
  if handle.hasParams then do
    request (.bind handle.stmtId)
    aside (receive caps .otherRecv)
  else pure ()

/-- `sqli_stmt_execute_select` -/
def executeSelect (caps : Capabilities) (choice : CursorChoice)
    (handle : Handle) : Exchange Unit := do
  autobegin caps
  bindIfNeeded caps handle
  prepareForExecute choice handle
  request (.open handle.stmtId)
  setCursor true
  receive caps .otherRecv
  nextFetch handle.stmtId
  fetchLoop caps handle.stmtId

/-- `sqli_stmt_receive_execute_result` -/
def receiveExecute (caps : Capabilities) : Exchange Unit := do
  update fun client => client.took (takenBy caps .otherRecv client.rowCount
    client.incoming (client.scene.withResult (rearm client.result)))
  ofReception fun client =>
    receiveExecuteResult caps client.incoming client.scene

/-- `sqli_stmt_execute_bound_params`; the request is BIND and EXECUTE together. -/
def executeBoundParams (caps : Capabilities) (choice : CursorChoice)
    (handle : Handle) : Exchange Unit := do
  autobegin caps
  request (.execute handle.stmtId)
  prepareForExecute choice handle
  receiveExecute caps
  track

/-- `sqli_execute` once no cursor is open. -/
def executeClosed (caps : Capabilities) (choice : CursorChoice)
    (handle : Handle) : Exchange Unit := fun client =>
  if opensCursor client.result then
    onError (executeSelect caps choice handle)
      (closeCursorIfOpen caps handle) client
  else executeBoundParams caps choice handle client

def checkKept : Exchange Unit := check fun client =>
  if client.txn.lifecycle.discarded then .invalidState else .ok

/-- `sqli_execute` -/
def execute (caps : Capabilities) (choice : CursorChoice) (handle : Handle) :
    Exchange Unit := do
  checkKept
  closeCursorIfOpen caps handle
  executeClosed caps choice handle

def checkReady : Exchange Unit := check fun client =>
  if client.txn.state = .ready then .ok else .invalidState

/-- An allocation that is made only where it is wanted. -/
def allocate (wanted : Client → Bool) : Exchange Unit := fun client =>
  if wanted client = false then .ok () client
  else if client.scene.allocs 0 then
    .ok () { client with scene := client.scene.allocated }
  else .error .allocFail { client with scene := client.scene.allocated }

end Libsqli.Session
