import Libsqli.Session.Statement

namespace Libsqli.Session

open Libsqli.Receive

/-! `sqli_stmt_batch_execute` -/

/-- `sqli_batch_item_result`, without its texts. -/
structure BatchItem where
  status : Status
  rowsAffected : Int
  sqlcode : Int
  deriving DecidableEq

/-- `sqli_batch_result_t` -/
structure BatchResult where
  items : List BatchItem
  successCount : Nat
  errorCount : Nat
  deriving DecidableEq

namespace BatchResult

def empty : BatchResult := ⟨[], 0, 0⟩

end BatchResult

/-- Of the parameters of a row, whether a failure to send them would go
unrecorded: BIND finds no memory, or the octet that pads a chunk is not sent. -/
structure BatchRow where
  unrecorded : Bool

/-- BIND with its streams, and EXECUTE. -/
def requestRow (handle : Handle) (row : BatchRow) : Exchange Unit :=
  fun client =>
    match client.sends 0 with
    | .ok => .ok () (client.answered (.execute handle.stmtId))
    | status =>
        if row.unrecorded then .error status client.spent
        else .error status
          { client.spent with scene := client.scene.withDiagnostic .local }

/-- `sqli_stmt_execute_bound_params` for a row, without an operation. -/
def executeRow (caps : Capabilities) (choice : CursorChoice)
    (handle : Handle) (row : BatchRow) : Exchange Unit := do
  autobegin caps
  requestRow handle row
  prepareForExecute choice handle
  receiveExecute caps
  track

/-- `sqli_stmt_batch_fill_error_item` -/
def errorItem (status : Status) (diagnostic : Diagnostic) : BatchItem :=
  ⟨status, 0, if diagnostic.hasError then diagnostic.sqlcode else 0⟩

/-- An item for the row, or the status that the call returns. -/
def batchRow (caps : Capabilities) (choice : CursorChoice) (handle : Handle)
    (row : BatchRow) : Exchange BatchItem := fun client =>
  match executeRow caps choice handle row client with
  | .ok () after => .ok ⟨.ok, after.result.rowsAffected, 0⟩ after
  | .error status after =>
      if after.scene.diagnostic.hasError && after.result.sawError then
        .ok (errorItem status after.scene.diagnostic) after
      else .error status after

def setDiagnostic (diagnostic : Diagnostic) : Exchange Unit :=
  update fun client =>
    { client with scene := client.scene.withDiagnostic diagnostic }

/-- A check that records its failure. -/
def recordedCheck (passes : Client → Bool) : Exchange Unit := fun client =>
  if passes client then .ok () client
  else .error .invalidState
    { client with scene := client.scene.withDiagnostic .local }

/-- What it does before the first row. -/
def batchStart (readOnly : Bool) (rows : List BatchRow) : Exchange Unit := do
  setDiagnostic .clear
  recordedCheck fun client => !(readOnly || opensCursor client.result)
  recordedCheck fun client => client.txn.state == .ready
  allocate fun _ => true
  allocate fun _ => !rows.isEmpty

end Libsqli.Session
