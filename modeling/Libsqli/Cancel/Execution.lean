import Libsqli.Bind.Lob
import Libsqli.Data.Transition
import Libsqli.Lifecycle.Operation
import Libsqli.Receive.Reports

namespace Libsqli.Cancel

open Libsqli.Bind
open Libsqli.Data.Bytes
open Libsqli.Wire

/-! What a failed request has sent. -/

/-- A failure is an error that leaves something of the bytes unsent. -/
def Cuts (sender : Sender α) (bytes : List UInt8) : Prop :=
  ∀ wire status after, sender wire = .error status after → status ≠ .ok ∧
    ∃ rest, rest ≠ [] ∧ after.sent ++ rest = wire.sent ++ bytes

theorem Cuts.send {bytes : List UInt8} (hbytes : bytes ≠ []) :
    Cuts (Wire.send bytes) bytes := by
  intro wire status after hsend
  have hlength := List.length_pos_iff.mpr hbytes
  unfold Wire.send tcpSend at hsend
  split at hsend
  · cases hsend
  · next hcall =>
    cases hsend
    refine ⟨nofun, ?_⟩
    split at hcall
    · cases hcall
      exact ⟨bytes, hbytes, rfl⟩
    · split at hcall
      · cases hcall
      · next count hfault =>
        cases hcall
        refine ⟨bytes.drop (min count (bytes.length - 1)), ?_, ?_⟩
        · rw [Ne, List.drop_eq_nil_iff]
          omega
        · simp [Outgoing.transmit]

theorem Cuts.pure (value : α) (bytes : List UInt8) :
    Cuts (Pure.pure value) bytes := nofun

theorem Cuts.error {bytes : List UInt8} {status : Status} {α : Type}
    (hbytes : bytes ≠ []) (hstatus : status ≠ .ok) :
    Cuts (require (.error status) : Sender α) bytes := by
  intro wire other after hrun
  cases hrun
  exact ⟨hstatus, bytes, hbytes, rfl⟩

theorem Cuts.bind {first : Sender α} {next : α → Sender β}
    (hfirst : Cuts first front) (hsent : Delivers first front)
    (hnext : ∀ value, Cuts (next value) back) :
    Cuts (first >>= next) (front ++ back) := by
  intro wire status after hrun
  cases hmiddle : first wire with
  | ok value middle =>
      rw [bind_ok next hmiddle] at hrun
      obtain ⟨hstatus, rest, hrest, hbytes⟩ :=
        hnext value middle status after hrun
      refine ⟨hstatus, rest, hrest, ?_⟩
      rw [hbytes, hsent wire value middle hmiddle, List.append_assoc]
  | error other middle =>
      rw [bind_error next hmiddle] at hrun
      cases hrun
      obtain ⟨hstatus, rest, hrest, hbytes⟩ := hfirst wire _ _ hmiddle
      refine ⟨hstatus, rest ++ back, by simp [hrest], ?_⟩
      rw [← List.append_assoc, hbytes, List.append_assoc]

/-- The bytes of a request without streamed parameters. -/
def requestBytes (encode : Encoder) (stmt : Statement) : List UInt8 :=
  (if stmt.params = [] then idMessage stmt
    else buildBindMsg encode stmt false) ++ executeMessage

variable {encode : Encoder} {stmt : Statement}

theorem buildBindMsg_ne_nil (encode : Encoder) (stmt : Statement)
    (terminateGroup : Bool) : buildBindMsg encode stmt terminateGroup ≠ [] := by
  simp [buildBindMsg, bindHeader]

theorem delivers_sendExecute (malloc : Nat → Bool)
    (hlobs : stmt.streamed = []) :
    Delivers (sendExecute malloc encode stmt) (requestBytes encode stmt) := by
  unfold sendExecute requestBytes
  split
  · exact (Delivers.send _).bind fun _ => Delivers.send _
  · next hparams =>
    have hbind := delivers_sendBind malloc encode stmt false
    rw [if_neg hparams] at hbind
    have hnone : Delivers (sendLobs encode stmt) [] := by
      unfold sendLobs
      rw [if_pos hlobs]
      exact Delivers.pure _
    have hlast : Delivers (do sendLobs encode stmt; send executeMessage)
        ([] ++ executeMessage) := hnone.bind fun _ => Delivers.send _
    exact hbind.bind fun _ => hlast

theorem cuts_sendExecute (malloc : Nat → Bool)
    (hlobs : stmt.streamed = []) :
    Cuts (sendExecute malloc encode stmt) (requestBytes encode stmt) := by
  have hexecute : Cuts (Wire.send executeMessage) executeMessage :=
    .send (by decide)
  unfold sendExecute requestBytes
  split
  · exact (Cuts.send (by simp [idMessage])).bind (Delivers.send _)
      fun _ => hexecute
  · next hparams =>
    have hdelivers := delivers_sendBind malloc encode stmt false
    rw [if_neg hparams] at hdelivers
    have hbytes := buildBindMsg_ne_nil encode stmt false
    have hbind : Cuts (sendBindIfNeeded malloc encode stmt false)
        (buildBindMsg encode stmt false) := by
      unfold sendBindIfNeeded
      rw [if_neg hparams]
      split
      · exact .send hbytes
      · exact .error hbytes nofun
    have hnone : Cuts (sendLobs encode stmt) [] := by
      unfold sendLobs
      rw [if_pos hlobs]
      exact .pure _ _
    have hempty : Delivers (sendLobs encode stmt) [] := by
      unfold sendLobs
      rw [if_pos hlobs]
      exact Delivers.pure _
    have hlast : Cuts (do sendLobs encode stmt; send executeMessage)
        ([] ++ executeMessage) := hnone.bind hempty fun _ => hexecute
    exact hbind.bind hdelivers fun _ => hlast

/-- A request is sent whole exactly when the sender succeeds. -/
theorem sent_of_ok (malloc : Nat → Bool) (hlobs : stmt.streamed = [])
    {wire after : Outgoing}
    (hsend : sendExecute malloc encode stmt wire = .ok () after) :
    after.sent = wire.sent ++ requestBytes encode stmt :=
  delivers_sendExecute malloc hlobs wire () after hsend

theorem sent_of_error (malloc : Nat → Bool) (hlobs : stmt.streamed = [])
    {wire after : Outgoing} {status : Status}
    (hsend : sendExecute malloc encode stmt wire = .error status after) :
    status ≠ .ok ∧ after.sent ≠ wire.sent ++ requestBytes encode stmt := by
  obtain ⟨hstatus, rest, hrest, hbytes⟩ :=
    cuts_sendExecute malloc hlobs wire status after hsend
  refine ⟨hstatus, fun hwhole => ?_⟩
  rw [hwhole] at hbytes
  exact hrest (List.append_right_eq_self.mp hbytes)

end Libsqli.Cancel

namespace Libsqli.Cancel

open Libsqli.Bind
open Libsqli.Data
open Libsqli.Receive
open Libsqli.Wire

/-! `sqli_execute_cancelable`, with requests between its steps. -/

/-- What the call finds on the statement and its connection. -/
structure Target where
  stmt : Statement
  socketFd : Int
  connState : ConnState
  connSocketFd : Int
  cursorOpen : Bool
  batchCount : Nat
  inBatch : Bool
  autocommit : Bool
  inTransaction : Bool

/-- The types of INSERT, UPDATE and DELETE. -/
def cancelableTypes : List Nat := [4, 5, 6]

/-- The checks before the operation is registered. -/
def Target.check (target : Target) : Status :=
  if target.connState ≠ .ready ∨ target.socketFd < 0 ∨
      target.socketFd ≠ target.connSocketFd ∨ target.stmt.stmtId.toInt < 0 ∨
      65535 < target.stmt.stmtId.toInt then .invalidState
  else if target.stmt.statementType ∉ cancelableTypes ∨ target.cursorOpen ∨
      target.batchCount ≠ 0 ∨ target.inBatch ∨
      (target.autocommit = false ∧ target.inTransaction = false) then
    .unsupported
  else if target.stmt.typedParams.any fun typed =>
      needsLobStreaming typed.1 typed.2 || typed.2.type == .sblob then
    .unsupported
  else .ok

/-- How far the call has come; an error is on its way to the caller. -/
inductive Stage where
  | entered
  | started
  | sent
  | waiting
  | answered (status : Status)
  | concluded (status : Status)
  | returned (status : Status)
  deriving DecidableEq

structure Run where
  stage : Stage
  operation : Operation
  conn : Conn
  wire : Outgoing
  result : Result
  -- ghost: what the server has sent in reply
  replies : List Message

namespace Run

def withStage (run : Run) (stage : Stage) : Run := { run with stage }

/-- A call on the operation that may end in an urgent send. -/
def afterCall (run : Run) (called : Operation) (sending : Status) : Run :=
  match called.hold with
  | .interrupting _ =>
      { run with
        operation := called.interrupt sending
        conn := run.conn.withLifecycle run.conn.lifecycle.discard }
  | _ => { run with operation := called }

/-- `sqli_cancel_operation_prepare` behind its compare-and-swap: the pin is given
back unless the execution starts. -/
def registered (run : Run) (id : ConnId) (called : Operation)
    (word : Lifecycle) : Run :=
  let pinned := run.conn.withLifecycle word
  let after := called.registered id false pinned
  match after.hold with
  | .unpinning _ =>
      { run with
        stage := .returned (if after.state = .terminal then .canceled
          else if pinned.state = .ready then .unsupported else .invalidState)
        operation := after.withHold .free
        conn := pinned.withLifecycle word.unpin }
  | _ =>
      { run with
        stage := .started
        operation := after
        conn := { pinned with sqlcode := 0 } }

/-- `sqli_stmt_execute_bound_params` up to its EXECUTE. -/
def send (run : Run) (malloc : Nat → Bool) (encode : Encoder)
    (stmt : Statement) : Run :=
  match sendExecute malloc encode stmt run.wire with
  | .ok () wire => { run with stage := .sent, wire }
  | .error status wire => { run with
      stage := .answered status
      wire
      conn := { run.conn with sqlcode := 0 } }

/-- The call that arms the operation. -/
def arm (run : Run) (sending : Status) : Run :=
  match run.operation.arm with
  | some called => (run.afterCall called sending).withStage .waiting
  | none =>
      { run with
        stage := .answered .invalidState
        conn := run.conn.withLifecycle run.conn.lifecycle.discard }

/-- The rest of `sqli_stmt_execute_bound_params`. -/
def receive (run : Run) (caps : Capabilities) (settings : CursorSettings)
    (stmtId : Int) (messages : List Message) (looks allocs : Nat → Bool) : Run :=
  let reception := receiveExecuteResult caps messages
    ⟨looks, allocs, prepareResultForExecute settings stmtId run.result,
      ⟨false, run.conn.sqlcode.toInt⟩⟩
  { run with
    stage := .answered reception.status
    conn := { run.conn with
      sqlcode := Int32.ofInt reception.scene.diagnostic.sqlcode }
    result := reception.scene.result
    replies := messages }

/-- An answer without DONE is an error. -/
def checkDone (run : Run) (status : Status) : Status × Conn :=
  if status = .ok ∧ run.result.sawDone = false then
    (.protoError, { run.conn with sqlcode := 0 })
  else (status, run.conn)

/-- The statuses after which the connection is given up. -/
def losesConnection (status : Status) (sqlcode : Int32) : Bool :=
  status == .ioError || status == .timeout ||
    (status == .protoError && sqlcode == 0)

def interruptCode : Int32 := -213

/-- `sqli_execute_cancelable` after the execution. -/
def conclude (run : Run) (status : Status) : Run :=
  let checked := run.checkDone status
  { run with
    stage := .concluded
      (if checked.1 = .protoError ∧ checked.2.sqlcode = interruptCode then
        .canceled
      else checked.1)
    conn :=
      if losesConnection checked.1 checked.2.sqlcode then
        checked.2.withLifecycle checked.2.lifecycle.discard
      else checked.2 }

/-- `sqli_cancel_operation_finish` -/
def finish (run : Run) (id : ConnId) (status : Status) (outcome : Status) :
    Run :=
  let unknown := run.operation.responseUnknown status run.conn
  let marked :=
    if unknown then run.conn.withLifecycle run.conn.lifecycle.discard
    else run.conn
  let after := ((run.operation.finish id status run.conn).dispose id unknown
    marked outcome).withHold .free
  let disposed :=
    if marked.lifecycle.discarded then (marked.discard outcome).2 else marked
  { run with
    stage := .returned (if after.snapshot.disposalStatus = .ok then status
      else after.snapshot.disposalStatus)
    operation := after
    conn := disposed.withLifecycle disposed.lifecycle.unpin }

end Run

/-- Whose step it is. -/
inductive Actor where
  | executor
  | requester
  | elsewhere

/-- What stays fixed during a run. -/
structure Call where
  target : Target
  conn : ConnId
  malloc : Nat → Bool
  encode : Encoder
  caps : Capabilities
  settings : CursorSettings

inductive Step (call : Call) (run : Run) : Actor → Run → Prop where
  | refuse : run.stage = .entered → call.target.check ≠ .ok →
      Step call run .executor (run.withStage (.returned call.target.check))
  | unregistered : run.stage = .entered → call.target.check = .ok →
      run.operation.register call.conn false run.conn.lifecycle = none →
        Step call run .executor (run.withStage (.returned .invalidState))
  | register {called : Operation} {word : Lifecycle} : run.stage = .entered →
      call.target.check = .ok →
        run.operation.register call.conn false run.conn.lifecycle =
          some (called, word) →
          Step call run .executor (run.registered call.conn called word)
  | send : run.stage = .started → Step call run .executor
      (run.send call.malloc call.encode call.target.stmt)
  | arm (sending : Status) : run.stage = .sent →
      Step call run .executor (run.arm sending)
  | receive (messages : List Message) (looks allocs : Nat → Bool) :
      run.stage = .waiting → Step call run .executor (run.receive call.caps
        call.settings call.target.stmt.stmtId.toInt messages looks allocs)
  | conclude {status : Status} : run.stage = .answered status →
      Step call run .executor (run.conclude status)
  | finish {status : Status} (outcome : Status) :
      run.stage = .concluded status →
        Step call run .executor (run.finish call.conn status outcome)
  | request (sending : Status) : Step call run .requester
      (run.afterCall run.operation.request.2 sending)
  -- other threads change the lifecycle word, but never take a discard back
  | lifecycle (word : Lifecycle) :
      (run.conn.lifecycle.discarded = true → word.discarded = true) →
        Step call run .elsewhere
          { run with conn := run.conn.withLifecycle word }

end Libsqli.Cancel
