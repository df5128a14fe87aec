import Libsqli.Receive.Verdict
import Libsqli.Session.Batch
import Libsqli.Session.ServerErrors

namespace Libsqli.Session

open Libsqli.Data.Program
open Libsqli.Receive

/-! What the items of a batch say of its rows. -/

/-- A success reports the count of the reply's DONE, and the reply has no error;
an error reports the code of the reply's. -/
structure Truthful (caps : Capabilities) (reply : List Message)
    (item : BatchItem) : Prop where
  succeeded : item.status = .ok → errors reply = [] ∧
    ∃ payload, (dones reply).head? = some payload ∧
      item.rowsAffected = payload.rowsAffected caps.longRowId
  refused : item.status ≠ .ok → ∃ payload,
    (errors reply).head? = some payload ∧
      item.sqlcode = payload.sqlcode.toInt

/-- Where the first group ends there is an error, or a DONE with none behind. -/
def Conclusive : Option (Message × List Message) → Prop
  | none => True
  | some (.err _, _) => True
  | some (.done _, rest) => errors rest = []
  | some _ => False

section Batch

variable (caps : Capabilities) (choice : CursorChoice) (handle : Handle)

/-- A row fails without an error of the server: its BEGIN, its sends or its
reception. -/
inductive LocallyFails (row : BatchRow) (client : Client) :
    Status → Prop where
  | begin (hbegin : autobegin caps client = .error status after) :
      LocallyFails row client status
  | unsent (hbegin : autobegin caps client = .ok () ready)
      (hsend : ready.sends 0 ≠ .ok) :
      LocallyFails row client (ready.sends 0)
  | reception (hbegin : autobegin caps client = .ok () ready)
      (hsend : ready.sends 0 = .ok)
      (hnone : errors (ready.answers.headD []) = [])
      (hrun : executeRow caps choice handle row client = .error status after) :
      LocallyFails row client status

/-- The request of a row does not get out, and the connection has no error
recorded. -/
inductive Unrecorded (row : BatchRow) (client : Client) : Prop where
  | begin (hbegin : autobegin caps client = .error status after)
      (hclear : after.scene.diagnostic.hasError = false) :
      Unrecorded row client
  | request (hbegin : autobegin caps client = .ok () ready)
      (hsend : ready.sends 0 ≠ .ok) (hrow : row.unrecorded = true)
      (hclear : ready.scene.diagnostic.hasError = false) :
      Unrecorded row client

/-- A row whose request does not get out finds no error seen before, unless it goes
unrecorded; behind a request nothing of an earlier reply counts, and its own reply
is conclusive. -/
structure RowMeets (row : BatchRow) (client : Client) : Prop where
  sent : client.result.sawError = true →
    (∃ ready, autobegin caps client = .ok () ready ∧ ready.sends 0 = .ok) ∨
      Unrecorded caps row client
  heard : ∀ ready, autobegin caps client = .ok () ready →
    ready.sends 0 = .ok →
      errors ready.incoming = [] ∧ dones ready.incoming = [] ∧
        Conclusive (firstEnd (ready.incoming ++ ready.answers.headD [])
          ready.scene.looks)

/-! The rows in turn, each as the one before has left the client. -/

end Batch

variable {caps : Capabilities} {choice : CursorChoice} {handle : Handle}
  {row : BatchRow} {client ready after : Client} {status : Status}
  {item : BatchItem}

/-! The parts of a row's execution. -/

abbrev KeepsResult (program : Exchange Unit) : Prop :=
  ∀ result, Holds (fun before : Client => before.result = result) program
    (fun _ after => after.result = result) fun _ after => after.result = result

theorem keepsResult_check (status : Client → Status) :
    KeepsResult (check status) :=
  fun _ => Holds.branch (fun _ h => h.1) fun _ h => h.1

theorem keepsResult_request (wanted : Request) :
    KeepsResult (request wanted) := by
  intro result before hbefore
  unfold request
  cases before.sends 0 with
  | ok => exact hbefore
  | _ => exact hbefore

theorem keepsResult_aside (program : Exchange Unit) :
    KeepsResult (aside program) := by
  intro result before hbefore
  unfold aside
  cases program (before.withResult blankResult) with
  | ok value after => exact hbefore
  | error status after => exact hbefore

theorem keepsResult_begin : KeepsResult (begin caps) := fun result =>
  (keepsResult_check _ result).bind fun _ =>
    (keepsResult_check _ result).bind fun _ =>
      (keepsResult_request _ result).bind fun _ =>
        (keepsResult_aside _ result).bind fun _ => fun _ hresult => hresult

/-- The implicit BEGIN has a result of its own. -/
theorem keepsResult_autobegin : KeepsResult (autobegin caps) := fun result =>
  Holds.branch (fun _ h => h.1)
    (Holds.branch (fun before h => keepsResult_begin result before h.1.1)
      fun _ h => h.1.1)

theorem autobegin_ok (hbegin : autobegin caps client = .ok () ready) :
    ready.result = client.result := by
  have hresult := @keepsResult_autobegin caps client.result client rfl
  rw [hbegin] at hresult
  exact hresult

theorem autobegin_error (hbegin : autobegin caps client = .error status after) :
    after.result = client.result := by
  have hresult := @keepsResult_autobegin caps client.result client rfl
  rw [hbegin] at hresult
  exact hresult

theorem executeRow_begin
    (hbegin : autobegin caps client = .error status after) :
    executeRow caps choice handle row client = .error status after := by
  rw [executeRow, bind_apply, hbegin]

theorem executeRow_unsent (hbegin : autobegin caps client = .ok () ready)
    (hsend : ready.sends 0 ≠ .ok) :
    ∃ after, executeRow caps choice handle row client =
      .error (ready.sends 0) after ∧ after.result = client.result := by
  have hrequest : ∃ after, requestRow handle row ready =
      .error (ready.sends 0) after ∧ after.result = ready.result := by
    unfold requestRow
    cases hstatus : ready.sends 0 with
    | ok => exact absurd hstatus hsend
    | _ =>
        dsimp only
        split
        · exact ⟨_, rfl, rfl⟩
        · exact ⟨_, rfl, rfl⟩
  obtain ⟨after, hrun, hresult⟩ := hrequest
  refine ⟨after, ?_, hresult.trans (autobegin_ok hbegin)⟩
  rw [executeRow, bind_apply, hbegin]
  dsimp only
  rw [bind_apply, hrun]

theorem executeRow_unrecorded (hbegin : autobegin caps client = .ok () ready)
    (hsend : ready.sends 0 ≠ .ok) (hrow : row.unrecorded = true) :
    executeRow caps choice handle row client =
      .error (ready.sends 0) ready.spent := by
  have hrequest : requestRow handle row ready =
      .error (ready.sends 0) ready.spent := by
    unfold requestRow
    cases hstatus : ready.sends 0 with
    | ok => exact absurd hstatus hsend
    | _ => exact if_pos hrow
  rw [executeRow, bind_apply, hbegin]
  dsimp only
  rw [bind_apply, hrequest]

/-- The reception of what answers a row. -/
def rowReception (caps : Capabilities) (choice : CursorChoice)
    (handle : Handle) (ready : Client) : Reception :=
  receiveExecuteResult caps (ready.incoming ++ ready.answers.headD [])
    (cleared choice handle ready).scene

/-- The outcome of a row is that of its reception. -/
structure RowReceived (reception : Reception)
    (outcome : EStateM.Result Status Client Unit) : Prop where
  accepted : reception.status = .ok → ∃ after, outcome = .ok () after ∧
    after.result.rowsAffected = reception.scene.result.rowsAffected
  refused : reception.status ≠ .ok → ∃ after,
    outcome = .error reception.status after ∧ after.scene = reception.scene

theorem executeRow_sent (hbegin : autobegin caps client = .ok () ready)
    (hsend : ready.sends 0 = .ok) :
    RowReceived (rowReception caps choice handle ready)
      (executeRow caps choice handle row client) := by
  obtain ⟨taken, hreceive⟩ :=
    @receiveExecute_apply caps (cleared choice handle ready)
  have hreception : receiveExecuteResult caps
      (cleared choice handle ready).incoming
      (cleared choice handle ready).scene =
        rowReception caps choice handle ready := rfl
  have hrequest : requestRow handle row ready =
      .ok () (ready.answered (.execute handle.stmtId)) := by
    unfold requestRow
    rw [hsend]
  have hprepare : prepareForExecute choice handle
      (ready.answered (.execute handle.stmtId)) =
        .ok () (cleared choice handle ready) := rfl
  have hrun : executeRow caps choice handle row client =
      (receiveExecute caps >>= fun _ => track)
        (cleared choice handle ready) := by
    rw [executeRow, bind_apply, hbegin]
    dsimp only
    rw [bind_apply, hrequest]
    dsimp only
    rw [bind_apply, hprepare]
  rw [hreception] at hreceive
  rw [hrun, bind_apply, hreceive]
  generalize rowReception caps choice handle ready = reception
  constructor
  · intro hok
    rw [if_pos hok]
    exact ⟨_, rfl, rfl⟩
  · intro hfailed
    rw [if_neg hfailed]
    exact ⟨_, rfl, rfl⟩

theorem rowReception_verdict (ready : Client) :
    Verdict caps (rowReception caps choice handle ready)
      (firstEnd (ready.incoming ++ ready.answers.headD [])
        ready.scene.looks) :=
  receiveExecuteResult_verdict

/-! A row of the batch. -/

theorem batchRow_ok
    (hrun : executeRow caps choice handle row client = .ok () after) :
    batchRow caps choice handle row client =
      .ok ⟨.ok, after.result.rowsAffected, 0⟩ after := by
  rw [batchRow, hrun]

theorem batchRow_item (hdiagnostic : after.scene.diagnostic.hasError = true)
    (herror : after.result.sawError = true)
    (hrun : executeRow caps choice handle row client = .error status after) :
    batchRow caps choice handle row client =
      .ok (errorItem status after.scene.diagnostic) after := by
  rw [batchRow, hrun]
  dsimp only
  rw [hdiagnostic, herror]
  rfl

/-- Without an error seen the call returns the status. -/
theorem batchRow_error (hclean : after.result.sawError = false)
    (hrun : executeRow caps choice handle row client = .error status after) :
    batchRow caps choice handle row client = .error status after := by
  rw [batchRow, hrun]
  dsimp only
  rw [hclean, Bool.and_false]
  rfl

/-- Nor does it make an item of a failure that is not recorded. -/
theorem batchRow_unrecorded (hclear : after.scene.diagnostic.hasError = false)
    (hrun : executeRow caps choice handle row client = .error status after) :
    batchRow caps choice handle row client = .error status after := by
  rw [batchRow, hrun]
  dsimp only
  rw [hclear, Bool.false_and]
  rfl

theorem Unrecorded.batchRow (hunrecorded : Unrecorded caps row client)
    (hrun : executeRow caps choice handle row client = .error status after) :
    batchRow caps choice handle row client = .error status after := by
  cases hunrecorded with
  | @begin failure last hbegin hclear =>
      have hfailed := @executeRow_begin caps choice handle row client last
        failure hbegin
      rw [hrun] at hfailed
      cases hfailed
      exact batchRow_unrecorded hclear hrun
  | @request ready hbegin hsend hrow hclear =>
      have hfailed := @executeRow_unrecorded caps choice handle row client ready
        hbegin hsend hrow
      rw [hrun] at hfailed
      cases hfailed
      exact batchRow_unrecorded hclear hrun

theorem errors_append (first second : List Message) :
    errors (first ++ second) = errors first ++ errors second :=
  List.filterMap_append

theorem dones_append (first second : List Message) :
    dones (first ++ second) = dones first ++ dones second :=
  List.filterMap_append

/-- The request does not get out. -/
def Unsent (caps : Capabilities) (client : Client) : Prop :=
  ∀ ready, autobegin caps client = .ok () ready → ready.sends 0 ≠ .ok

theorem unsent_of_begin
    (hbegin : autobegin caps client = .error status after) :
    Unsent caps client := by
  intro ready hready
  rw [hbegin] at hready
  cases hready

theorem unsent_of_sends (hbegin : autobegin caps client = .ok () ready)
    (hsend : ready.sends 0 ≠ .ok) : Unsent caps client := by
  intro other hother
  rw [hbegin] at hother
  cases hother
  exact hsend

/-- What a row whose request gets out comes to. -/
theorem RowMeets.answered (hmeets : RowMeets caps row client)
    (hbegin : autobegin caps client = .ok () ready)
    (hsend : ready.sends 0 = .ok) :
    (∃ status after,
        executeRow caps choice handle row client = .error status after ∧
          batchRow caps choice handle row client = .error status after) ∨
      ∃ item after, batchRow caps choice handle row client = .ok item after ∧
        Truthful caps (ready.answers.headD []) item ∧
        (item.status = .ok ↔ ∃ after,
          executeRow caps choice handle row client = .ok () after) := by
  obtain ⟨herrors, hdones, hconclusive⟩ := hmeets.heard ready hbegin hsend
  have hreceived := @executeRow_sent caps choice handle row client ready hbegin
    hsend
  have hverdict := @rowReception_verdict caps choice handle ready
  have hallErrors := errors_append ready.incoming (ready.answers.headD [])
  have hallDones := dones_append ready.incoming (ready.answers.headD [])
  rw [herrors, List.nil_append] at hallErrors
  rw [hdones, List.nil_append] at hallDones
  generalize rowReception caps choice handle ready = reception
    at hreceived hverdict
  rcases hverdict with ⟨hfailed, hclean⟩ | hconcludes
  · obtain ⟨after, hrun, hscene⟩ := hreceived.refused hfailed
    have hseen : after.result.sawError = false := by
      rw [Client.result, hscene]
      exact hclean
    exact .inl ⟨_, after, hrun, batchRow_error hseen hrun⟩
  · right
    cases hend : firstEnd (ready.incoming ++ ready.answers.headD [])
        ready.scene.looks with
    | none =>
        rw [hend] at hconcludes
        cases hconcludes
    | some ending =>
        obtain ⟨last, rest⟩ := ending
        obtain ⟨hlastErrors, hlastDones⟩ := firstEnd_errors hend
        rw [hend] at hconcludes hconclusive
        rw [hallErrors] at hlastErrors
        rw [hallDones] at hlastDones
        cases last with
        | done payload =>
            obtain ⟨hstatus, hcount⟩ := hconcludes
            obtain ⟨after, hrun, hafter⟩ := hreceived.accepted hstatus
            have hrest : errors rest = [] := hconclusive
            refine ⟨_, after, batchRow_ok hrun, ⟨fun _ => ⟨?_, payload, ?_, ?_⟩,
              fun hrefused => absurd rfl hrefused⟩, ?_⟩
            · rw [hlastErrors, hrest]
              rfl
            · rw [hlastDones]
              rfl
            · exact hafter.trans hcount
            · exact iff_of_true rfl ⟨after, hrun⟩
        | err payload =>
            obtain ⟨hstatus, hdiagnostic, hsaw⟩ := hconcludes
            obtain ⟨after, hrun, hscene⟩ :=
              hreceived.refused (by rw [hstatus]; nofun)
            have hseen : after.result.sawError = true := by
              rw [Client.result, hscene]
              exact hsaw
            have hrecorded : after.scene.diagnostic = .server payload := by
              rw [hscene]
              exact hdiagnostic
            have hitem := batchRow_item (by rw [hrecorded]; rfl) hseen hrun
            rw [hstatus] at hrun hitem
            rw [hrecorded] at hitem
            refine ⟨_, after, hitem, ⟨nofun, fun _ => ⟨payload, ?_, rfl⟩⟩, ?_⟩
            · rw [hlastErrors]
              rfl
            · refine iff_of_false nofun ?_
              rintro ⟨other, hother⟩
              rw [hrun] at hother
              cases hother
        | _ => cases hconclusive

/-- A row that fails before its request is out. -/
theorem RowMeets.unsent (hmeets : RowMeets caps row client)
    (hunsent : Unsent caps client)
    (hrun : executeRow caps choice handle row client = .error status after)
    (hresult : after.result = client.result) :
    batchRow caps choice handle row client = .error status after := by
  cases hsaw : client.result.sawError with
  | false => exact batchRow_error (by rw [hresult]; exact hsaw) hrun
  | true =>
      rcases hmeets.sent hsaw with ⟨ready, hbegin, hsend⟩ | hunrecorded
      · exact absurd hsend (hunsent ready hbegin)
      · exact hunrecorded.batchRow hrun

theorem RowMeets.fails (hmeets : RowMeets caps row client)
    (hfails : LocallyFails caps choice handle row client status) :
    ∃ after, batchRow caps choice handle row client = .error status after := by
  cases hfails with
  | @begin status after hbegin =>
      exact ⟨after, hmeets.unsent (unsent_of_begin hbegin)
        (executeRow_begin hbegin) (autobegin_error hbegin)⟩
  | @unsent ready hbegin hsend =>
      obtain ⟨after, hrun, hresult⟩ :=
        @executeRow_unsent caps choice handle row client ready hbegin hsend
      exact ⟨after,
        hmeets.unsent (unsent_of_sends hbegin hsend) hrun hresult⟩
  | @reception ready status after hbegin hsend hnone hrun =>
      rcases @RowMeets.answered caps choice handle row client ready hmeets
        hbegin hsend with ⟨found, last, hexecute, hfailed⟩ |
          ⟨item, last, hitem, htrue, hok⟩
      · rw [hexecute] at hrun
        cases hrun
        exact ⟨_, hfailed⟩
      · have hrefused : item.status ≠ .ok := by
          rw [ne_eq, hok]
          rintro ⟨other, hother⟩
          rw [hother] at hrun
          cases hrun
        obtain ⟨payload, hpayload, -⟩ := htrue.refused hrefused
        rw [hnone] at hpayload
        cases hpayload

/-! All rows. -/

variable {rows : List BatchRow} {batch result : BatchResult}

def insertBatch (answers : List (List Message)) (sends : Nat → Status) :
    Client :=
  { (promptClient answers).withResult { blankResult with statementType := 6 }
    with sends := sends }

def uniqueReply : List Message := [.err uniqueViolation, .eot]

def insertedReply : List Message := [.done ⟨0, 1, 1, 0⟩, .eot]

def twoRows : List BatchRow := [⟨false⟩, ⟨false⟩]

/-- One row is in, the other is refused. -/
def twoAnswers : Client := insertBatch [insertedReply, uniqueReply] fun _ => .ok

def firstRow : Client := stateOf (batchStart false twoRows twoAnswers)

end Libsqli.Session
