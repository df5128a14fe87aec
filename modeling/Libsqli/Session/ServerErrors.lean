import Libsqli.Receive.Execute
import Libsqli.Session.Reexecution

namespace Libsqli.Session

open Libsqli.Data.Program
open Libsqli.Receive

/-! What `sqli_execute` makes of the errors in the reply to its EXECUTE. -/

def errors : List Message → List ServerError :=
  List.filterMap fun
    | .err payload => some payload
    | _ => none

def dones : List Message → List Done :=
  List.filterMap fun
    | .done payload => some payload
    | _ => none

/-- OK stands for a reply without an error and reports the count of its DONE; any
error is reported with its code. -/
structure Heard (caps : Capabilities) (reply : List Message)
    (outcome : EStateM.Result Status Client Unit) : Prop where
  accepted : ∀ after, outcome = .ok () after → errors reply = [] ∧
    ∀ payload ∈ (dones reply).head?,
      after.result.rowsAffected = payload.rowsAffected caps.longRowId
  refused : errors reply ≠ [] → ∃ status after, outcome = .error status after ∧
    ∃ payload ∈ errors reply,
      after.scene.diagnostic.sqlcode = payload.sqlcode.toInt

/-- What is left behind the first group hides neither an error nor the count. -/
def HidesNothing (caps : Capabilities) (counted : Int) :
    Option (Message × List Message) → Prop
  | none => True
  | some (.err _, _) => True
  | some (.done _, rest) => errors rest = []
  | some (_, rest) => errors rest = [] ∧
      ∀ payload ∈ (dones rest).head?,
        counted = payload.rowsAffected caps.longRowId

variable {caps : Capabilities} {choice : CursorChoice} {handle : Handle}
  {client ready begun : Client} {reply : List Message}

/-- What stands before the end of the first group, and how the reply goes on. -/
theorem firstEnd_errors {looks : Nat → Bool} {last : Message}
    {rest : List Message} (hend : firstEnd reply looks = some (last, rest)) :
    errors reply = errors [last] ++ errors rest ∧
      dones reply = dones [last] ++ dones rest := by
  induction reply generalizing looks with
  | nil => cases hend
  | cons message messages ih =>
      cases message with
      | done payload =>
          cases hend
          exact ⟨rfl, rfl⟩
      | err payload =>
          cases hend
          exact ⟨rfl, rfl⟩
      | eot =>
          rw [firstEnd] at hend
          split at hend
          · exact ih hend
          · split at hend
            · exact ih hend
            · cases hend
              exact ⟨rfl, rfl⟩
      | _ => exact ih hend

theorem firstEnd_none {looks : Nat → Bool}
    (hend : firstEnd reply looks = none) : errors reply = [] := by
  induction reply generalizing looks with
  | nil => rfl
  | cons message messages ih =>
      cases message with
      | done payload => cases hend
      | err payload => cases hend
      | eot =>
          rw [firstEnd] at hend
          split at hend
          · exact ih hend
          · split at hend
            · exact ih hend
            · cases hend
      | _ => exact ih hend

theorem receiveExecuteResult_ends {scene : Scene}
    (hanswers : ∀ message ∈ reply, message.answersExecute = true) :
    EndsAt caps scene (receiveExecuteResult caps reply scene)
      (firstEnd reply scene.looks) := by
  have hends : EndsAt caps (scene.withResult (rearm scene.result))
      (receiveLoop caps .otherRecv
        (scene.withResult (rearm scene.result)).result.rowCount reply
        (scene.withResult (rearm scene.result)))
      (firstEnd reply scene.looks) := receiveLoop_ends rfl hanswers
  unfold receiveExecuteResult executeGuard
  rw [executeLoop_eq]
  unfold receiveDispatch
  dsimp only
  generalize receiveLoop caps .otherRecv _ reply
    (scene.withResult (rearm scene.result)) = reception at hends ⊢
  generalize firstEnd reply scene.looks = ending at hends ⊢
  rcases ending with _ | ⟨last, rest⟩
  · have hstatus : reception.status = .ioError := hends
    rw [hstatus]
    rfl
  · cases last with
    | err payload =>
        obtain ⟨hstatus, hdiagnostic⟩ := hends
        rw [hstatus]
        refine ⟨rfl, ?_⟩
        change reception.scene.diagnostic.orLocal = _
        rw [hdiagnostic]
        rfl
    | _ =>
        obtain ⟨hstatus, hcount⟩ := hends
        rw [hstatus]
        exact ⟨rfl, hcount⟩

/-- The outcome of an execution is that of the reception of its reply. -/
structure Received (reception : Reception)
    (outcome : EStateM.Result Status Client Unit) : Prop where
  accepted : reception.status = .ok → ∃ after, outcome = .ok () after ∧
    after.result.rowsAffected = reception.scene.result.rowsAffected
  refused : reception.status ≠ .ok → ∃ after,
    outcome = .error reception.status after ∧
      after.scene.diagnostic = reception.scene.diagnostic

theorem receiveExecute_apply (client : Client) :
    ∃ taken, receiveExecute caps client =
      if (receiveExecuteResult caps client.incoming client.scene).status = .ok
      then .ok () ((client.took taken).after
        (receiveExecuteResult caps client.incoming client.scene))
      else .error
        (receiveExecuteResult caps client.incoming client.scene).status
        ((client.took taken).after
          (receiveExecuteResult caps client.incoming client.scene)) :=
  ⟨_, rfl⟩

theorem received_tracked {cleared : Client}
    (hreply : cleared.incoming = reply) :
    Received (receiveExecuteResult caps reply cleared.scene)
      ((do receiveExecute caps; track : Exchange Unit) cleared) := by
  obtain ⟨taken, hrun⟩ := @receiveExecute_apply caps cleared
  rw [hreply] at hrun
  rw [bind_apply, hrun]
  generalize receiveExecuteResult caps reply cleared.scene = reception
  constructor
  · intro hok
    rw [if_pos hok]
    exact ⟨_, rfl, rfl⟩
  · intro hfailed
    rw [if_neg hfailed]
    exact ⟨_, rfl, rfl⟩

/-- The client with the request sent and the old result cleared. -/
def cleared (choice : CursorChoice) (handle : Handle) (begun : Client) :
    Client :=
  let answered := begun.answered (.execute handle.stmtId)
  { answered.withResult (prepareResultForExecute
      (choice.settings begun.txn) handle.stmtId begun.result) with taken := [] }

/-- An execution without a cursor, up to its request. -/
theorem execute_received (hkept : client.txn.lifecycle.discarded = false)
    (hclosed : closeCursorIfOpen caps handle client = .ok () ready)
    (hselect : opensCursor client.result = false)
    (hbegun : autobegin caps ready = .ok () begun)
    (hsent : begun.sends 0 = .ok) (hincoming : begun.incoming = []) :
    Received (receiveExecuteResult caps (begun.answers.headD [])
        (cleared choice handle begun).scene)
      (execute caps choice handle client) := by
  have hready : opensCursor ready.result = false := by
    rw [(closeCursorIfOpen_ok hclosed).2.1]
    exact hselect
  have hcheck : checkKept client = .ok () client :=
    checkKept_eq_ok.mpr ⟨hkept, rfl⟩
  have hrun : execute caps choice handle client =
      (do request (.execute handle.stmtId)
          prepareForExecute choice handle
          receiveExecute caps
          track : Exchange Unit) begun := by
    unfold execute
    rw [bind_apply, hcheck]
    dsimp only
    rw [bind_apply, hclosed]
    dsimp only
    unfold executeClosed
    rw [hready, if_neg nofun]
    unfold executeBoundParams
    rw [bind_apply, hbegun]
  have hrequest : request (.execute handle.stmtId) begun =
      .ok () (begun.answered (.execute handle.stmtId)) := by
    unfold request
    rw [hsent]
  have hprepare : prepareForExecute choice handle
      (begun.answered (.execute handle.stmtId)) =
        .ok () (cleared choice handle begun) := rfl
  have hreply : (cleared choice handle begun).incoming =
      begun.answers.headD [] := by
    change begun.incoming ++ _ = _
    rw [hincoming, List.nil_append]
  have htracked := @received_tracked caps _ (cleared choice handle begun) hreply
  rw [hrun, bind_apply, hrequest]
  dsimp only
  rw [bind_apply, hprepare]
  exact htracked

/-- An execution that returns OK. -/
theorem Received.heard_iff {reception : Reception}
    {outcome : EStateM.Result Status Client Unit} {counted : Int}
    (hreceived : Received reception outcome) (hok : reception.status = .ok)
    (hcount : reception.scene.result.rowsAffected = counted) :
    Heard caps reply outcome ↔ errors reply = [] ∧
      ∀ payload ∈ (dones reply).head?,
        counted = payload.rowsAffected caps.longRowId := by
  obtain ⟨after, houtcome, hafter⟩ := hreceived.accepted hok
  constructor
  · intro hheard
    obtain ⟨hnone, hdone⟩ := hheard.accepted after houtcome
    refine ⟨hnone, fun payload member => ?_⟩
    rw [← hcount, ← hafter]
    exact hdone payload member
  · rintro ⟨hnone, hdone⟩
    refine ⟨fun other hother => ⟨hnone, fun payload member => ?_⟩,
      fun hsome => absurd hnone hsome⟩
    rw [houtcome] at hother
    cases hother
    rw [hafter, hcount]
    exact hdone payload member

/-- No error in the reply to an EXECUTE is lost and its count is reported, exactly
if nothing of either stands behind the end of the first group. -/
theorem errors_heard_iff (hkept : client.txn.lifecycle.discarded = false)
    (hclosed : closeCursorIfOpen caps handle client = .ok () ready)
    (hselect : opensCursor client.result = false)
    (hbegun : autobegin caps ready = .ok () begun)
    (hsent : begun.sends 0 = .ok) (hincoming : begun.incoming = [])
    (hanswers : ∀ message ∈ begun.answers.headD [],
      message.answersExecute = true) :
    Heard caps (begun.answers.headD []) (execute caps choice handle client) ↔
      HidesNothing caps begun.result.rowsAffected
        (firstEnd (begun.answers.headD []) begun.scene.looks) := by
  have hreceived := @execute_received caps choice handle client ready begun
    hkept hclosed hselect hbegun hsent hincoming
  have hends : EndsAt caps (cleared choice handle begun).scene _
      (firstEnd (begun.answers.headD []) begun.scene.looks) :=
    receiveExecuteResult_ends hanswers
  generalize receiveExecuteResult caps (begun.answers.headD [])
    (cleared choice handle begun).scene = reception at hreceived hends
  generalize execute caps choice handle client = outcome at hreceived ⊢
  cases hend : firstEnd (begun.answers.headD []) begun.scene.looks with
  | none =>
      rw [hend] at hends
      have hstatus : reception.status = .ioError := hends
      obtain ⟨after, houtcome, -⟩ := hreceived.refused (by rw [hstatus]; nofun)
      refine iff_of_true ⟨fun other hother => ?_, fun hsome => ?_⟩ trivial
      · rw [houtcome] at hother
        cases hother
      · exact absurd (firstEnd_none hend) hsome
  | some ending =>
      obtain ⟨last, rest⟩ := ending
      obtain ⟨herrors, hdones⟩ := firstEnd_errors hend
      rw [hend] at hends
      cases last with
      | err payload =>
          obtain ⟨hstatus, hdiagnostic⟩ := hends
          obtain ⟨after, houtcome, hafter⟩ :=
            hreceived.refused (by rw [hstatus]; nofun)
          refine iff_of_true ⟨fun other hother => ?_, fun _ => ?_⟩ trivial
          · rw [houtcome] at hother
            cases hother
          · refine ⟨_, after, houtcome, payload, ?_, ?_⟩
            · rw [herrors]
              exact List.mem_cons_self
            · rw [hafter, hdiagnostic]
              rfl
      | done payload =>
          obtain ⟨hstatus, hcount⟩ := hends
          rw [hreceived.heard_iff hstatus hcount, herrors, hdones]
          constructor
          · exact fun hheard => hheard.1
          · rintro hnone
            refine ⟨hnone, fun first member => ?_⟩
            cases member
            rfl
      | _ =>
          obtain ⟨hstatus, hcount⟩ := hends
          rw [hreceived.heard_iff hstatus hcount, herrors, hdones]
          exact Iff.rfl

/-! An UPDATE, and errors behind its count. -/

def preparedUpdate (answers : List (List Message)) : Client :=
  (promptClient answers).withResult { blankResult with statementType := 4 }

def uniqueViolation : ServerError := ⟨-268, -100, [], []⟩

def countedReply : List Message := [.done ⟨0, 3, 1, 0⟩, .cost 3 1, .eot]

def refusedReply : List Message :=
  [.done ⟨0, 3, 1, 0⟩, .err uniqueViolation, .eot]

theorem errors_heard_update :
    Heard sampleCaps countedReply (execute sampleCaps sampleChoice
        sampleHandle (preparedUpdate [countedReply])) ↔
      HidesNothing sampleCaps 0 (firstEnd countedReply fun _ => true) :=
  @errors_heard_iff sampleCaps sampleChoice sampleHandle
    (preparedUpdate [countedReply]) (preparedUpdate [countedReply])
    (preparedUpdate [countedReply]) rfl rfl rfl rfl rfl rfl (by decide)

/-- The error behind the count is read, and dropped. -/
theorem error_behind_done_lost :
    (∃ after, execute sampleCaps sampleChoice sampleHandle
        (preparedUpdate [refusedReply]) = .ok () after ∧
      after.incoming = []) ∧
      ¬ Heard sampleCaps refusedReply (execute sampleCaps sampleChoice
        sampleHandle (preparedUpdate [refusedReply])) := by
  refine ⟨⟨_, rfl, rfl⟩, fun hheard => ?_⟩
  obtain ⟨hnone, -⟩ := hheard.accepted _ rfl
  cases hnone

end Libsqli.Session
