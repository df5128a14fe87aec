import Libsqli.Receive.Dispatch

namespace Libsqli.Receive

open Layout

/-! The reception of the reply to an EXECUTE. -/

/-- A result of zeroes, as the throw-away results start. -/
def blankResult : Result where
  columns := []
  rowsAffected := 0
  generatedSerial := 0
  generatedSerial8 := 0
  hasGeneratedSerial := false
  hasGeneratedSerial8 := false
  statementType := 0
  warnings := 0
  stmtId := 0
  cursorType := .forwardOnly
  holdability := .holdOverCommit
  commitEpoch := 0
  rollbackEpoch := 0
  rows := ⟨[], no_rows_le⟩
  view := ⟨0, 0, false, false, none, 0, 0⟩
  eof := false
  errorCode := 0
  lastWasNull := false
  sawDone := false
  sawError := false
  located := none
  fetchStatus := .ok

/-- What a statement takes over from its connection for an execution. -/
structure CursorSettings where
  cursorType : CursorType
  holdability : Holdability
  commitEpoch : Nat
  rollbackEpoch : Nat

/-- `sqli_stmt_prepare_result_for_execute` -/
def prepareResultForExecute (settings : CursorSettings) (stmtId : Int)
    (result : Result) : Result :=
  { result.clearRows with
    cursorType := settings.cursorType
    holdability := settings.holdability
    commitEpoch := settings.commitEpoch
    rollbackEpoch := settings.rollbackEpoch
    stmtId := stmtId
    eof := false
    sawDone := false
    sawError := false
    errorCode := 0
    lastWasNull := false }

/-- The flags that the execute loops clear before each reception. -/
def rearm (result : Result) : Result :=
  { result with eof := false, sawDone := false, sawError := false }

def settledFlags (result : Result) : Bool :=
  result.sawDone || result.sawError || result.eof

/-- The first loop of `sqli_stmt_receive_execute_result`; the count is what is
left of its guard. -/
def executeLoop (caps : Capabilities) :
    Nat → List Message → Scene → Reception
  | 0, messages, scene => ⟨.protoError, messages, scene.withDiagnostic .local⟩
  | guard + 1, messages, scene =>
      let reception := receiveDispatch caps .otherRecv messages
        (scene.withResult (rearm scene.result))
      if reception.status ≠ .ok then reception
      else if settledFlags reception.scene.result then reception
      else if reception.messages = [] ∨ reception.scene.looks 0 = false then
        { reception with scene := reception.scene.looked }
      else executeLoop caps guard reception.messages reception.scene.looked

def executeGuard : Nat := 65

/-- The tail dispatches into throw-away results. -/
def drainExtra (caps : Capabilities) :
    Nat → List Message → Scene → Reception
  | 0, messages, scene => ⟨.ok, messages, scene⟩
  | extra + 1, messages, scene =>
      if messages = [] ∨ scene.looks 0 = false then
        ⟨.ok, messages, scene.looked⟩
      else
        let reception := receiveDispatch caps .otherRecv messages
          (scene.looked.withResult blankResult)
        if reception.status ≠ .ok then reception
        else drainExtra caps extra reception.messages reception.scene

def extraGroups : Nat := 8

/-- `sqli_stmt_receive_execute_result`; an error in the tail is dropped. -/
def receiveExecuteResult (caps : Capabilities) (messages : List Message)
    (scene : Scene) : Reception :=
  let reception := executeLoop caps executeGuard messages scene
  if reception.status = .ok then
    let tail := drainExtra caps extraGroups reception.messages reception.scene
    ⟨.ok, tail.messages, (tail.scene.withResult
      reception.scene.result).withDiagnostic .clear⟩
  else
    ⟨reception.status, reception.messages,
      reception.scene.withDiagnostic reception.scene.diagnostic.orLocal⟩

/-! Where the reception of a reply to an EXECUTE ends its first group. -/

variable {caps : Capabilities} {start : Int} {messages rest : List Message}
  {scene : Scene}

/-- The messages of such replies. -/
def Message.answersExecute : Message → Bool
  | .done _ | .insertdone _ | .cost _ _ | .info _ | .xactstat _ _ _ | .eot
  | .err _ => true
  | _ => false

/-- The first DONE, ERR, or EOT at which nothing behind it has arrived, and the
messages behind that. -/
def firstEnd : List Message → (Nat → Bool) → Option (Message × List Message)
  | [], _ => none
  | .done payload :: rest, _ => some (.done payload, rest)
  | .err payload :: rest, _ => some (.err payload, rest)
  | .eot :: rest, looks =>
      if rest ≠ [] ∧ looks 0 then firstEnd rest fun index => looks (index + 1)
      else if rest ≠ [] ∧ looks 1 then
        firstEnd rest fun index => looks (index + 2)
      else some (.eot, rest)
  | _ :: rest, looks => firstEnd rest looks

/-- What a reception that ends there has recorded. -/
def EndsAt (caps : Capabilities) (scene : Scene) (reception : Reception) :
    Option (Message × List Message) → Prop
  | none => reception.status = .ioError
  | some (.done payload, _) => reception.status = .ok ∧
      reception.scene.result.rowsAffected =
        payload.rowsAffected caps.longRowId
  | some (.err payload, _) => reception.status = .protoError ∧
      reception.scene.diagnostic = .server payload
  | some _ => reception.status = .ok ∧
      reception.scene.result.rowsAffected = scene.result.rowsAffected

theorem drainTrail_scene (messages : List Message) (scene : Scene) :
    (drainTrail messages scene).2.result = scene.result ∧
      (drainTrail messages scene).2.diagnostic = scene.diagnostic := by
  induction messages generalizing scene with
  | nil => exact ⟨rfl, rfl⟩
  | cons message rest ih =>
      rw [drainTrail]
      split
      · exact ih scene.looked
      · exact ⟨rfl, rfl⟩

theorem drainEot_diagnostic (messages : List Message) (scene : Scene) :
    (drainEot messages scene).2.diagnostic = scene.diagnostic := by
  unfold drainEot
  split <;> rfl

/-- A message that leaves the count does not change where reception ends. -/
theorem EndsAt.of_counted {other : Scene} {reception : Reception}
    {ending : Option (Message × List Message)}
    (hends : EndsAt caps other reception ending)
    (hcount : other.result.rowsAffected = scene.result.rowsAffected) :
    EndsAt caps scene reception ending := by
  unfold EndsAt at hends ⊢
  rw [← hcount]
  exact hends

theorem receiveLoop_of_eof {context : Context}
    (heof : scene.result.eof = true) :
    receiveLoop caps context start messages scene = ⟨.ok, messages, scene⟩ := by
  cases messages <;> exact if_pos heof

theorem receiveLoop_ends (hopen : scene.result.eof = false)
    (hanswers : ∀ message ∈ messages, message.answersExecute = true) :
    EndsAt caps scene (receiveLoop caps .otherRecv start messages scene)
      (firstEnd messages scene.looks) := by
  induction messages generalizing scene with
  | nil =>
      unfold receiveLoop firstEnd
      rw [if_neg (Bool.eq_false_iff.mp hopen)]
      rfl
  | cons message rest ih =>
      have hrest : ∀ message ∈ rest, message.answersExecute = true :=
        fun other member => hanswers other (List.mem_cons_of_mem _ member)
      have hmessage := hanswers message List.mem_cons_self
      rw [receiveLoop, if_neg (Bool.eq_false_iff.mp hopen)]
      cases message with
      | done payload =>
          refine ⟨rfl, ?_⟩
          change (drainTrail _ _).2.result.rowsAffected = _
          rw [(drainTrail_scene _ _).1]
          rfl
      | err payload => exact ⟨rfl, drainEot_diagnostic _ _⟩
      | eot =>
          rw [firstEnd]
          have hhandle : handle caps .otherRecv start .eot rest scene =
              handleEot .otherRecv start rest scene := rfl
          rw [hhandle]
          unfold handleEot
          by_cases harrived : rest ≠ [] ∧ scene.looks 0
          · rw [if_pos harrived, if_pos harrived]
            exact @ih scene.looked hopen hrest
          · rw [if_neg harrived, if_neg harrived]
            by_cases hlater : rest ≠ [] ∧ scene.looks 1
            · rw [if_pos hlater, if_pos hlater]
              exact @ih scene.looked.looked hopen hrest
            · have hends : canEndGroup .otherRecv start scene.result = true :=
                rfl
              rw [if_neg hlater, if_neg hlater, if_pos hends]
              dsimp only
              rw [receiveLoop_of_eof rfl]
              exact ⟨rfl, rfl⟩
      | insertdone serial =>
          refine (@ih (scene.withResult
            (receiveInsertdone serial scene.result)) ?_ hrest).of_counted ?_
          · change (receiveInsertdone serial scene.result).eof = false
            unfold receiveInsertdone
            split <;> exact hopen
          · change (receiveInsertdone serial scene.result).rowsAffected = _
            unfold receiveInsertdone
            split <;> rfl
      | cost rows cost => exact ih hopen hrest
      | info items => exact ih hopen hrest
      | xactstat event newLevel oldLevel => exact ih hopen hrest
      | _ => cases hmessage

end Libsqli.Receive
