import Libsqli.Receive.Execute

namespace Libsqli.Receive

open Layout

/-! The part of a result that an execution does not clear first. -/

structure Retained where
  columns : List Column
  statementType : Nat
  rowsAffected : Int
  generatedSerial : Int
  hasGeneratedSerial : Bool
  generatedSerial8 : Int
  hasGeneratedSerial8 : Bool
  warnings : Nat
  located : Option (List Located)

def retained (result : Result) : Retained :=
  ⟨result.columns, result.statementType, result.rowsAffected,
    result.generatedSerial, result.hasGeneratedSerial, result.generatedSerial8,
    result.hasGeneratedSerial8, result.warnings, result.located⟩

def withRetained (result : Result) (kept : Retained) : Result :=
  { result with
    columns := kept.columns
    statementType := kept.statementType
    rowsAffected := kept.rowsAffected
    generatedSerial := kept.generatedSerial
    hasGeneratedSerial := kept.hasGeneratedSerial
    generatedSerial8 := kept.generatedSerial8
    hasGeneratedSerial8 := kept.hasGeneratedSerial8
    warnings := kept.warnings
    located := kept.located }

def Scene.withRetained (scene : Scene) (kept : Retained) : Scene :=
  scene.withResult (Receive.withRetained scene.result kept)

/-- Clearing leaves a blank result, but for what it leaves alone. -/
theorem prepareResultForExecute_eq (settings : CursorSettings) (stmtId : Int)
    (result : Result) :
    prepareResultForExecute settings stmtId result =
      withRetained (prepareResultForExecute settings stmtId blankResult)
        (retained result) := rfl

/-- What a message leaves of it. -/
def absorb (caps : Capabilities) (kept : Retained) : Message → Retained
  | .describe describe =>
      { kept with
        located := none
        columns := describe.columns caps.extendedDescribe
        statementType := describe.statementType.toNat }
  | .tuple warnings _ => { kept with warnings := warnings.toNat }
  | .done done =>
      { kept with
        warnings := done.warnings.toNat
        rowsAffected := done.rowsAffected caps.longRowId
        generatedSerial :=
          if done.suppliesSerial caps.longRowId then done.serial
          else kept.generatedSerial
        hasGeneratedSerial :=
          kept.hasGeneratedSerial || done.suppliesSerial caps.longRowId }
  | .insertdone serial =>
      match serial.decode with
      | none => kept
      | some value =>
          { kept with generatedSerial8 := value, hasGeneratedSerial8 := true }
  | _ => kept

def absorbAll (caps : Capabilities) (messages : List Message)
    (kept : Retained) : Retained :=
  messages.foldl (absorb caps) kept

/-- The messages of a group that the dispatch loop takes into the result. -/
def takenBy (caps : Capabilities) (context : Context) (start : Int) :
    List Message → Scene → List Message
  | [], _ => []
  | message :: rest, scene =>
      if scene.result.eof then []
      else
        match handle caps context start message rest scene with
        | .continue scene => message :: takenBy caps context start rest scene
        | .finish .ok _ _ => [message]
        | .finish _ _ _ => []

/-! Reception writes that part without reading it. -/

variable {caps : Capabilities} {context : Context} {start : Int}
  {message : Message} {messages rest : List Message} {scene : Scene}
  {kept : Retained}

def Handled.withRetained (handled : Handled) (absorbed kept : Retained) :
    Handled :=
  match handled with
  | .continue scene => .continue (scene.withRetained absorbed)
  | .finish .ok rest scene => .finish .ok rest (scene.withRetained absorbed)
  | .finish status rest scene =>
      .finish status rest (scene.withRetained kept)

theorem drainTrail_withRetained :
    drainTrail messages (scene.withRetained kept) =
      ((drainTrail messages scene).1,
        (drainTrail messages scene).2.withRetained kept) := by
  induction messages generalizing scene with
  | nil => rfl
  | cons message rest ih =>
      rw [drainTrail, drainTrail]
      change (if scene.looks 0 && message.trails then _ else _) = _
      split
      · exact @ih scene.looked
      · rfl

theorem receiveTuple_withRetained (warnings : UInt16) (bytes : List UInt8)
    (result : Result) :
    receiveTuple warnings bytes (withRetained result kept) =
      (receiveTuple warnings bytes result).map
        (withRetained · { kept with warnings := warnings.toNat }) := by
  unfold receiveTuple
  by_cases hroom : result.rows.val.length < rowLimit
  · rw [dif_pos hroom]
    exact dif_pos hroom
  · rw [dif_neg hroom]
    exact dif_neg hroom

theorem canEndGroup_withRetained (hcontext : context ≠ .prepareRecv) :
    canEndGroup context start (withRetained scene.result kept) =
      canEndGroup context start scene.result := by
  cases context with
  | prepareRecv => exact absurd rfl hcontext
  | fetchRecv => rfl
  | otherRecv => rfl

theorem handleEot_withRetained (hcontext : context ≠ .prepareRecv) :
    handleEot context start rest (scene.withRetained kept) =
      (handleEot context start rest scene).withRetained kept kept := by
  unfold handleEot
  rw [show (scene.withRetained kept).result = withRetained scene.result kept
    from rfl, canEndGroup_withRetained hcontext]
  change (if rest ≠ [] ∧ scene.looks 0 then _ else _) = _
  split
  · rfl
  · change (if rest ≠ [] ∧ scene.looks 1 then _ else _) = _
    split
    · rfl
    · split <;> rfl

theorem handle_withRetained (hcontext : context ≠ .prepareRecv) :
    handle caps context start message rest (scene.withRetained kept) =
      (handle caps context start message rest scene).withRetained
        (absorb caps kept message) kept := by
  cases message with
  | eot => exact handleEot_withRetained hcontext
  | describe payload =>
      change handleDescribe _ _ _ _ = (handleDescribe _ _ _ _).withRetained _ _
      unfold handleDescribe
      change (if scene.allocs 0 = false then _ else _) = _
      split
      · rfl
      · split <;> rfl
  | tuple warnings bytes =>
      change handleTuple _ _ _ _ = (handleTuple _ _ _ _).withRetained _ _
      unfold handleTuple
      change (if scene.allocs 0 = false then _ else _) = _
      split
      · rfl
      · rw [show (scene.withRetained kept).result =
          Receive.withRetained scene.result kept from rfl,
          receiveTuple_withRetained]
        cases receiveTuple warnings bytes scene.result with
        | none => rfl
        | some result => rfl
  | done payload =>
      change handleDone _ _ _ _ = (handleDone _ _ _ _).withRetained _ _
      unfold handleDone
      have hscene : (scene.withRetained kept).withResult
          (receiveDone caps payload (scene.withRetained kept).result) =
          (scene.withResult (receiveDone caps payload scene.result)).withRetained
            (absorb caps kept (.done payload)) := rfl
      rw [hscene, drainTrail_withRetained]
      rfl
  | err payload =>
      change handleError _ _ _ = (handleError _ _ _).withRetained _ _
      unfold handleError drainEot
      split <;> rfl
  | insertdone serial =>
      change Handled.continue _ = Handled.withRetained (.continue _) _ _
      unfold receiveInsertdone
      dsimp only [absorb]
      cases serial.decode with
      | none => rfl
      | some value => rfl
  | unknown opcode =>
      change handleUnknown _ _ _ = (handleUnknown _ _ _).withRetained _ _
      unfold handleUnknown
      dsimp only
      split <;> rfl
  | _ => rfl

theorem receiveLoop_withRetained (hcontext : context ≠ .prepareRecv) :
    takenBy caps context start messages (scene.withRetained kept) =
        takenBy caps context start messages scene ∧
      receiveLoop caps context start messages (scene.withRetained kept) =
        ⟨(receiveLoop caps context start messages scene).status,
          (receiveLoop caps context start messages scene).messages,
          (receiveLoop caps context start messages scene).scene.withRetained
            (absorbAll caps (takenBy caps context start messages scene)
              kept)⟩ := by
  induction messages generalizing scene kept with
  | nil =>
      refine ⟨rfl, ?_⟩
      unfold receiveLoop
      change (if scene.result.eof then _ else _) = _
      split <;> rfl
  | cons message rest ih =>
      rw [takenBy, takenBy, receiveLoop, receiveLoop,
        handle_withRetained hcontext]
      change (if scene.result.eof then _ else _) = _ ∧
        (if scene.result.eof then _ else _) = _
      split
      · exact ⟨rfl, rfl⟩
      · cases handle caps context start message rest scene with
        | «continue» next =>
            obtain ⟨htaken, hloop⟩ := @ih next (absorb caps kept message)
            exact ⟨congrArg (message :: ·) htaken, hloop⟩
        | finish status left after =>
            cases status <;> exact ⟨rfl, rfl⟩

theorem receiveDispatch_withRetained (hcontext : context ≠ .prepareRecv) :
    takenBy caps context scene.result.rowCount messages
          (scene.withRetained kept) =
        takenBy caps context scene.result.rowCount messages scene ∧
      receiveDispatch caps context messages (scene.withRetained kept) =
        ⟨(receiveDispatch caps context messages scene).status,
          (receiveDispatch caps context messages scene).messages,
          (receiveDispatch caps context messages scene).scene.withRetained
            (absorbAll caps
              (takenBy caps context scene.result.rowCount messages scene)
              kept)⟩ :=
  receiveLoop_withRetained hcontext

/-! A dispatch that succeeds has ended its group. -/

/-- A round that finishes with OK has set the end. -/
theorem drainTrail_result :
    (drainTrail messages scene).2.result = scene.result := by
  induction messages generalizing scene with
  | nil => rfl
  | cons message rest ih =>
      rw [drainTrail]
      split
      · exact @ih scene.looked
      · rfl

theorem handle_finish_ok {left : List Message} {after : Scene}
    (hfinish : handle caps context start message rest scene =
      .finish .ok left after) : after.result.eof = true := by
  cases message with
  | done payload =>
      change handleDone _ _ _ _ = _ at hfinish
      unfold handleDone at hfinish
      cases hfinish
      rw [drainTrail_result]
      rfl
  | describe payload =>
      change handleDescribe _ _ _ _ = _ at hfinish
      unfold handleDescribe at hfinish
      split at hfinish
      · cases hfinish
      · split at hfinish <;> cases hfinish
  | tuple warnings bytes =>
      change handleTuple _ _ _ _ = _ at hfinish
      unfold handleTuple at hfinish
      split at hfinish
      · cases hfinish
      · split at hfinish <;> cases hfinish
  | eot =>
      change handleEot _ _ _ _ = _ at hfinish
      unfold handleEot at hfinish
      split at hfinish
      · cases hfinish
      · split at hfinish
        · cases hfinish
        · split at hfinish <;> cases hfinish
  | err payload => cases hfinish
  | exit => cases hfinish
  | unknown opcode =>
      change handleUnknown _ _ _ = _ at hfinish
      unfold handleUnknown at hfinish
      dsimp only at hfinish
      split at hfinish <;> cases hfinish
  | _ => cases hfinish

theorem receiveLoop_eof
    (hok : (receiveLoop caps context start messages scene).status = .ok) :
    (receiveLoop caps context start messages scene).scene.result.eof = true := by
  induction messages generalizing scene with
  | nil =>
      unfold receiveLoop at hok ⊢
      split at hok
      · next heof =>
        rw [if_pos heof]
        exact heof
      · cases hok
  | cons message rest ih =>
      rw [receiveLoop] at hok ⊢
      split at hok
      · next heof =>
        rw [if_pos heof]
        exact heof
      · next hopen =>
        rw [if_neg hopen]
        cases hhandled : handle caps context start message rest scene with
        | «continue» next =>
            rw [hhandled] at hok
            exact ih hok
        | finish status left after =>
            rw [hhandled] at hok
            cases (show status = .ok from hok)
            exact handle_finish_ok hhandled

/-- The first execute loop comes around once. -/
theorem executeLoop_eq (guard : Nat) (messages : List Message)
    (scene : Scene) :
    executeLoop caps (guard + 1) messages scene =
      receiveDispatch caps .otherRecv messages
        (scene.withResult (rearm scene.result)) := by
  rw [executeLoop]
  split
  · rfl
  · next hok =>
    have heof := receiveLoop_eof (not_not.mp hok)
    rw [if_pos]
    unfold settledFlags receiveDispatch
    rw [heof, Bool.or_true]

/-- The tail does not see the result. -/
theorem drainExtra_withResult (extra : Nat) (result last : Result) :
    (drainExtra caps extra messages (scene.withResult result)).messages =
        (drainExtra caps extra messages scene).messages ∧
      (drainExtra caps extra messages
          (scene.withResult result)).scene.withResult last =
        (drainExtra caps extra messages scene).scene.withResult last := by
  cases extra with
  | zero => exact ⟨rfl, rfl⟩
  | succ extra =>
      rw [drainExtra, drainExtra]
      change Reception.messages (if messages = [] ∨ scene.looks 0 = false then
        _ else _) = _ ∧ (Reception.scene (if messages = [] ∨
          scene.looks 0 = false then _ else _)).withResult _ = _
      split
      · exact ⟨rfl, rfl⟩
      · exact ⟨rfl, rfl⟩

theorem receiveExecuteResult_withRetained :
    receiveExecuteResult caps messages (scene.withRetained kept) =
      ⟨(receiveExecuteResult caps messages scene).status,
        (receiveExecuteResult caps messages scene).messages,
        (receiveExecuteResult caps messages scene).scene.withRetained
          (absorbAll caps (takenBy caps .otherRecv scene.result.rowCount
            messages (scene.withResult (rearm scene.result))) kept)⟩ := by
  have hscene : (scene.withRetained kept).withResult
      (rearm (scene.withRetained kept).result) =
        (scene.withResult (rearm scene.result)).withRetained kept := rfl
  have hloop := (@receiveDispatch_withRetained caps .otherRecv messages
    (scene.withResult (rearm scene.result)) kept nofun).2
  unfold receiveExecuteResult executeGuard
  rw [executeLoop_eq, executeLoop_eq, hscene, hloop]
  change _ = Reception.mk _ _ (Scene.withRetained _ (absorbAll caps (takenBy
    caps .otherRecv (scene.withResult (rearm scene.result)).result.rowCount
      messages (scene.withResult (rearm scene.result))) kept))
  generalize absorbAll caps _ kept = absorbed
  dsimp only
  generalize receiveDispatch caps .otherRecv messages
    (scene.withResult (rearm scene.result)) = reception
  obtain ⟨hmessages, htail⟩ := @drainExtra_withResult caps
    reception.messages reception.scene extraGroups
    (Receive.withRetained reception.scene.result absorbed)
    (Receive.withRetained reception.scene.result absorbed)
  split
  · unfold Scene.withRetained
    rw [hmessages]
    exact congrArg (fun tail => Reception.mk .ok _ (tail.withDiagnostic .clear))
      htail
  · rfl

/-! Where each part comes from: a message that brings it, or the history. -/

variable {other : Retained}

end Libsqli.Receive
