import Libsqli.Requests.Calls

namespace Libsqli.Requests

open Libsqli.Bind
open Libsqli.Data.Bytes
open Libsqli.Data.Program
open Libsqli.Wire

/-! A call that fails has sent complete messages. -/

variable {program first cleanup : Speaker Unit} {next : Unit → Speaker Unit}
  {sender : Sender Unit} {message : Message} {setting : Setting}
  {stmt : Statement} {stmtId : Int32} {sql name : List UInt8}
  {call : SavepointCall} {txn : Txn}

def Clean (dialogue : Dialogue) : Prop :=
  dialogue.wire.Open ∧ Whole dialogue.wire.sent

/-- However the program ends, it leaves a clean dialogue clean. -/
def Keeps (program : Speaker Unit) : Prop :=
  Holds Clean program (fun _ => Clean) fun _ => Clean

theorem Keeps.stateOf (hprogram : Keeps program) {dialogue : Dialogue}
    (hclean : Clean dialogue) : Clean (stateOf (program dialogue)) := by
  have hrun := hprogram dialogue hclean
  cases hresult : program dialogue with
  | ok value after =>
      rw [hresult] at hrun
      exact hrun
  | error status after =>
      rw [hresult] at hrun
      exact hrun

theorem Keeps.pure : Keeps (Pure.pure ()) := fun _ hclean => hclean

theorem Keeps.bind (hfirst : Keeps first) (hnext : Keeps (next ())) :
    Keeps (first >>= next) :=
  Holds.bind hfirst fun _ => hnext

theorem Keeps.ite {condition : Prop} [Decidable condition]
    {yes no : Speaker Unit} (hyes : Keeps yes) (hno : Keeps no) :
    Keeps (if condition then yes else no) :=
  Holds.ite (fun _ => hyes) fun _ => hno

theorem Keeps.branch {condition : Dialogue → Prop} [DecidablePred condition]
    {yes no : Speaker Unit} (hyes : Keeps yes) (hno : Keeps no) :
    Keeps fun dialogue =>
      if condition dialogue then yes dialogue else no dialogue := by
  intro dialogue hclean
  dsimp only
  by_cases hcondition : condition dialogue
  · rw [if_pos hcondition]
    exact hyes dialogue hclean
  · rw [if_neg hcondition]
    exact hno dialogue hclean

/-- A program chosen by the dialogue it starts in. -/
theorem Keeps.here {choose : Dialogue → Speaker Unit}
    (hchoose : ∀ dialogue, Keeps (choose dialogue)) :
    Keeps fun dialogue => choose dialogue dialogue :=
  fun dialogue hclean => hchoose dialogue dialogue hclean

theorem Keeps.check (status : Dialogue → Status) : Keeps (check status) := by
  intro dialogue hclean
  unfold Requests.check
  by_cases hstatus : status dialogue = .ok
  · rw [if_pos hstatus]
    exact hclean
  · rw [if_neg hstatus]
    exact hclean

theorem Keeps.update {change : Dialogue → Dialogue}
    (hchange : ∀ dialogue, (change dialogue).wire = dialogue.wire) :
    Keeps (update change) := by
  intro dialogue hclean
  change Clean (change dialogue)
  unfold Clean
  rw [hchange]
  exact hclean

theorem Keeps.say (message : Message)
    (hsends : Sends sender message.octets) : Keeps (say sender) := by
  intro dialogue hclean
  obtain ⟨after, hrun, hopen, hsent⟩ := hsends dialogue.wire hclean.1
  have hwhole : Whole after.sent := by
    rw [hsent]
    exact hclean.2.append message
  unfold Requests.say
  rw [hrun]
  exact ⟨hopen, hwhole⟩

/-- A sender that stops before its first octet. -/
theorem Keeps.unsaid (status : Status)
    (hsilent : ∀ wire, sender wire = .error status wire) :
    Keeps (Requests.say sender) := by
  intro dialogue hclean
  unfold Requests.say
  rw [hsilent]
  exact hclean

/-- A sender with nothing to send. -/
theorem Keeps.mute (hmute : sender = Pure.pure ()) :
    Keeps (Requests.say sender) := by
  subst hmute
  exact fun _ hclean => hclean

theorem Keeps.hearInto (keep : Facts → Facts → Facts) :
    Keeps (hearInto keep) := by
  intro dialogue hclean
  unfold Requests.hearInto
  cases dialogue.heard with
  | nil => exact hclean
  | cons entry heard => exact Keeps.check (fun _ => entry.1) _ hclean

theorem Keeps.attempt (hprogram : Keeps program) :
    Keeps (attempt program) :=
  fun _ hclean => hprogram.stateOf hclean

theorem Keeps.onError (hprogram : Keeps program) (hcleanup : Keeps cleanup) :
    Keeps (onError program cleanup) := by
  intro dialogue hclean
  have hrun := hprogram dialogue hclean
  unfold Requests.onError
  cases hresult : program dialogue with
  | ok value after =>
      rw [hresult] at hrun
      exact hrun
  | error status after =>
      rw [hresult] at hrun
      exact hcleanup.stateOf hrun

theorem Keeps.reporting (status : Status) (hprogram : Keeps program) :
    Keeps (reporting status program) := by
  intro dialogue hclean
  have hrun := hprogram dialogue hclean
  unfold Requests.reporting
  cases hresult : program dialogue with
  | ok value after =>
      rw [hresult] at hrun
      exact hrun
  | error failed after =>
      rw [hresult] at hrun
      exact hrun

/-! The calls. -/

theorem keeps_native (message : Message) {active : Bool}
    (effect : Txn → Txn) (hsends : Sends (send message.octets) message.octets) :
    Keeps (native message.octets active effect) :=
  (Keeps.check _).bind <| (Keeps.check _).bind <| (Keeps.say message hsends).bind <|
    (Keeps.hearInto _).bind (Keeps.update fun _ => rfl)

theorem keeps_begin : Keeps begin :=
  keeps_native .begin _ (.send (by decide))

theorem keeps_commit : Keeps commit :=
  keeps_native .commit _ (.send (by decide))

theorem keeps_rollback : Keeps rollback :=
  keeps_native .rollback _ (.send (by decide))

theorem keeps_autobegin (statementType : Nat) :
    Keeps (autobegin statementType) :=
  .branch .pure (.branch keeps_begin .pure)

theorem keeps_track : Keeps track := .update fun _ => rfl

theorem keeps_control (stmtId : Int32) (opcode : UInt8) :
    Keeps (say (send (controlBytes stmtId opcode))) := by
  have hbytes : controlBytes stmtId opcode ≠ [] := by simp [controlBytes]
  exact .say (.control stmtId opcode) (.send hbytes)

theorem keeps_stmtControl (stmtId : Int32) (opcode : UInt8) :
    Keeps (stmtControl stmtId opcode) :=
  (keeps_control stmtId opcode).bind (.hearInto _)

theorem keeps_closeRelease (stmtId : Int32) : Keeps (closeRelease stmtId) :=
  (Keeps.attempt (keeps_stmtControl _ _)).bind
    (Keeps.attempt (keeps_stmtControl _ _))

theorem keeps_setCursor (isOpen : Bool) : Keeps (setCursor isOpen) :=
  .update fun _ => rfl

theorem keeps_closeCursorIfOpen (stmtId : Int32) :
    Keeps (closeCursorIfOpen stmtId) := by
  have hcontrol : Keeps (bestEffortControl stmtId sqClose) :=
    .branch .pure (.attempt (keeps_control _ _))
  exact .branch .pure <| .branch (keeps_setCursor _) <|
    .branch ((keeps_stmtControl _ _).bind (keeps_setCursor _)) <|
    .branch (hcontrol.bind (keeps_setCursor _)) (keeps_setCursor _)

theorem keeps_nextFetch (stmtId : Int32) : Keeps (nextFetch stmtId) := by
  unfold nextFetch
  exact .here fun dialogue =>
    .say (.fetch dialogue.facts.form stmtId) (sends_fetch _ _)

theorem keeps_fetchRounds (stmtId : Int32) (heard : List (Status × Facts)) :
    Keeps (fetchRounds stmtId heard) := by
  induction heard with
  | nil =>
      change Keeps hear
      exact .hearInto _
  | cons entry heard ih =>
      exact (Keeps.hearInto _).bind
        (.branch .pure ((keeps_nextFetch stmtId).bind ih))

theorem keeps_fetchLoop (stmtId : Int32) : Keeps (fetchLoop stmtId) := by
  unfold fetchLoop
  exact .here fun dialogue => keeps_fetchRounds stmtId dialogue.heard

theorem keeps_open (cursor : CursorOptions) (stmt : Statement) :
    Keeps (say (sendOpen cursor stmt)) :=
  .say (.open cursor stmt) (sends_open cursor stmt)

/-- The message is built before any of it is sent. -/
theorem keeps_bind (setting : Setting) (stmt : Statement) :
    Keeps (bindIfNeeded setting stmt) := by
  refine Keeps.bind ?_ (.ite .pure (.hearInto _))
  by_cases hparams : stmt.params = []
  · refine .mute ?_
    unfold sendBindIfNeeded
    rw [if_pos hparams]
  · by_cases hmalloc :
      setting.malloc (estimateBindMsgSize stmt true) = true
    · exact .say (.bind setting.encode stmt)
        (sends_bind hparams hmalloc)
    · refine .unsaid .allocFail fun wire => ?_
      unfold sendBindIfNeeded
      rw [if_neg hparams, if_neg hmalloc]
      rfl

theorem keeps_executeSelect (setting : Setting) (stmt : Statement) :
    Keeps (executeSelect setting stmt) :=
  (keeps_autobegin _).bind <| (keeps_bind setting stmt).bind <|
    (keeps_open _ _).bind <| (keeps_setCursor _).bind <|
    (Keeps.hearInto _).bind <| (keeps_nextFetch _).bind (keeps_fetchLoop _)

theorem keeps_executeBoundParams (setting : Setting) (stmt : Statement) :
    Keeps (executeBoundParams setting stmt) := by
  have hexecution :
      Keeps (say (sendExecute setting.malloc setting.encode stmt)) := by
    by_cases hmalloc : stmt.params ≠ [] →
      setting.malloc (estimateBindMsgSize stmt false) = true
    · exact .say (.execution setting.encode stmt)
        (sends_execution hmalloc)
    · rw [Classical.not_imp] at hmalloc
      obtain ⟨hparams, hmalloc⟩ := hmalloc
      refine .unsaid .allocFail fun wire => ?_
      unfold sendExecute sendBindIfNeeded
      rw [if_neg hparams, if_neg hparams, if_neg hmalloc]
      rfl
  exact (keeps_autobegin _).bind <| hexecution.bind <|
    (Keeps.hearInto _).bind keeps_track

theorem keeps_execute (setting : Setting) (stmt : Statement) :
    Keeps (execute setting stmt) :=
  (Keeps.check _).bind <| (keeps_closeCursorIfOpen _).bind <|
    .ite (.onError (keeps_executeSelect setting stmt)
      (keeps_closeCursorIfOpen _)) (keeps_executeBoundParams setting stmt)

theorem keeps_sayPrepare
    (htext : encodeClientToDb setting.charset setting.session sql ≠ .ok []) :
    Keeps (say (Prepare.sendPrepare setting.charset setting.session sql)) := by
  cases hencode : encodeClientToDb setting.charset setting.session sql with
  | error status =>
      refine .unsaid status fun wire => ?_
      unfold Prepare.sendPrepare
      rw [hencode]
      rfl
  | ok text =>
      exact .say (.prepare setting.session sql text)
        (sends_prepare hencode fun hempty => htext (hempty ▸ hencode))

theorem keeps_prepare
    (htext : encodeClientToDb setting.charset setting.session sql ≠ .ok []) :
    Keeps (prepare setting sql) :=
  (Keeps.check _).bind <|
    (Keeps.reporting _ (keeps_sayPrepare htext)).bind (.hearInto _)

theorem keeps_queryRows (setting : Setting) (stmtId : Int32) :
    Keeps (queryRows setting stmtId) :=
  (keeps_open _ _).bind <| (Keeps.hearInto _).bind <|
    (keeps_nextFetch _).bind <| (keeps_fetchLoop _).bind <|
    .branch (keeps_closeRelease _) .pure

theorem keeps_queryEffect (stmtId : Int32) : Keeps (queryEffect stmtId) :=
  (Keeps.say (.execute stmtId) (.send (by simp [Message.octets,
    executeMessage]))).bind <| (Keeps.hearInto _).bind keeps_track

theorem keeps_answerQuery (setting : Setting) :
    Keeps (answerQuery setting) :=
  (Keeps.hearInto _).bind <|
    Keeps.bind (.here fun _ => keeps_autobegin _) <|
    (Keeps.check _).bind <|
    .branch (.here fun _ => keeps_queryRows setting _)
      (.here fun _ => keeps_queryEffect _)

theorem keeps_destroyResult : Keeps destroyResult :=
  .branch (.here fun _ => keeps_closeRelease _) .pure

theorem keeps_query
    (htext : encodeClientToDb setting.charset setting.session sql ≠ .ok []) :
    Keeps (query setting sql) :=
  (Keeps.check _).bind <|
    Keeps.bind ((Keeps.hearInto _).bind (.update fun _ => rfl)) <|
    (keeps_sayPrepare htext).bind <|
    .onError (keeps_answerQuery setting) keeps_destroyResult

theorem keeps_savepoint {text : List UInt8}
    (htext : setting.encode name = .ok text) (hfits : text.length ≤ 0xFFFF) :
    Keeps (savepoint setting call name) :=
  (Keeps.check _).bind <| (Keeps.check _).bind <| (Keeps.check _).bind <|
    Keeps.bind (.branch .pure keeps_begin) <|
    (Keeps.say (.savepoint call text)
      (sends_savepoint htext hfits)).bind (.hearInto _)

end Libsqli.Requests
