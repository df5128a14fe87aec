import Libsqli.Receive.Execute
import Libsqli.Receive.Retained

namespace Libsqli.Receive

/-! What any reply, whatever stands in it, makes of a reception. -/

variable {caps : Capabilities} {start : Int} {messages rest : List Message}
  {scene : Scene} {reception : Reception}

/-- A reception that ends with the last of these messages. -/
def Concludes (caps : Capabilities) (reception : Reception) :
    Option (Message × List Message) → Prop
  | none => False
  | some (.done payload, _) => reception.status = .ok ∧
      reception.scene.result.rowsAffected =
        payload.rowsAffected caps.longRowId
  | some (.err payload, _) => reception.status = .protoError ∧
      reception.scene.diagnostic = .server payload ∧
      reception.scene.result.sawError = true
  | some _ => reception.status = .ok

/-- It fails in front of that without having seen an error, or ends there. -/
def Verdict (caps : Capabilities) (reception : Reception)
    (ending : Option (Message × List Message)) : Prop :=
  reception.status ≠ .ok ∧ reception.scene.result.sawError = false ∨
    Concludes caps reception ending

theorem drainEot_result (messages : List Message) (scene : Scene) :
    (drainEot messages scene).2.result = scene.result := by
  unfold drainEot
  split <;> rfl

/-- A round behind which the reception goes on, and how. -/
theorem verdict_continue {message : Message} {next : Scene}
    (hopen : ¬ scene.result.eof = true)
    (hhandled : handle caps .otherRecv start message rest scene =
      .continue next)
    (hverdict : Verdict caps (receiveLoop caps .otherRecv start rest next)
      (firstEnd (message :: rest) scene.looks)) :
    Verdict caps (receiveLoop caps .otherRecv start (message :: rest) scene)
      (firstEnd (message :: rest) scene.looks) := by
  rw [receiveLoop, if_neg hopen, hhandled]
  exact hverdict

theorem verdict_finish {message : Message} {status : Status}
    {left : List Message} {next : Scene} (hopen : ¬ scene.result.eof = true)
    (hhandled : handle caps .otherRecv start message rest scene =
      .finish status left next)
    (hverdict : Verdict caps ⟨status, left, next⟩
      (firstEnd (message :: rest) scene.looks)) :
    Verdict caps (receiveLoop caps .otherRecv start (message :: rest) scene)
      (firstEnd (message :: rest) scene.looks) := by
  rw [receiveLoop, if_neg hopen, hhandled]
  exact hverdict

theorem receiveLoop_verdict (hopen : scene.result.eof = false)
    (hclean : scene.result.sawError = false) :
    Verdict caps (receiveLoop caps .otherRecv start messages scene)
      (firstEnd messages scene.looks) := by
  induction messages generalizing scene with
  | nil =>
      rw [receiveLoop, if_neg (Bool.eq_false_iff.mp hopen)]
      exact .inl ⟨by rintro ⟨⟩, hclean⟩
  | cons message rest ih =>
      have hnot : ¬ scene.result.eof = true := Bool.eq_false_iff.mp hopen
      cases message with
      | done payload =>
          refine verdict_finish hnot rfl (.inr ⟨rfl, ?_⟩)
          change (drainTrail _ _).2.result.rowsAffected = _
          rw [(drainTrail_scene _ _).1]
          rfl
      | err payload =>
          refine verdict_finish hnot rfl
            (.inr ⟨rfl, drainEot_diagnostic _ _, ?_⟩)
          change (drainEot _ _).2.result.sawError = true
          rw [drainEot_result]
          rfl
      | eot =>
          by_cases harrived : rest ≠ [] ∧ scene.looks 0
          · refine verdict_continue hnot (if_pos harrived) ?_
            rw [firstEnd, if_pos harrived]
            exact @ih scene.looked hopen hclean
          · by_cases hlater : rest ≠ [] ∧ scene.looks 1
            · refine verdict_continue hnot
                ((if_neg harrived).trans (if_pos hlater)) ?_
              rw [firstEnd, if_neg harrived, if_pos hlater]
              exact @ih scene.looked.looked hopen hclean
            · refine verdict_continue hnot
                ((if_neg harrived).trans ((if_neg hlater).trans rfl)) ?_
              rw [firstEnd, if_neg harrived, if_neg hlater,
                receiveLoop_of_eof rfl]
              exact .inr rfl
      | describe payload =>
          by_cases halloc : scene.allocs 0 = false
          · exact verdict_finish hnot (if_pos halloc) (.inl ⟨by rintro ⟨⟩, hclean⟩)
          · by_cases hnames :
                assignNames payload.fields.length payload.names = false
            · exact verdict_finish hnot
                ((if_neg halloc).trans (if_pos hnames)) (.inl ⟨by rintro ⟨⟩, hclean⟩)
            · exact verdict_continue hnot
                ((if_neg halloc).trans (if_neg hnames))
                (@ih (scene.allocated.withResult
                  (replaceDescriptor caps payload scene.result)) rfl hclean)
      | tuple warnings bytes =>
          by_cases halloc : scene.allocs 0 = false
          · exact verdict_finish hnot (if_pos halloc) (.inl ⟨by rintro ⟨⟩, hclean⟩)
          · by_cases hroom : scene.result.rows.val.length < rowLimit
            · refine verdict_continue hnot ((if_neg halloc).trans ?_)
                (@ih (scene.allocated.withResult { scene.result with
                  rows := ⟨_, append_le hroom bytes⟩
                  warnings := warnings.toNat }) hopen hclean)
              rw [receiveTuple, dif_pos hroom]
            · have hfull : handle caps .otherRecv start (.tuple warnings bytes)
                  rest scene = .finish .allocFail rest scene.allocated := by
                refine (if_neg halloc).trans ?_
                rw [receiveTuple, dif_neg hroom]
              exact verdict_finish hnot hfull (.inl ⟨by rintro ⟨⟩, hclean⟩)
      | exit => exact verdict_finish hnot rfl (.inl ⟨by rintro ⟨⟩, hclean⟩)
      | insertdone serial =>
          refine verdict_continue hnot rfl (@ih (scene.withResult
            (receiveInsertdone serial scene.result)) ?_ ?_)
          · change (receiveInsertdone serial scene.result).eof = false
            unfold receiveInsertdone
            split <;> exact hopen
          · change (receiveInsertdone serial scene.result).sawError = false
            unfold receiveInsertdone
            split <;> exact hclean
      | unknown opcode =>
          by_cases hstrict : caps.strictProtocol = true
          · exact verdict_finish hnot (if_pos hstrict) (.inl ⟨by rintro ⟨⟩, hclean⟩)
          · exact verdict_continue hnot (if_neg hstrict)
              (@ih (scene.withDiagnostic scene.diagnostic.flagged) hopen hclean)
      | oversizedTuple =>
          exact verdict_finish hnot rfl (.inl ⟨by rintro ⟨⟩, hclean⟩)
      | oversizedDescribe =>
          exact verdict_finish hnot rfl (.inl ⟨by rintro ⟨⟩, hclean⟩)
      | _ => exact verdict_continue hnot rfl (ih hopen hclean)

theorem receiveExecuteResult_verdict :
    Verdict caps (receiveExecuteResult caps messages scene)
      (firstEnd messages scene.looks) := by
  have hverdict : Verdict caps (receiveLoop caps .otherRecv
      (scene.withResult (rearm scene.result)).result.rowCount messages
      (scene.withResult (rearm scene.result)))
      (firstEnd messages scene.looks) := receiveLoop_verdict rfl rfl
  unfold receiveExecuteResult executeGuard
  rw [executeLoop_eq]
  unfold receiveDispatch
  dsimp only
  generalize receiveLoop caps .otherRecv _ messages
    (scene.withResult (rearm scene.result)) = reception at hverdict ⊢
  generalize firstEnd messages scene.looks = ending at hverdict ⊢
  rcases hverdict with ⟨hfailed, hclean⟩ | hconcludes
  · rw [if_neg hfailed]
    exact .inl ⟨hfailed, hclean⟩
  · right
    rcases ending with _ | ⟨last, rest⟩
    · cases hconcludes
    · cases last with
      | err payload =>
          obtain ⟨hstatus, hdiagnostic, herror⟩ := hconcludes
          rw [if_neg (by rw [hstatus]; nofun)]
          refine ⟨hstatus, ?_, herror⟩
          change reception.scene.diagnostic.orLocal = _
          rw [hdiagnostic]
          rfl
      | done payload =>
          obtain ⟨hstatus, hcount⟩ := hconcludes
          rw [if_pos hstatus]
          exact ⟨rfl, hcount⟩
      | _ =>
          have hstatus : reception.status = .ok := hconcludes
          rw [if_pos hstatus]
          rfl

end Libsqli.Receive
