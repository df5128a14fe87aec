import Libsqli.Receive.Execute

namespace Libsqli.Receive

/-! What a reception reports comes from the messages the server sent. -/

variable {caps : Capabilities} {context : Context} {start : Int}
  {sent messages rest : List Message} {scene : Scene}

/-- The SQLCODE in the diagnostics is 0, or the server sent it in an error; a DONE
has been seen only if the server sent one. -/
structure Reported (sent : List Message) (scene : Scene) : Prop where
  sqlcode : scene.diagnostic.sqlcode ≠ 0 →
    ∃ error : ServerError, .err error ∈ sent ∧
      error.sqlcode.toInt = scene.diagnostic.sqlcode
  done : scene.result.sawDone = true → ∃ done : Done, .done done ∈ sent

/-- What is left is the end of what was there, and the reports hold. -/
structure Honest (sent messages : List Message) (reception : Reception) :
    Prop where
  suffix : reception.messages <:+ messages
  reported : Reported sent reception.scene

theorem Reported.of_eq {other : Scene} (hreported : Reported sent scene)
    (hdiagnostic : other.diagnostic = scene.diagnostic)
    (hdone : other.result.sawDone = scene.result.sawDone) :
    Reported sent other where
  sqlcode := by
    rw [hdiagnostic]
    exact hreported.sqlcode
  done := by
    rw [hdone]
    exact hreported.done

theorem Reported.looked (hreported : Reported sent scene) :
    Reported sent scene.looked := hreported.of_eq rfl rfl

theorem Reported.local (hreported : Reported sent scene) :
    Reported sent (scene.withDiagnostic .local) where
  sqlcode := fun hcode => absurd rfl hcode
  done := hreported.done

theorem Reported.withResult (hreported : Reported sent scene) {result : Result}
    (hdone : result.sawDone = true → ∃ done : Done, .done done ∈ sent) :
    Reported sent (scene.withResult result) where
  sqlcode := hreported.sqlcode
  done := hdone

theorem drainTrail_reported (hreported : Reported sent scene) :
    (drainTrail messages scene).1 <:+ messages ∧
      Reported sent (drainTrail messages scene).2 := by
  induction messages generalizing scene with
  | nil => exact ⟨List.suffix_refl _, hreported.looked⟩
  | cons message rest ih =>
      rw [drainTrail]
      split
      · obtain ⟨hsuffix, hrest⟩ := ih hreported.looked
        exact ⟨hsuffix.trans (List.suffix_cons _ _), hrest⟩
      · exact ⟨List.suffix_refl _, hreported.looked⟩

theorem drainEot_reported (hreported : Reported sent scene) :
    (drainEot messages scene).1 <:+ messages ∧
      Reported sent (drainEot messages scene).2 := by
  unfold drainEot
  split
  · refine ⟨?_, hreported.looked⟩
    split
    · exact List.suffix_cons _ _
    · exact List.suffix_refl _
  · exact ⟨List.suffix_refl _, hreported.looked⟩

/-- A round keeps to what the server sent. -/
def HandledHonest (sent rest : List Message) : Handled → Prop
  | .continue scene => Reported sent scene
  | .finish status left scene => Honest sent rest ⟨status, left, scene⟩

theorem handleEot_honest (hreported : Reported sent scene) :
    HandledHonest sent rest (handleEot context start rest scene) := by
  unfold handleEot
  split
  · exact hreported.looked
  · split
    · exact hreported.looked.looked
    · split
      · exact hreported.looked.looked.withResult hreported.done
      · exact hreported.looked.looked

theorem handleDescribe_honest (hreported : Reported sent scene)
    (payload : Describe) :
    HandledHonest sent rest (handleDescribe caps payload rest scene) := by
  unfold handleDescribe
  split
  · exact ⟨List.suffix_refl _, hreported.of_eq rfl rfl⟩
  · split
    · exact ⟨List.suffix_refl _, hreported.of_eq rfl rfl⟩
    · exact hreported.of_eq rfl rfl

theorem handleTuple_honest (hreported : Reported sent scene)
    (warnings : UInt16) (bytes : List UInt8) :
    HandledHonest sent rest (handleTuple warnings bytes rest scene) := by
  unfold handleTuple
  split
  · exact ⟨List.suffix_refl _, hreported.of_eq rfl rfl⟩
  · unfold receiveTuple
    split
    · exact ⟨List.suffix_refl _, hreported.of_eq rfl rfl⟩
    · next result hresult =>
      split at hresult
      · cases hresult
        exact hreported.of_eq rfl rfl
      · cases hresult

theorem handleUnknown_honest (hreported : Reported sent scene) :
    HandledHonest sent rest (handleUnknown caps rest scene) := by
  have hflagged : Reported sent
      (scene.withDiagnostic scene.diagnostic.flagged) :=
    ⟨hreported.sqlcode, hreported.done⟩
  unfold handleUnknown
  simp only
  split
  · exact ⟨List.suffix_refl _, hflagged.withResult hflagged.done⟩
  · exact hflagged

theorem handle_honest {message : Message} (member : message ∈ sent)
    (hreported : Reported sent scene) :
    HandledHonest sent rest (handle caps context start message rest scene) := by
  cases message with
  | describe payload => exact handleDescribe_honest hreported payload
  | tuple warnings bytes => exact handleTuple_honest hreported warnings bytes
  | eot => exact handleEot_honest hreported
  | done payload =>
      have hdone : Reported sent
          (scene.withResult (receiveDone caps payload scene.result)) :=
        hreported.withResult fun _ => ⟨payload, member⟩
      obtain ⟨hsuffix, hdrained⟩ := drainTrail_reported hdone
      exact ⟨hsuffix, hdrained⟩
  | err payload =>
      have herror : Reported sent ((scene.withResult
          (receiveError payload scene.result)).withDiagnostic
            (.server payload)) :=
        ⟨fun _ => ⟨payload, member, rfl⟩, hreported.done⟩
      obtain ⟨hsuffix, hdrained⟩ := drainEot_reported herror
      exact ⟨hsuffix, hdrained⟩
  | exit =>
      exact ⟨List.suffix_refl _, hreported.withResult hreported.done⟩
  | insertdone serial =>
      refine hreported.withResult ?_
      unfold receiveInsertdone
      split <;> exact hreported.done
  | unknown opcode => exact handleUnknown_honest hreported
  | oversizedTuple => exact ⟨List.suffix_refl _, hreported.local⟩
  | oversizedDescribe => exact ⟨List.suffix_refl _, hreported⟩
  | _ => exact hreported

theorem receiveLoop_honest (hsent : messages ⊆ sent)
    (hreported : Reported sent scene) :
    Honest sent messages (receiveLoop caps context start messages scene) := by
  induction messages generalizing scene with
  | nil =>
      rw [receiveLoop]
      split
      · exact ⟨List.suffix_refl _, hreported⟩
      · exact ⟨List.suffix_refl _, hreported.local⟩
  | cons message rest ih =>
      rw [receiveLoop]
      split
      · exact ⟨List.suffix_refl _, hreported⟩
      · have hhandled := @handle_honest caps context start sent rest scene
          message (hsent List.mem_cons_self) hreported
        have hrest : rest ⊆ sent := fun other member =>
          hsent (List.mem_cons_of_mem _ member)
        split
        · next next hnext =>
          rw [hnext] at hhandled
          have hlater := ih hrest hhandled
          exact ⟨hlater.suffix.trans (List.suffix_cons _ _), hlater.reported⟩
        · next status left next hnext =>
          rw [hnext] at hhandled
          exact ⟨hhandled.suffix.trans (List.suffix_cons _ _),
            hhandled.reported⟩

theorem receiveDispatch_honest (hsent : messages ⊆ sent)
    (hreported : Reported sent scene) :
    Honest sent messages (receiveDispatch caps context messages scene) :=
  receiveLoop_honest hsent hreported

theorem executeLoop_honest {guard : Nat} (hsent : messages ⊆ sent)
    (hreported : Reported sent scene) :
    Honest sent messages (executeLoop caps guard messages scene) := by
  induction guard generalizing messages scene with
  | zero => exact ⟨List.suffix_refl _, hreported.local⟩
  | succ guard ih =>
      have hreception := @receiveDispatch_honest caps .otherRecv sent messages
        (scene.withResult (rearm scene.result)) hsent
        (hreported.withResult nofun)
      rw [executeLoop]
      generalize receiveDispatch caps .otherRecv messages
        (scene.withResult (rearm scene.result)) = reception at hreception
      split
      · exact hreception
      · split
        · exact hreception
        · split
          · exact ⟨hreception.suffix, hreception.reported.looked⟩
          · have hlater := ih
              (fun _ member => hsent (hreception.suffix.subset member))
              hreception.reported.looked
            exact ⟨hlater.suffix.trans hreception.suffix, hlater.reported⟩

/-- The reports of the execution; the tail adds none. -/
theorem receiveExecuteResult_reported (hsent : messages ⊆ sent)
    (hreported : Reported sent scene) :
    Reported sent (receiveExecuteResult caps messages scene).scene := by
  have hreception := @executeLoop_honest caps sent messages scene executeGuard
    hsent hreported
  unfold receiveExecuteResult
  simp only
  generalize executeLoop caps executeGuard messages scene = reception
    at hreception
  split
  · exact ⟨fun hcode => absurd rfl hcode, hreception.reported.done⟩
  · unfold Diagnostic.orLocal
    split
    · exact hreception.reported.of_eq rfl rfl
    · exact hreception.reported.local

end Libsqli.Receive
