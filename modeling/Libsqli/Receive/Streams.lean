import Libsqli.Receive.Batches

namespace Libsqli.Receive

/-! What no reception breaks. -/

/-- A condition that every step of the dispatch loop keeps. -/
structure Lasting (holds : Scene → Prop) : Prop where
  looked {scene : Scene} (hscene : holds scene) : holds scene.looked
  allocated {scene : Scene} (hscene : holds scene) : holds scene.allocated
  noted {scene : Scene} (diagnostic : Diagnostic) (hscene : holds scene) :
    holds (scene.withDiagnostic diagnostic)
  ended {scene : Scene} (hscene : holds scene) :
    holds (scene.withResult (endGroup scene.result))
  described {scene : Scene} (caps : Capabilities) (describe : Describe)
    (hscene : holds scene) :
    holds (scene.withResult (replaceDescriptor caps describe scene.result))
  grown {scene : Scene} {warnings : UInt16} {bytes : List UInt8}
    {result : Result} (hscene : holds scene)
    (htuple : receiveTuple warnings bytes scene.result = some result) :
    holds (scene.withResult result)
  counted {scene : Scene} (caps : Capabilities) (done : Done)
    (hscene : holds scene) :
    holds (scene.withResult (receiveDone caps done scene.result))
  failed {scene : Scene} (error : ServerError) (hscene : holds scene) :
    holds (scene.withResult (receiveError error scene.result))
  inserted {scene : Scene} (serial : Int8Value) (hscene : holds scene) :
    holds (scene.withResult (receiveInsertdone serial scene.result))

/-- The scene that a round leaves. -/
def Handled.scene : Handled → Scene
  | .continue scene => scene
  | .finish _ _ scene => scene

variable {holds : Scene → Prop} {caps : Capabilities} {context : Context}
  {start : Int} {messages rest : List Message} {scene : Scene}

theorem Lasting.drainTrail (hlasting : Lasting holds) (hscene : holds scene) :
    holds (drainTrail messages scene).2 := by
  induction messages generalizing scene with
  | nil => exact hlasting.looked hscene
  | cons message rest ih =>
      rw [Receive.drainTrail]
      split
      · exact ih (hlasting.looked hscene)
      · exact hlasting.looked hscene

theorem Lasting.drainEot (hlasting : Lasting holds) (hscene : holds scene) :
    holds (drainEot messages scene).2 := by
  unfold Receive.drainEot
  split <;> exact hlasting.looked hscene

theorem Lasting.handle (hlasting : Lasting holds) (hscene : holds scene)
    (message : Message) :
    holds (handle caps context start message rest scene).scene := by
  cases message with
  | describe payload =>
      change holds (handleDescribe caps payload rest scene).scene
      unfold handleDescribe
      split
      · exact hlasting.allocated hscene
      · split
        · exact hlasting.allocated hscene
        · exact hlasting.described caps payload (hlasting.allocated hscene)
  | tuple warnings bytes =>
      change holds (handleTuple warnings bytes rest scene).scene
      unfold handleTuple
      split
      · exact hlasting.allocated hscene
      · split
        · exact hlasting.allocated hscene
        · next htuple =>
          exact hlasting.grown (hlasting.allocated hscene) htuple
  | done payload => exact hlasting.drainTrail (hlasting.counted caps payload hscene)
  | err payload =>
      exact hlasting.drainEot
        (hlasting.noted (.server payload) (hlasting.failed payload hscene))
  | eot =>
      change holds (handleEot context start rest scene).scene
      unfold handleEot
      split
      · exact hlasting.looked hscene
      · split
        · exact hlasting.looked (hlasting.looked hscene)
        · split
          · exact hlasting.ended (hlasting.looked (hlasting.looked hscene))
          · exact hlasting.looked (hlasting.looked hscene)
  | exit => exact hlasting.ended hscene
  | insertdone serial => exact hlasting.inserted serial hscene
  | unknown opcode =>
      have hnoted := hlasting.noted scene.diagnostic.flagged hscene
      change holds (handleUnknown caps rest scene).scene
      unfold handleUnknown
      dsimp only
      split
      · exact hlasting.ended hnoted
      · exact hnoted
  | oversizedTuple => exact hlasting.noted .local hscene
  | _ => exact hscene

theorem Lasting.receiveLoop (hlasting : Lasting holds) (hscene : holds scene) :
    holds (receiveLoop caps context start messages scene).scene := by
  induction messages generalizing scene with
  | nil =>
      unfold Receive.receiveLoop
      split
      · exact hscene
      · exact hlasting.noted .local hscene
  | cons message rest ih =>
      unfold Receive.receiveLoop
      split
      · exact hscene
      · have hhandled := @hlasting.handle holds caps context start rest scene
          hscene message
        split
        · next hread =>
          rw [hread] at hhandled
          exact ih hhandled
        · next hread =>
          rw [hread] at hhandled
          exact hhandled

/-- Every look finds the next message arrived. -/
def Prompt (scene : Scene) : Prop := ∀ index, scene.looks index = true

theorem lasting_prompt : Lasting Prompt where
  looked hscene := fun index => hscene (index + 1)
  allocated hscene := hscene
  noted _ hscene := hscene
  ended hscene := hscene
  described _ _ hscene := hscene
  grown hscene _ := hscene
  counted _ _ hscene := hscene
  failed _ hscene := hscene
  inserted _ hscene := hscene

/-! How far a reception reads. -/

theorem receiveLoop_reads (hopen : scene.result.eof = false)
    (hok : (receiveLoop caps context start messages scene).status = .ok) :
    (receiveLoop caps context start messages scene).messages.length <
      messages.length := by
  cases messages with
  | nil =>
      rw [receiveLoop, if_neg (Bool.eq_false_iff.mp hopen)] at hok
      cases hok
  | cons message rest =>
      rw [receiveLoop, if_neg (Bool.eq_false_iff.mp hopen)]
      split
      · next next hread =>
        exact Nat.lt_succ_of_le
          (receiveLoop_suffix rest next).sublist.length_le
      · next hread =>
        exact Nat.lt_succ_of_le (handle_suffix hread).sublist.length_le

/-- Stale messages are read over, or an EOT among them ends the group. -/
theorem receiveLoop_behind (hopen : scene.result.eof = false)
    (hstale : Stale messages) (hrest : rest ≠ []) :
    receiveLoop caps context start (messages ++ rest) scene =
        receiveLoop caps context start rest (scene.skipped messages) ∨
      messages ≠ [] ∧
        (receiveLoop caps context start (messages ++ rest) scene).scene.result =
          endGroup scene.result := by
  induction messages generalizing scene with
  | nil => exact .inl rfl
  | cons message messages ih =>
      have htail : Stale messages := fun other member =>
        hstale other (List.mem_cons_of_mem _ member)
      rw [List.cons_append, receiveLoop, if_neg (Bool.eq_false_iff.mp hopen)]
      rcases hstale message List.mem_cons_self with hsilent | rfl
      · rw [handle_silent hsilent, skipped_silent hsilent]
        exact (ih hopen htail).imp_right fun hended =>
          ⟨List.cons_ne_nil _ _, hended.2⟩
      · have hbehind : messages ++ rest ≠ [] := by
          intro hnil
          exact hrest (List.append_eq_nil_iff.mp hnil).2
        by_cases harrived : scene.looks 0 = true
        · have hread : handle caps context start .eot (messages ++ rest)
              scene = .continue scene.looked := if_pos ⟨hbehind, harrived⟩
          have hskip : scene.skipped (.eot :: messages) =
              scene.looked.skipped messages := by
            rw [Scene.skipped, skipLooks, if_pos harrived]
            rfl
          rw [hread, hskip]
          exact (@ih scene.looked hopen htail).imp_right fun hended =>
            ⟨List.cons_ne_nil _ _, hended.2⟩
        · have hread : handle caps context start .eot (messages ++ rest)
              scene = .continue scene.looked.looked ∨
            handle caps context start .eot (messages ++ rest) scene =
              .continue (scene.looked.looked.withResult
                (endGroup scene.result)) := by
            change handleEot _ _ _ _ = _ ∨ handleEot _ _ _ _ = _
            unfold handleEot
            rw [if_neg fun h => harrived h.2]
            split
            · exact .inl rfl
            · split
              · exact .inr rfl
              · exact .inl rfl
          have hskip : scene.skipped (.eot :: messages) =
              scene.looked.looked.skipped messages := by
            rw [Scene.skipped, skipLooks, if_neg harrived]
            rfl
          rcases hread with hread | hread
          · rw [hread, hskip]
            exact (@ih scene.looked.looked hopen htail).imp_right
              fun hended => ⟨List.cons_ne_nil _ _, hended.2⟩
          · rw [hread]
            dsimp only
            rw [receiveLoop_of_eof rfl]
            exact .inr ⟨List.cons_ne_nil _ _, rfl⟩

theorem receiveLoop_ending_prompt {ending : List Message}
    (hending : Ending ending) (hopen : scene.result.eof = false)
    (hcan : canEndGroup context start scene.result = true)
    (hprompt : Prompt scene) :
    (receiveLoop caps context start ending scene).messages = [] := by
  cases hending with
  | plain =>
      have hread : handle caps context start .eot [] scene =
          .continue (scene.looked.looked.withResult
            (endGroup scene.result)) := by
        change handleEot _ _ _ _ = _
        unfold handleEot
        rw [if_neg fun h => h.1 rfl, if_neg fun h => h.1 rfl, if_pos hcan]
      rw [receiveLoop, if_neg (Bool.eq_false_iff.mp hopen), hread]
      dsimp only
      rw [receiveLoop_of_eof rfl]
  | done htrail =>
      obtain ⟨-, -, -, hempty⟩ :=
        @receiveLoop_done caps context start scene _ _ hopen htrail
      exact hempty.mpr fun index _ => hprompt index

/-! Groups received into a result that earlier groups went into. -/

/-- A group that brings rows brings them all, unless it ends at a stale EOT. -/
theorem receiveDispatch_batch {batch : List (List UInt8)}
    {reply : List Message} (hreply : Brings batch reply) (hbatch : batch ≠ [])
    (hstale : Stale messages) (hopen : scene.result.eof = false)
    (hok : (receiveDispatch caps .fetchRecv (messages ++ reply) scene).status =
      .ok) :
    let reception := receiveDispatch caps .fetchRecv (messages ++ reply) scene
    reception.scene.result.rows.val = scene.result.rows.val ++ batch ∧
        Stale reception.messages ∧
        (messages = [] → Prompt scene → reception.messages = []) ∨
      messages ≠ [] ∧ reception.scene.result.rows = scene.result.rows := by
  obtain ⟨body, ending, rfl, hbody, rfl, hending⟩ := hreply
  have hne : body ++ ending ≠ [] := by
    intro hnil
    rw [(List.append_eq_nil_iff.mp hnil).1] at hbatch
    exact hbatch rfl
  dsimp only
  unfold receiveDispatch at hok ⊢
  rcases @receiveLoop_behind caps .fetchRecv scene.result.rowCount messages _
    scene hopen hstale hne with hread | ⟨hsome, hended⟩
  · rw [hread] at hok ⊢
    obtain ⟨after, hgrown, hrest⟩ :=
      @receiveLoop_body caps .fetchRecv scene.result.rowCount body ending
        (scene.skipped messages) hopen hbody hok
    have hcan : canEndGroup .fetchRecv scene.result.rowCount after.result =
        true := by
      have hcount : after.result.rowCount - scene.result.rowCount ≠ 0 := by
        unfold Result.rowCount
        rw [hgrown.rows, List.length_append]
        have := List.length_pos_iff.mpr hbatch
        change ((scene.result.rows.val.length + _ : Nat) : Int) -
          (scene.result.rows.val.length : Int) ≠ 0
        omega
      simp [canEndGroup, hcount]
    rw [hrest]
    obtain ⟨-, hresult, hleft⟩ :=
      @receiveLoop_ending caps .fetchRecv scene.result.rowCount after ending
        hending hgrown.eof hcan
    refine .inl ⟨?_, hleft, ?_⟩
    · rcases hresult with hresult | ⟨payload, hresult⟩
      · rw [hresult]
        exact hgrown.rows
      · rw [hresult]
        exact hgrown.rows
    · rintro rfl hprompt
      refine receiveLoop_ending_prompt hending hgrown.eof hcan fun index => ?_
      rw [hgrown.looks]
      exact hprompt index
  · refine .inr ⟨hsome, ?_⟩
    rw [hended]
    rfl

/-- A group behind the last row brings none. -/
theorem receiveDispatch_finish {reply : List Message}
    (hreply : Finishes reply) (hstale : Stale messages)
    (hopen : scene.result.eof = false) :
    (receiveDispatch caps .fetchRecv (messages ++ reply)
      scene).scene.result.rows = scene.result.rows := by
  obtain ⟨quiet, payload, trail, rfl, hquiet, htrail⟩ := hreply
  have hsilent : ∀ message ∈ quiet, message.silent = true :=
    fun message member => Message.silent_of_chatter (hquiet message member)
  have hne : quiet ++ .done payload :: (trail ++ [.eot]) ≠ [] := by
    simp
  unfold receiveDispatch
  rcases @receiveLoop_behind caps .fetchRecv scene.result.rowCount messages _
    scene hopen hstale hne with hread | ⟨-, hended⟩
  · rw [hread, @receiveLoop_silent caps .fetchRecv scene.result.rowCount quiet
      _ (scene.skipped messages) hopen hsilent]
    obtain ⟨-, hresult, -⟩ :=
      @receiveLoop_done caps .fetchRecv scene.result.rowCount
        (scene.skipped messages) payload trail hopen htrail
    rw [hresult]
    rfl
  · rw [hended]
    rfl

/-- A description that has arrived is read whole. -/
theorem receiveDispatch_described {reply : List Message}
    (hreply : Describes reply) (hopen : scene.result.eof = false)
    (hprompt : Prompt scene)
    (hok : (receiveDispatch caps .prepareRecv reply scene).status = .ok) :
    (receiveDispatch caps .prepareRecv reply scene).messages = [] := by
  obtain ⟨before, describe, behind, ending, rfl, hbefore, htype, hbehind,
    hending⟩ := hreply
  unfold receiveDispatch at hok ⊢
  rw [receiveLoop_silent hopen hbefore, receiveLoop,
    if_neg (Bool.eq_false_iff.mp hopen)] at hok ⊢
  have hread : (∃ status left after, status ≠ .ok ∧
      handle caps .prepareRecv scene.result.rowCount (.describe describe)
        (behind ++ ending) scene = .finish status left after) ∨
      handle caps .prepareRecv scene.result.rowCount (.describe describe)
        (behind ++ ending) scene = .continue (scene.allocated.withResult
          (replaceDescriptor caps describe scene.result)) := by
    change (∃ status left after, status ≠ Status.ok ∧
      handleDescribe _ _ _ _ = _) ∨ handleDescribe _ _ _ _ = _
    unfold handleDescribe
    split
    · exact .inl ⟨.allocFail, _, _, by decide, rfl⟩
    · split
      · exact .inl ⟨.protoError, _, _, by decide, rfl⟩
      · exact .inr rfl
  rcases hread with ⟨status, left, after, hfailed, hread⟩ | hread
  · rw [hread] at hok
    exact absurd hok hfailed
  · rw [hread]
    dsimp only
    generalize hscene : scene.allocated.withResult
      (replaceDescriptor caps describe scene.result) = described
    have hselect : described.result.statementType = 2 := by
      rw [← hscene]
      change describe.statementType.toNat = 2
      rw [htype]
      rfl
    have hcontinue : described.result.eof = false := by
      rw [← hscene]
      rfl
    have hcan : canEndGroup .prepareRecv scene.result.rowCount
        described.result = true := by
      simp [canEndGroup, hselect]
    have hsighted : Prompt described := by
      rw [← hscene]
      exact hprompt
    rw [receiveLoop_silent hcontinue hbehind]
    exact receiveLoop_ending_prompt hending hcontinue hcan hsighted

end Libsqli.Receive
