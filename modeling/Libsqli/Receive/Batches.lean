import Libsqli.Receive.Execute

namespace Libsqli.Receive

/-! Replies that bring the rows of a result in batches. -/

/-- The messages that the dispatch loop only reads over. -/
def Message.silent : Message → Bool
  | .dbopenFlags _ | .command _ | .prepare | .close | .release | .tupid _
  | .dbopen _ | .dbclose | .cost _ _ | .info _ | .reassoc
  | .xactstat _ _ _ => true
  | _ => false

def Message.chatter : Message → Bool
  | .cost _ _ | .info _ => true
  | _ => false

def Message.row? : Message → Option (List UInt8)
  | .tuple _ bytes => some bytes
  | _ => none

/-- What may be left unread of a reply that has been heard. -/
def Stale (messages : List Message) : Prop :=
  ∀ message ∈ messages, message.silent = true ∨ message = .eot

/-- An answer that only acknowledges. -/
def Acknowledges (reply : List Message) : Prop :=
  ∃ quiet, reply = quiet ++ [.eot] ∧ ∀ message ∈ quiet, message.silent = true

/-- The end of an answer, with a DONE or without. -/
inductive Ending : List Message → Prop where
  | plain : Ending [.eot]
  | done {payload : Done} {trail : List Message}
      (htrail : ∀ message ∈ trail, message.chatter = true) :
      Ending (.done payload :: (trail ++ [.eot]))

/-- An answer to a PREPARE that describes a SELECT. -/
def Describes (reply : List Message) : Prop :=
  ∃ before describe behind ending,
    reply = before ++ .describe describe :: (behind ++ ending) ∧
      (∀ message ∈ before, message.silent = true) ∧
      describe.statementType = 2 ∧
      (∀ message ∈ behind, message.silent = true) ∧ Ending ending

/-- An answer to an NFETCH that brings these rows. -/
def Brings (rows : List (List UInt8)) (reply : List Message) : Prop :=
  ∃ body ending, reply = body ++ ending ∧
    (∀ message ∈ body, message.chatter = true ∨ message.row?.isSome) ∧
    body.filterMap Message.row? = rows ∧ Ending ending

/-- An answer to an NFETCH behind the last row. -/
def Finishes (reply : List Message) : Prop :=
  ∃ quiet payload trail, reply = quiet ++ .done payload :: (trail ++ [.eot]) ∧
    (∀ message ∈ quiet, message.chatter = true) ∧
    ∀ message ∈ trail, message.chatter = true

theorem Message.silent_of_chatter {message : Message}
    (hchatter : message.chatter = true) : message.silent = true := by
  cases message with
  | cost rows cost => rfl
  | info items => rfl
  | _ => cases hchatter

theorem Message.trails_of_chatter {message : Message}
    (hchatter : message.chatter = true) : message.trails = true := by
  cases message with
  | cost rows cost => rfl
  | info items => rfl
  | _ => cases hchatter

theorem Stale.suffix {messages rest : List Message} (hstale : Stale messages)
    (hsuffix : rest <:+ messages) : Stale rest :=
  fun message member => hstale message (hsuffix.subset member)

theorem Stale.append {first second : List Message} (hfirst : Stale first)
    (hsecond : Stale second) : Stale (first ++ second) :=
  List.forall_mem_append.mpr ⟨hfirst, hsecond⟩

theorem stale_nil : Stale [] := by
  intro message member
  cases member

theorem stale_of_silent {messages : List Message}
    (hsilent : ∀ message ∈ messages, message.silent = true) :
    Stale messages :=
  fun message member => .inl (hsilent message member)

theorem stale_eot : Stale [.eot] := by
  intro message member
  exact .inr (List.mem_singleton.mp member)

theorem Acknowledges.stale {reply : List Message}
    (hreply : Acknowledges reply) : Stale reply := by
  obtain ⟨quiet, rfl, hquiet⟩ := hreply
  exact (stale_of_silent hquiet).append stale_eot

/-! A reception leaves the end of what it found. -/

variable {caps : Capabilities} {context : Context} {start : Int}
  {messages rest : List Message} {scene : Scene}

theorem drainTrail_suffix (messages : List Message) (scene : Scene) :
    (drainTrail messages scene).1 <:+ messages := by
  induction messages generalizing scene with
  | nil => exact List.suffix_refl _
  | cons message rest ih =>
      rw [drainTrail]
      split
      · exact (ih scene.looked).trans (List.suffix_cons _ _)
      · exact List.suffix_refl _

theorem drainEot_suffix (messages : List Message) (scene : Scene) :
    (drainEot messages scene).1 <:+ messages := by
  unfold drainEot
  split
  · dsimp only
    split
    · exact List.suffix_cons _ _
    · exact List.suffix_refl _
  · exact List.suffix_refl _

theorem handle_suffix {message : Message} {status : Status}
    {left : List Message} {after : Scene}
    (hfinish : handle caps context start message rest scene =
      .finish status left after) : left <:+ rest := by
  cases message with
  | describe payload =>
      change handleDescribe caps payload rest scene = _ at hfinish
      unfold handleDescribe at hfinish
      split at hfinish
      · cases hfinish
        exact List.suffix_refl _
      · split at hfinish
        · cases hfinish
          exact List.suffix_refl _
        · cases hfinish
  | tuple warnings bytes =>
      change handleTuple warnings bytes rest scene = _ at hfinish
      unfold handleTuple at hfinish
      split at hfinish
      · cases hfinish
        exact List.suffix_refl _
      · split at hfinish
        · cases hfinish
          exact List.suffix_refl _
        · cases hfinish
  | done payload =>
      cases hfinish
      exact drainTrail_suffix _ _
  | err payload =>
      cases hfinish
      exact drainEot_suffix _ _
  | eot =>
      change handleEot context start rest scene = _ at hfinish
      unfold handleEot at hfinish
      repeat' split at hfinish
      all_goals cases hfinish
  | unknown opcode =>
      change handleUnknown caps rest scene = _ at hfinish
      unfold handleUnknown at hfinish
      dsimp only at hfinish
      split at hfinish
      · cases hfinish
        exact List.suffix_refl _
      · cases hfinish
  | exit =>
      cases hfinish
      exact List.suffix_refl _
  | oversizedTuple =>
      cases hfinish
      exact List.suffix_refl _
  | oversizedDescribe =>
      cases hfinish
      exact List.suffix_refl _
  | _ => cases hfinish

theorem receiveLoop_suffix (messages : List Message) (scene : Scene) :
    (receiveLoop caps context start messages scene).messages <:+ messages := by
  induction messages generalizing scene with
  | nil =>
      unfold receiveLoop
      split <;> exact List.suffix_refl _
  | cons message rest ih =>
      unfold receiveLoop
      split
      · exact List.suffix_refl _
      · split
        · exact (ih _).trans (List.suffix_cons _ _)
        · next hfinish =>
          exact (handle_suffix hfinish).trans (List.suffix_cons _ _)

theorem drainExtra_suffix (extra : Nat) (messages : List Message)
    (scene : Scene) :
    (drainExtra caps extra messages scene).messages <:+ messages := by
  induction extra generalizing messages scene with
  | zero => exact List.suffix_refl _
  | succ extra ih =>
      have hdispatch := @receiveLoop_suffix caps .otherRecv
        (scene.looked.withResult blankResult).result.rowCount messages
        (scene.looked.withResult blankResult)
      unfold drainExtra
      split
      · exact List.suffix_refl _
      · dsimp only
        split
        · exact hdispatch
        · exact (ih _ _).trans hdispatch

/-! Reading over stale messages. -/

theorem handle_silent {message : Message} (hsilent : message.silent = true) :
    handle caps context start message rest scene = .continue scene := by
  cases message <;> first | rfl | cases hsilent

theorem receiveLoop_silent (hopen : scene.result.eof = false)
    (hsilent : ∀ message ∈ messages, message.silent = true) :
    receiveLoop caps context start (messages ++ rest) scene =
      receiveLoop caps context start rest scene := by
  induction messages with
  | nil => rfl
  | cons message messages ih =>
      rw [List.cons_append, receiveLoop, if_neg (Bool.eq_false_iff.mp hopen),
        handle_silent (hsilent message List.mem_cons_self)]
      exact ih fun other member => hsilent other (List.mem_cons_of_mem _ member)

/-- The looks left once every EOT among the messages is read over. -/
def skipLooks : List Message → (Nat → Bool) → Nat → Bool
  | [], looks => looks
  | .eot :: rest, looks =>
      if looks 0 then skipLooks rest fun index => looks (index + 1)
      else skipLooks rest fun index => looks (index + 2)
  | _ :: rest, looks => skipLooks rest looks

def Scene.skipped (messages : List Message) (scene : Scene) : Scene :=
  { scene with looks := skipLooks messages scene.looks }

theorem skipped_silent {message : Message} (hsilent : message.silent = true) :
    scene.skipped (message :: messages) = scene.skipped messages := by
  cases message <;> first | rfl | cases hsilent

/-- No stale EOT ends a group that may not end yet. -/
theorem receiveLoop_stale (hopen : scene.result.eof = false)
    (hcannot : canEndGroup context start scene.result = false)
    (hstale : Stale messages) (hrest : rest ≠ []) :
    receiveLoop caps context start (messages ++ rest) scene =
      receiveLoop caps context start rest (scene.skipped messages) := by
  induction messages generalizing scene with
  | nil => rfl
  | cons message messages ih =>
      have htail : Stale messages := fun other member =>
        hstale other (List.mem_cons_of_mem _ member)
      rw [List.cons_append, receiveLoop, if_neg (Bool.eq_false_iff.mp hopen)]
      rcases hstale message List.mem_cons_self with hsilent | rfl
      · rw [handle_silent hsilent, skipped_silent hsilent]
        exact ih hopen hcannot htail
      · have hbehind : messages ++ rest ≠ [] := by
          intro hnil
          exact hrest (List.append_eq_nil_iff.mp hnil).2
        by_cases harrived : scene.looks 0 = true
        · have hread : handle caps context start .eot (messages ++ rest)
              scene = .continue scene.looked := if_pos ⟨hbehind, harrived⟩
          have hskip : scene.skipped (.eot :: messages) =
              scene.looked.skipped messages := by
            rw [Scene.skipped, skipLooks, if_pos harrived]
            rfl
          rw [hread, hskip]
          exact @ih scene.looked hopen hcannot htail
        · have hread : handle caps context start .eot (messages ++ rest)
              scene = .continue scene.looked.looked := by
            change handleEot _ _ _ _ = _
            unfold handleEot
            rw [if_neg fun h => harrived h.2]
            split
            · rfl
            · rw [if_neg (Bool.eq_false_iff.mp hcannot)]
          have hskip : scene.skipped (.eot :: messages) =
              scene.looked.looked.skipped messages := by
            rw [Scene.skipped, skipLooks, if_neg harrived]
            rfl
          rw [hread, hskip]
          exact @ih scene.looked.looked hopen hcannot htail

/-- Where any group may end, acknowledged messages end one. -/
theorem receiveLoop_acknowledged (hopen : scene.result.eof = false)
    (hstale : Stale messages) :
    (receiveLoop caps .otherRecv start (messages ++ [.eot]) scene).status =
        .ok ∧
      (receiveLoop caps .otherRecv start (messages ++ [.eot])
        scene).scene.result = endGroup scene.result := by
  induction messages generalizing scene with
  | nil =>
      have hread : handle caps .otherRecv start .eot [] scene =
          .continue (scene.looked.looked.withResult
            (endGroup scene.result)) := rfl
      rw [List.nil_append, receiveLoop, if_neg (Bool.eq_false_iff.mp hopen), hread]
      dsimp only
      rw [receiveLoop_of_eof rfl]
      exact ⟨rfl, rfl⟩
  | cons message messages ih =>
      have htail : Stale messages := fun other member =>
        hstale other (List.mem_cons_of_mem _ member)
      rw [List.cons_append, receiveLoop, if_neg (Bool.eq_false_iff.mp hopen)]
      rcases hstale message List.mem_cons_self with hsilent | rfl
      · rw [handle_silent hsilent]
        exact ih hopen htail
      · change _ ∧ _
        have hread : handle caps .otherRecv start .eot (messages ++ [.eot])
            scene = .continue scene.looked ∨
          handle caps .otherRecv start .eot (messages ++ [.eot]) scene =
            .continue scene.looked.looked ∨
          handle caps .otherRecv start .eot (messages ++ [.eot]) scene =
            .continue (scene.looked.looked.withResult
              (endGroup scene.result)) := by
          change handleEot _ _ _ _ = _ ∨ handleEot _ _ _ _ = _ ∨
            handleEot _ _ _ _ = _
          unfold handleEot
          split
          · exact .inl rfl
          · split
            · exact .inr (.inl rfl)
            · exact .inr (.inr (if_pos rfl))
        rcases hread with hread | hread | hread
        · rw [hread]
          exact @ih scene.looked hopen htail
        · rw [hread]
          exact @ih scene.looked.looked hopen htail
        · rw [hread]
          dsimp only
          rw [receiveLoop_of_eof rfl]
          exact ⟨rfl, rfl⟩

/-- An acknowledgement with nothing before it is read whole. -/
theorem receiveLoop_acknowledgement (hopen : scene.result.eof = false)
    (hsilent : ∀ message ∈ messages, message.silent = true) :
    (receiveLoop caps .otherRecv start (messages ++ [.eot]) scene).messages =
      [] := by
  have hread : handle caps .otherRecv start .eot [] scene =
      .continue (scene.looked.looked.withResult (endGroup scene.result)) := rfl
  rw [receiveLoop_silent hopen hsilent, receiveLoop,
    if_neg (Bool.eq_false_iff.mp hopen), hread]
  dsimp only
  rw [receiveLoop_of_eof rfl]

/-! The rows of a batch. -/

/-- What a batch leaves of the scene in which its first message is read. -/
structure Grown (scene : Scene) (rows : List (List UInt8))
    (after : Scene) : Prop where
  looks : after.looks = scene.looks
  eof : after.result.eof = false
  rows : after.result.rows.val = scene.result.rows.val ++ rows

theorem handle_tuple {warnings : UInt16} {bytes : List UInt8}
    (hopen : scene.result.eof = false) :
    (∃ left after, handle caps context start (.tuple warnings bytes) rest
      scene = .finish .allocFail left after) ∨
    ∃ after, Grown scene [bytes] after ∧
      handle caps context start (.tuple warnings bytes) rest scene =
        .continue after := by
  change (∃ left after, handleTuple warnings bytes rest scene =
    .finish .allocFail left after) ∨ ∃ after, Grown scene [bytes] after ∧
      handleTuple warnings bytes rest scene = .continue after
  unfold handleTuple
  by_cases halloc : scene.allocs 0 = false
  · rw [if_pos halloc]
    exact .inl ⟨_, _, rfl⟩
  rw [if_neg halloc]
  unfold receiveTuple
  by_cases hroom : scene.result.rows.val.length < rowLimit
  · rw [dif_pos hroom]
    refine .inr ⟨_, ?_, rfl⟩
    exact ⟨rfl, hopen, rfl⟩
  · rw [dif_neg hroom]
    exact .inl ⟨_, _, rfl⟩

theorem receiveLoop_body (hopen : scene.result.eof = false)
    (hbody : ∀ message ∈ messages,
      message.chatter = true ∨ message.row?.isSome)
    (hok : (receiveLoop caps context start (messages ++ rest) scene).status =
      .ok) :
    ∃ after, Grown scene (messages.filterMap Message.row?) after ∧
      receiveLoop caps context start (messages ++ rest) scene =
        receiveLoop caps context start rest after := by
  induction messages generalizing scene with
  | nil => exact ⟨scene, ⟨rfl, hopen, (List.append_nil _).symm⟩, rfl⟩
  | cons message messages ih =>
      have htail : ∀ message ∈ messages,
          message.chatter = true ∨ message.row?.isSome :=
        fun other member => hbody other (List.mem_cons_of_mem _ member)
      rw [List.cons_append, receiveLoop, if_neg (Bool.eq_false_iff.mp hopen)]
        at hok ⊢
      rcases hbody message List.mem_cons_self with hchatter | hrow
      · have hnone : message.row? = none := by
          cases message <;> first | rfl | cases hchatter
        rw [handle_silent (Message.silent_of_chatter hchatter)] at hok ⊢
        rw [List.filterMap_cons_none hnone]
        exact ih hopen htail hok
      · cases message with
        | tuple warnings bytes =>
            rcases @handle_tuple caps context start (messages ++ rest) scene
              warnings bytes hopen with ⟨left, after, hfull⟩ |
              ⟨middle, hmiddle, hread⟩
            · rw [hfull] at hok
              cases hok
            · rw [hread] at hok ⊢
              obtain ⟨after, hgrown, hrest⟩ := ih hmiddle.eof htail hok
              refine ⟨after, ⟨hgrown.looks.trans hmiddle.looks, hgrown.eof,
                ?_⟩, hrest⟩
              rw [hgrown.rows, hmiddle.rows]
              exact List.append_assoc _ _ _
        | _ => cases hrow

theorem drainTrail_nil_iff (htrails : ∀ message ∈ messages,
    message.trails = true) :
    (drainTrail messages scene).1 = [] ↔
      ∀ index < messages.length, scene.looks index = true := by
  induction messages generalizing scene with
  | nil => exact iff_of_true rfl nofun
  | cons message messages ih =>
      have htail : ∀ message ∈ messages, message.trails = true :=
        fun other member => htrails other (List.mem_cons_of_mem _ member)
      rw [drainTrail, htrails message List.mem_cons_self, Bool.and_true]
      by_cases harrived : scene.looks 0 = true
      · rw [if_pos harrived, @ih scene.looked htail]
        constructor
        · intro hlooks index hindex
          cases index with
          | zero => exact harrived
          | succ index => exact hlooks index (Nat.lt_of_succ_lt_succ hindex)
        · intro hlooks index hindex
          exact hlooks (index + 1) (Nat.succ_lt_succ hindex)
      · rw [if_neg harrived]
        refine iff_of_false (List.cons_ne_nil _ _) fun hlooks => harrived ?_
        exact hlooks 0 (Nat.succ_pos _)

/-- Everything behind the first DONE has arrived when it is looked for there. -/
def TrailArrived : List Message → (Nat → Bool) → Prop
  | [], _ => True
  | .done _ :: rest, looks => ∀ index < rest.length, looks index = true
  | .eot :: rest, looks =>
      if looks 0 then TrailArrived rest fun index => looks (index + 1)
      else TrailArrived rest fun index => looks (index + 2)
  | _ :: rest, looks => TrailArrived rest looks

theorem trailArrived_silent {looks : Nat → Bool}
    (hsilent : ∀ message ∈ messages, message.silent = true) :
    TrailArrived (messages ++ rest) looks ↔ TrailArrived rest looks := by
  induction messages with
  | nil => exact Iff.rfl
  | cons message messages ih =>
      have hmessage := hsilent message List.mem_cons_self
      have htail := ih fun other member =>
        hsilent other (List.mem_cons_of_mem _ member)
      cases message <;> first | exact htail | cases hmessage

theorem trailArrived_stale {looks : Nat → Bool} (hstale : Stale messages) :
    TrailArrived (messages ++ rest) looks ↔
      TrailArrived rest (skipLooks messages looks) := by
  induction messages generalizing looks with
  | nil => exact Iff.rfl
  | cons message messages ih =>
      have htail : Stale messages := fun other member =>
        hstale other (List.mem_cons_of_mem _ member)
      rcases hstale message List.mem_cons_self with hsilent | rfl
      · cases message <;> first | exact ih htail | cases hsilent
      · rw [List.cons_append, TrailArrived, skipLooks]
        by_cases harrived : looks 0 = true
        · rw [if_pos harrived, if_pos harrived]
          exact ih htail
        · rw [if_neg harrived, if_neg harrived]
          exact ih htail

theorem trails_of_chatter {trail : List Message}
    (htrail : ∀ message ∈ trail, message.chatter = true) :
    ∀ message ∈ trail ++ [.eot], message.trails = true := by
  intro message member
  rcases List.mem_append.mp member with member | member
  · exact Message.trails_of_chatter (htrail message member)
  · rw [List.mem_singleton.mp member]
    rfl

theorem stale_trail {trail : List Message}
    (htrail : ∀ message ∈ trail, message.chatter = true) :
    Stale (trail ++ [.eot]) :=
  (stale_of_silent fun message member =>
    Message.silent_of_chatter (htrail message member)).append stale_eot

/-- A DONE ends the group, with some of what follows it. -/
theorem receiveLoop_done {payload : Done} {trail : List Message}
    (hopen : scene.result.eof = false)
    (htrail : ∀ message ∈ trail, message.chatter = true) :
    let reception := receiveLoop caps context start
      (.done payload :: (trail ++ [.eot])) scene
    reception.status = .ok ∧
      reception.scene.result = receiveDone caps payload scene.result ∧
      Stale reception.messages ∧
      (reception.messages = [] ↔
        ∀ index < (trail ++ [Message.eot]).length, scene.looks index = true) := by
  dsimp only
  rw [receiveLoop, if_neg (Bool.eq_false_iff.mp hopen)]
  refine ⟨rfl, (drainTrail_scene _ _).1, ?_,
    drainTrail_nil_iff (trails_of_chatter htrail)⟩
  exact (stale_trail htrail).suffix (drainTrail_suffix _ _)

theorem receiveLoop_ending {ending : List Message} (hending : Ending ending)
    (hopen : scene.result.eof = false)
    (hcan : canEndGroup context start scene.result = true) :
    let reception := receiveLoop caps context start ending scene
    reception.status = .ok ∧
      (reception.scene.result = endGroup scene.result ∨ ∃ payload,
        reception.scene.result = receiveDone caps payload scene.result) ∧
      Stale reception.messages := by
  cases hending with
  | plain =>
      have hread : handle caps context start .eot [] scene =
          .continue (scene.looked.looked.withResult
            (endGroup scene.result)) := by
        change handleEot _ _ _ _ = _
        unfold handleEot
        rw [if_neg fun h => h.1 rfl, if_neg fun h => h.1 rfl, if_pos hcan]
      dsimp only
      rw [receiveLoop, if_neg (Bool.eq_false_iff.mp hopen), hread]
      dsimp only
      rw [receiveLoop_of_eof rfl]
      exact ⟨rfl, .inl rfl, stale_nil⟩
  | done htrail =>
      obtain ⟨hstatus, hresult, hstale, -⟩ :=
        @receiveLoop_done caps context start scene _ _ hopen htrail
      exact ⟨hstatus, .inr ⟨_, hresult⟩, hstale⟩

/-! Answers behind messages that were left unread. -/

/-- A group that brings rows brings them all. -/
theorem receiveDispatch_brings {rows : List (List UInt8)}
    {reply : List Message} (hreply : Brings rows reply) (hrows : rows ≠ [])
    (hstale : Stale messages) (hopen : scene.result.eof = false)
    (hnew : scene.result.sawDone = false)
    (hok : (receiveDispatch caps .fetchRecv (messages ++ reply) scene).status =
      .ok) :
    (receiveDispatch caps .fetchRecv (messages ++ reply)
        scene).scene.result.rows.val = scene.result.rows.val ++ rows ∧
      Stale (receiveDispatch caps .fetchRecv (messages ++ reply)
        scene).messages := by
  obtain ⟨body, ending, rfl, hbody, rfl, hending⟩ := hreply
  have hne : body ++ ending ≠ [] := by
    intro hnil
    rw [(List.append_eq_nil_iff.mp hnil).1] at hrows
    exact hrows rfl
  have hcannot : canEndGroup .fetchRecv scene.result.rowCount scene.result =
      false := by
    simp [canEndGroup, hnew]
  unfold receiveDispatch at hok ⊢
  rw [receiveLoop_stale hopen hcannot hstale hne] at hok ⊢
  obtain ⟨after, hgrown, hrest⟩ :=
    @receiveLoop_body caps .fetchRecv scene.result.rowCount body ending
      (scene.skipped messages) hopen hbody hok
  have hcan : canEndGroup .fetchRecv scene.result.rowCount after.result =
      true := by
    have hcount : after.result.rowCount ≠ scene.result.rowCount := by
      unfold Result.rowCount
      rw [hgrown.rows, List.length_append]
      have := List.length_pos_iff.mpr hrows
      change _ ≠ ((scene.skipped messages).result.rows.val.length : Int)
      omega
    have hdifference : after.result.rowCount - scene.result.rowCount ≠ 0 := by
      omega
    simp [canEndGroup, hdifference]
  rw [hrest]
  obtain ⟨-, hresult, hleft⟩ :=
    @receiveLoop_ending caps .fetchRecv scene.result.rowCount after ending
      hending hgrown.eof hcan
  refine ⟨?_, hleft⟩
  rcases hresult with hresult | ⟨payload, hresult⟩
  · rw [hresult]
    exact hgrown.rows
  · rw [hresult]
    exact hgrown.rows

/-- A group behind the last row brings none; nothing of it stays unread exactly
if it has arrived by then. -/
theorem receiveDispatch_finishes {reply : List Message}
    (hreply : Finishes reply) (hstale : Stale messages)
    (hopen : scene.result.eof = false)
    (hnew : scene.result.sawDone = false) :
    let reception := receiveDispatch caps .fetchRecv (messages ++ reply) scene
    reception.scene.result.rows = scene.result.rows ∧
      Stale reception.messages ∧
      (reception.messages = [] ↔
        TrailArrived (messages ++ reply) scene.looks) := by
  obtain ⟨quiet, payload, trail, rfl, hquiet, htrail⟩ := hreply
  have hsilent : ∀ message ∈ quiet, message.silent = true :=
    fun message member => Message.silent_of_chatter (hquiet message member)
  have hcannot : canEndGroup .fetchRecv scene.result.rowCount scene.result =
      false := by
    simp [canEndGroup, hnew]
  have hne : quiet ++ .done payload :: (trail ++ [.eot]) ≠ [] := by
    simp
  dsimp only
  unfold receiveDispatch
  rw [receiveLoop_stale hopen hcannot hstale hne]
  rw [@receiveLoop_silent caps .fetchRecv scene.result.rowCount quiet _
    (scene.skipped messages) hopen hsilent]
  obtain ⟨-, hresult, hleft, hempty⟩ :=
    @receiveLoop_done caps .fetchRecv scene.result.rowCount
      (scene.skipped messages) payload trail hopen htrail
  refine ⟨by rw [hresult]; rfl, hleft, hempty.trans ?_⟩
  rw [trailArrived_stale hstale, trailArrived_silent hsilent]
  exact Iff.rfl

/-- A group that describes a SELECT leaves a SELECT without rows. -/
theorem receiveDispatch_describes {reply : List Message}
    (hreply : Describes reply) (hstale : Stale messages)
    (hopen : scene.result.eof = false)
    (hblank : canEndGroup .prepareRecv scene.result.rowCount scene.result =
      false)
    (hok : (receiveDispatch caps .prepareRecv (messages ++ reply)
      scene).status = .ok) :
    let reception := receiveDispatch caps .prepareRecv (messages ++ reply) scene
    reception.scene.result.rows = scene.result.rows ∧
      reception.scene.result.statementType = 2 ∧
      Stale reception.messages := by
  obtain ⟨before, describe, behind, ending, rfl, hbefore, htype, hbehind,
    hending⟩ := hreply
  have hne : before ++ .describe describe :: (behind ++ ending) ≠ [] := by
    simp
  dsimp only
  unfold receiveDispatch at hok ⊢
  rw [receiveLoop_stale hopen hblank hstale hne] at hok ⊢
  rw [@receiveLoop_silent caps .prepareRecv scene.result.rowCount before _
    (scene.skipped messages) hopen hbefore] at hok ⊢
  have hread : (∃ status left after, status ≠ .ok ∧
      handle caps .prepareRecv scene.result.rowCount (.describe describe)
        (behind ++ ending) (scene.skipped messages) =
          .finish status left after) ∨
      handle caps .prepareRecv scene.result.rowCount (.describe describe)
        (behind ++ ending) (scene.skipped messages) =
          .continue ((scene.skipped messages).allocated.withResult
            (replaceDescriptor caps describe scene.result)) := by
    change (∃ status left after, status ≠ Status.ok ∧
      handleDescribe _ _ _ _ = _) ∨ handleDescribe _ _ _ _ = _
    unfold handleDescribe
    split
    · exact .inl ⟨.allocFail, _, _, nofun, rfl⟩
    · split
      · exact .inl ⟨.protoError, _, _, nofun, rfl⟩
      · exact .inr rfl
  have hcontinues : ¬ (scene.skipped messages).result.eof = true := by
    change ¬ scene.result.eof = true
    rw [hopen]
    nofun
  rw [receiveLoop, if_neg hcontinues] at hok ⊢
  rcases hread with ⟨status, left, after, hfailed, hread⟩ | hread
  · rw [hread] at hok
    exact absurd hok hfailed
  · rw [hread]
    dsimp only
    generalize hscene : (scene.skipped messages).allocated.withResult
      (replaceDescriptor caps describe scene.result) = described
    have hrows : described.result.rows = scene.result.rows := by
      rw [← hscene]
      rfl
    have hselect : described.result.statementType = 2 := by
      rw [← hscene]
      change describe.statementType.toNat = 2
      rw [htype]
      rfl
    have hcontinue : described.result.eof = false := by
      rw [← hscene]
      rfl
    have hcan : canEndGroup .prepareRecv scene.result.rowCount
        described.result = true := by
      simp [canEndGroup, hselect]
    rw [@receiveLoop_silent caps .prepareRecv scene.result.rowCount behind
      ending described hcontinue hbehind]
    obtain ⟨-, hresult, hleft⟩ :=
      @receiveLoop_ending caps .prepareRecv scene.result.rowCount described
        ending hending hcontinue hcan
    rcases hresult with hresult | ⟨payload, hresult⟩
    · rw [hresult]
      exact ⟨hrows, hselect, hleft⟩
    · rw [hresult]
      exact ⟨hrows, hselect, hleft⟩

end Libsqli.Receive
