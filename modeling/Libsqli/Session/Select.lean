import Libsqli.Receive.Batches
import Libsqli.Session.Query

namespace Libsqli.Session

open Libsqli.Data.Program
open Libsqli.Receive

/-! A server that holds a result, and what a client knows that deals with it. -/

def Request.controls : Request → Bool
  | .begin | .bind _ | .close _ | .release _ => true
  | _ => false

/-- How the server answers a request while some rows are left to be fetched, and
the rows that are left then. -/
inductive Answers (rows : List (List UInt8)) :
    List (List UInt8) → Request → List Message → List (List UInt8) → Prop where
  | prepare {left : List (List UInt8)} {sql : List UInt8}
      {reply : List Message} (hreply : Describes reply) :
      Answers rows left (.prepare sql) reply left
  | opened {left : List (List UInt8)} {stmtId : Int} {reply : List Message}
      (hreply : Acknowledges reply) : Answers rows left (.open stmtId) reply rows
  | batch {batch left : List (List UInt8)} {stmtId : Int}
      {reply : List Message} (hbatch : batch ≠ [])
      (hreply : Brings batch reply) :
      Answers rows (batch ++ left) (.fetch stmtId) reply left
  | finish {stmtId : Int} {reply : List Message} (hreply : Finishes reply) :
      Answers rows [] (.fetch stmtId) reply []
  | control {left : List (List UInt8)} {wanted : Request}
      {reply : List Message} (hwanted : wanted.controls = true)
      (hreply : Acknowledges reply) : Answers rows left wanted reply left

/-- What the server has been asked, each request with its answer. -/
inductive Serves (rows : List (List UInt8)) :
    List (Request × List Message) → List (List UInt8) → Prop where
  | start : Serves rows [] []
  | answer {made : List (Request × List Message)}
      {left next : List (List UInt8)} {wanted : Request}
      {reply : List Message} (hmade : Serves rows made left)
      (hanswer : Answers rows left wanted reply next) :
      Serves rows (made ++ [(wanted, reply)]) next

/-- A condition that holds of the client if it has dealt with such a server since
it had `asked`. -/
def Knows (rows : List (List UInt8)) (asked : List (Request × List Message))
    (condition : List (List UInt8) → Client → Prop) (client : Client) : Prop :=
  ∃ made, client.asked = asked ++ made ∧
    ∀ left, Serves rows made left → condition left client

variable {rows : List (List UInt8)} {asked : List (Request × List Message)}
  {pre post fails : List (List UInt8) → Client → Prop} {caps : Capabilities}

theorem Serves.last {made : List (Request × List Message)}
    {next : List (List UInt8)} {wanted : Request} {reply : List Message}
    (hserves : Serves rows (made ++ [(wanted, reply)]) next) :
    ∃ left, Serves rows made left ∧ Answers rows left wanted reply next := by
  generalize hall : made ++ [(wanted, reply)] = all at hserves
  cases hserves with
  | start => exact absurd hall (by simp)
  | answer hmade hanswer =>
      obtain ⟨rfl, hlast⟩ := List.append_inj' hall rfl
      cases hlast
      exact ⟨_, hmade, hanswer⟩

/-- Programs that ask nothing. -/
theorem holds_of_quiet {program : Exchange α}
    (hquiet : ∀ client, (stateOf (program client)).asked = client.asked)
    (hrun : ∀ left client, pre left client → match program client with
      | .ok _ after => post left after
      | .error _ after => fails left after) :
    Holds (Knows rows asked pre) program (fun _ => Knows rows asked post)
      fun _ => Knows rows asked fails := by
  rintro client ⟨made, hasked, hknown⟩
  have hsame := hquiet client
  have hafter := fun left hserves => hrun left client (hknown left hserves)
  cases hprogram : program client with
  | ok value after =>
      rw [hprogram] at hsame hafter
      exact ⟨made, hsame.trans hasked, hafter⟩
  | error status after =>
      rw [hprogram] at hsame hafter
      exact ⟨made, hsame.trans hasked, hafter⟩

theorem holds_of_update {change : Client → Client}
    (hquiet : ∀ client, (change client).asked = client.asked)
    (hrun : ∀ left client, pre left client → post left (change client)) :
    Holds (Knows rows asked pre) (update change)
      (fun _ => Knows rows asked post) fun _ => Knows rows asked fails :=
  holds_of_quiet hquiet hrun

theorem holds_of_check {status : Client → Status} :
    Holds (Knows rows asked pre) (check status)
      (fun _ => Knows rows asked pre) fun _ => Knows rows asked pre := by
  refine holds_of_quiet (fun client => ?_) fun left client hpre => ?_
  · unfold check
    split <;> rfl
  · unfold check
    by_cases hok : status client = .ok
    · rw [if_pos hok]
      exact hpre
    · rw [if_neg hok]
      exact hpre

theorem holds_of_request {wanted : Request}
    (hanswer : ∀ left next client, pre left client →
      Answers rows left wanted (client.answers.headD []) next →
      post next (client.answered wanted))
    (hfails : ∀ left client, pre left client → fails left
      { client.spent with scene := client.scene.withDiagnostic .local }) :
    Holds (Knows rows asked pre) (request wanted)
      (fun _ => Knows rows asked post) fun _ => Knows rows asked fails := by
  rintro client ⟨made, hasked, hknown⟩
  unfold request
  have hfailed : Knows rows asked fails
      { client.spent with scene := client.scene.withDiagnostic .local } :=
    ⟨made, hasked, fun left hserves => hfails left client (hknown left hserves)⟩
  split
  · next hrun =>
    split at hrun
    · cases hrun
      refine ⟨made ++ [(wanted, client.answers.headD [])], ?_, ?_⟩
      · change client.asked ++ _ = _
        rw [hasked, List.append_assoc]
      · intro next hserves
        obtain ⟨left, hmade, hlast⟩ := hserves.last
        exact hanswer left next client (hknown left hmade) hlast
    · cases hrun
  · next hrun =>
    split at hrun
    · cases hrun
    · cases hrun
      exact hfailed

theorem holds_of_attempt {program : Exchange Unit}
    (hprogram : Holds (Knows rows asked pre) program
      (fun _ => Knows rows asked post) fun _ => Knows rows asked post) :
    Holds (Knows rows asked pre) (attempt program)
      (fun _ => Knows rows asked post) fun _ => Knows rows asked fails := by
  intro client hknown
  have hrun := hprogram client hknown
  change Knows rows asked post (stateOf (program client))
  cases hresult : program client with
  | ok value after =>
      rw [hresult] at hrun
      exact hrun
  | error status after =>
      rw [hresult] at hrun
      exact hrun

/-! Requests that are only acknowledged. -/

/-- Between requests: at most stale messages are unread, none if `clean`. -/
def Settled (keep : Result → Prop) (clean : Prop)
    (_ : List (List UInt8)) (client : Client) : Prop :=
  keep client.result ∧ Stale client.incoming ∧
    (clean → client.incoming = [])

/-- With an acknowledgement on its way. -/
def Acknowledged (keep : Result → Prop) (clean : Prop)
    (_ : List (List UInt8)) (client : Client) : Prop :=
  keep client.result ∧ ∃ stale quiet,
    client.incoming = stale ++ (quiet ++ [.eot]) ∧ Stale stale ∧
      (∀ message ∈ quiet, message.silent = true) ∧ (clean → stale = [])

variable {keep : Result → Prop} {clean : Prop}

theorem controls_acknowledged {wanted : Request}
    (hwanted : wanted.controls = true) {left next : List (List UInt8)}
    {reply : List Message} (hanswer : Answers rows left wanted reply next) :
    Acknowledges reply := by
  cases hanswer with
  | control hcontrols hreply => exact hreply
  | _ => cases hwanted

theorem request_acknowledged {wanted : Request}
    (hwanted : wanted.controls = true) :
    Holds (Knows rows asked (Settled keep clean)) (request wanted)
      (fun _ => Knows rows asked (Acknowledged keep clean))
      fun _ => Knows rows asked (Settled keep clean) := by
  refine holds_of_request (fun left next client hsettled hanswer => ?_)
    fun left client hsettled => hsettled
  obtain ⟨hkeep, hstale, hclean⟩ := hsettled
  obtain ⟨quiet, hreply, hquiet⟩ := controls_acknowledged hwanted hanswer
  refine ⟨hkeep, client.incoming, quiet, ?_, hstale, hquiet, hclean⟩
  rw [← hreply]
  rfl

/-- What a reception into any result leaves of an acknowledgement. -/
theorem acknowledged_received {left : List (List UInt8)} {client : Client}
    (hclient : Acknowledged keep clean left client) {result : Result}
    (hopen : result.eof = false) :
    let reception := receiveDispatch caps .otherRecv client.incoming
      (client.scene.withResult result)
    reception.status = .ok ∧ reception.scene.result = endGroup result ∧
      Stale reception.messages ∧ (clean → reception.messages = []) := by
  obtain ⟨-, stale, quiet, hincoming, hstale, hquiet, hclean⟩ := hclient
  dsimp only
  rw [hincoming, ← List.append_assoc]
  have hall : Stale (stale ++ quiet) :=
    hstale.append (stale_of_silent hquiet)
  obtain ⟨hstatus, hresult⟩ :=
    @receiveLoop_acknowledged caps result.rowCount (stale ++ quiet)
      (client.scene.withResult result) hopen hall
  refine ⟨hstatus, hresult, ?_, fun hc => ?_⟩
  · exact (hall.append stale_eot).suffix (receiveLoop_suffix _ _)
  · rw [hclean hc, List.nil_append]
    exact receiveLoop_acknowledgement hopen hquiet

/-- Where a reception into a throw-away result leaves the client. -/
def Client.heard (client : Client) (reception : Reception) : Client :=
  { (client.after reception).withResult client.result with
    taken := client.taken }

theorem asideReceive_apply (context : Context) (client : Client) :
    aside (receive caps context) client =
      if (receiveDispatch caps context client.incoming
          (client.scene.withResult blankResult)).status = .ok then
        .ok () (client.heard (receiveDispatch caps context client.incoming
          (client.scene.withResult blankResult)))
      else .error (receiveDispatch caps context client.incoming
          (client.scene.withResult blankResult)).status
        (client.heard (receiveDispatch caps context client.incoming
          (client.scene.withResult blankResult))) := by
  let blank := (client.withResult blankResult).took (takenBy caps context
    blankResult.rowCount client.incoming (client.scene.withResult blankResult))
  have hreceive : receive caps context (client.withResult blankResult) =
      if (receiveDispatch caps context client.incoming
          (client.scene.withResult blankResult)).status = .ok then
        .ok () (blank.after (receiveDispatch caps context client.incoming
          (client.scene.withResult blankResult)))
      else .error (receiveDispatch caps context client.incoming
          (client.scene.withResult blankResult)).status
        (blank.after (receiveDispatch caps context client.incoming
          (client.scene.withResult blankResult))) := rfl
  unfold aside
  rw [hreceive]
  by_cases hok : (receiveDispatch caps context client.incoming
      (client.scene.withResult blankResult)).status = .ok
  · rw [if_pos hok, if_pos hok]
    rfl
  · rw [if_neg hok, if_neg hok]
    rfl

theorem asideReceive_settled :
    Holds (Knows rows asked (Acknowledged keep clean))
      (aside (receive caps .otherRecv))
      (fun _ => Knows rows asked (Settled keep clean))
      fun _ => Knows rows asked (Settled keep clean) := by
  refine holds_of_quiet (fun client => ?_) fun left client hclient => ?_
  · rw [asideReceive_apply]
    split <;> rfl
  · obtain ⟨hstatus, -, hstale, hclean⟩ :=
      @acknowledged_received caps keep clean left client hclient blankResult rfl
    rw [asideReceive_apply, if_pos hstatus]
    exact ⟨hclient.1, hstale, hclean⟩

theorem drainTail_settled :
    Holds (Knows rows asked (Settled keep clean)) (drainTail caps)
      (fun _ => Knows rows asked (Settled keep clean))
      fun _ => Knows rows asked (Settled keep clean) := by
  have happly (client : Client) : drainTail caps client =
      if (drainExtra caps extraGroups client.incoming
          (client.scene.withResult blankResult)).status = .ok then
        .ok () (client.heard (drainExtra caps extraGroups client.incoming
          (client.scene.withResult blankResult)))
      else .error (drainExtra caps extraGroups client.incoming
          (client.scene.withResult blankResult)).status
        (client.heard (drainExtra caps extraGroups client.incoming
          (client.scene.withResult blankResult))) := by
    unfold drainTail aside ofReception
    by_cases hok : (drainExtra caps extraGroups client.incoming
        (client.scene.withResult blankResult)).status = .ok
    · have hblank : (drainExtra caps extraGroups
          (client.withResult blankResult).incoming
          (client.withResult blankResult).scene).status = .ok := hok
      rw [if_pos hblank, if_pos hok]
      rfl
    · have hblank : ¬ (drainExtra caps extraGroups
          (client.withResult blankResult).incoming
          (client.withResult blankResult).scene).status = .ok := hok
      rw [if_neg hblank, if_neg hok]
      rfl
  have hsettled (left : List (List UInt8)) (client : Client)
      (hclient : Settled keep clean left client) : Settled keep clean left
        (client.heard (drainExtra caps extraGroups client.incoming
          (client.scene.withResult blankResult))) := by
    obtain ⟨hkeep, hstale, hclean⟩ := hclient
    have hsuffix := @drainExtra_suffix caps extraGroups client.incoming
      (client.scene.withResult blankResult)
    refine ⟨hkeep, hstale.suffix hsuffix, fun hc => ?_⟩
    rw [hclean hc] at hsuffix
    change (drainExtra _ _ _ _).messages = []
    rw [hclean hc]
    exact List.suffix_nil.mp hsuffix
  refine holds_of_quiet (fun client => ?_) fun left client hclient => ?_
  · rw [happly]
    split <;> rfl
  · rw [happly]
    have hafter := hsettled left client hclient
    by_cases hok : (drainExtra caps extraGroups client.incoming
        (client.scene.withResult blankResult)).status = .ok
    · rw [if_pos hok]
      exact hafter
    · rw [if_neg hok]
      exact hafter

theorem stmtControl_settled {wanted : Request}
    (hwanted : wanted.controls = true) :
    Holds (Knows rows asked (Settled keep clean)) (stmtControl caps wanted)
      (fun _ => Knows rows asked (Settled keep clean))
      fun _ => Knows rows asked (Settled keep clean) :=
  (request_acknowledged hwanted).bind fun _ =>
    asideReceive_settled.bind fun _ => holds_of_attempt drainTail_settled

theorem closeRelease_settled (stmtId : Int) :
    Holds (Knows rows asked (Settled keep clean)) (closeRelease caps stmtId)
      (fun _ => Knows rows asked (Settled keep clean))
      fun _ => Knows rows asked (Settled keep clean) :=
  (holds_of_attempt (stmtControl_settled rfl)).bind fun _ =>
    holds_of_attempt (stmtControl_settled rfl)

theorem check_fails {status : Client → Status} {client : Client}
    {failed : Status} (hstatus : status client = failed)
    (hfailed : failed ≠ .ok) : check status client = .error failed client := by
  subst hstatus
  exact if_neg hfailed

theorem drainTxnResponse_apply (client : Client) :
    drainTxnResponse caps client =
      if (receiveDispatch caps .otherRecv client.incoming
          (client.scene.withResult blankResult)).status = .ok then
        if (receiveDispatch caps .otherRecv client.incoming
            (client.scene.withResult blankResult)).scene.result.sawError then
          .error .protoError (client.heard (receiveDispatch caps .otherRecv
            client.incoming (client.scene.withResult blankResult)))
        else .ok () (client.heard (receiveDispatch caps .otherRecv
          client.incoming (client.scene.withResult blankResult)))
      else .error (receiveDispatch caps .otherRecv client.incoming
          (client.scene.withResult blankResult)).status
        (client.heard (receiveDispatch caps .otherRecv client.incoming
          (client.scene.withResult blankResult))) := by
  let blank := (client.withResult blankResult).took (takenBy caps .otherRecv
    blankResult.rowCount client.incoming (client.scene.withResult blankResult))
  have hreceive : receive caps .otherRecv (client.withResult blankResult) =
      if (receiveDispatch caps .otherRecv client.incoming
          (client.scene.withResult blankResult)).status = .ok then
        .ok () (blank.after (receiveDispatch caps .otherRecv client.incoming
          (client.scene.withResult blankResult)))
      else .error (receiveDispatch caps .otherRecv client.incoming
          (client.scene.withResult blankResult)).status
        (blank.after (receiveDispatch caps .otherRecv client.incoming
          (client.scene.withResult blankResult))) := rfl
  unfold drainTxnResponse aside
  rw [bind_apply, hreceive]
  by_cases hok : (receiveDispatch caps .otherRecv client.incoming
      (client.scene.withResult blankResult)).status = .ok
  · rw [if_pos hok, if_pos hok]
    by_cases herror : (receiveDispatch caps .otherRecv client.incoming
        (client.scene.withResult blankResult)).scene.result.sawError = true
    · have hchecked : check (fun client =>
          if client.result.sawError then Status.protoError else .ok)
          (blank.after (receiveDispatch caps .otherRecv client.incoming
            (client.scene.withResult blankResult))) =
          .error .protoError (blank.after (receiveDispatch caps .otherRecv
            client.incoming (client.scene.withResult blankResult))) :=
        check_fails (if_pos herror) nofun
      rw [if_pos herror]
      dsimp only
      rw [hchecked]
      rfl
    · have hchecked : check (fun client =>
          if client.result.sawError then Status.protoError else .ok)
          (blank.after (receiveDispatch caps .otherRecv client.incoming
            (client.scene.withResult blankResult))) =
          .ok () (blank.after (receiveDispatch caps .otherRecv
            client.incoming (client.scene.withResult blankResult))) :=
        if_pos (if_neg herror)
      rw [if_neg herror]
      dsimp only
      rw [hchecked]
      rfl
  · rw [if_neg hok, if_neg hok]
    rfl

theorem drainTxnResponse_settled :
    Holds (Knows rows asked (Acknowledged keep clean)) (drainTxnResponse caps)
      (fun _ => Knows rows asked (Settled keep clean))
      fun _ => Knows rows asked (Settled keep clean) := by
  refine holds_of_quiet (fun client => ?_) fun left client hclient => ?_
  · rw [drainTxnResponse_apply]
    split
    · split <;> rfl
    · rfl
  · obtain ⟨hstatus, hresult, hstale, hclean⟩ :=
      @acknowledged_received caps keep clean left client hclient blankResult rfl
    have herror : ¬ (receiveDispatch caps .otherRecv client.incoming
        (client.scene.withResult blankResult)).scene.result.sawError = true := by
      rw [hresult]
      nofun
    rw [drainTxnResponse_apply, if_pos hstatus, if_neg herror]
    exact ⟨hclient.1, hstale, hclean⟩

theorem begin_settled :
    Holds (Knows rows asked (Settled keep clean)) (begin caps)
      (fun _ => Knows rows asked (Settled keep clean))
      fun _ => Knows rows asked (Settled keep clean) :=
  holds_of_check.bind fun _ => holds_of_check.bind fun _ =>
    (request_acknowledged rfl).bind fun _ =>
      drainTxnResponse_settled.bind fun _ =>
        holds_of_update (fun _ => rfl) fun _ _ hsettled => hsettled

theorem autobegin_settled :
    Holds (Knows rows asked (Settled keep clean)) (autobegin caps)
      (fun _ => Knows rows asked (Settled keep clean))
      fun _ => Knows rows asked (Settled keep clean) := by
  intro client hknown
  have hbegin := @begin_settled rows asked caps keep clean client hknown
  unfold autobegin
  by_cases hactive : client.txn.autocommit = true ∨
      client.txn.inTransaction = true
  · rw [if_pos hactive]
    exact hknown
  · rw [if_neg hactive]
    by_cases haccess : Txn.accessesData client.result.statementType = true
    · rw [if_pos haccess]
      exact hbegin
    · rw [if_neg haccess]
      exact hknown

theorem setCursor_settled (isOpen : Bool) :
    Holds (Knows rows asked (Settled keep clean)) (setCursor isOpen)
      (fun _ => Knows rows asked (Settled keep clean))
      fun _ => Knows rows asked (Settled keep clean) :=
  holds_of_update (fun _ => rfl) fun _ _ hsettled => hsettled

/-- A request whose answer is not read leaves it stale. -/
theorem attemptRequest_settled {wanted : Request}
    (hwanted : wanted.controls = true) :
    Holds (Knows rows asked (Settled keep False)) (attempt (request wanted))
      (fun _ => Knows rows asked (Settled keep False))
      fun _ => Knows rows asked (Settled keep False) := by
  refine holds_of_attempt (holds_of_request
    (fun left next client hsettled hanswer => ?_)
    fun left client hsettled => hsettled)
  refine ⟨hsettled.1, ?_, False.elim⟩
  exact hsettled.2.1.append (controls_acknowledged hwanted hanswer).stale

theorem closeCursorIfOpen_settled (handle : Handle) :
    Holds (Knows rows asked (Settled keep False))
      (closeCursorIfOpen caps handle)
      (fun _ => Knows rows asked (Settled keep False))
      fun _ => Knows rows asked (Settled keep False) := by
  have hclose := (@stmtControl_settled rows asked caps keep False
    (.close handle.stmtId) rfl).bind fun _ =>
      @setCursor_settled rows asked keep False false
  have hset := @setCursor_settled rows asked keep False false
  have hbest : Holds (Knows rows asked (Settled keep False))
      (bestEffortControl handle (.close handle.stmtId))
      (fun _ => Knows rows asked (Settled keep False))
      fun _ => Knows rows asked (Settled keep False) := by
    unfold bestEffortControl
    refine Holds.branch (fun client hclient => hclient.1) ?_
    intro client hclient
    exact @attemptRequest_settled rows asked keep (.close handle.stmtId) rfl
      client hclient.1
  intro client hknown
  unfold closeCursorIfOpen
  by_cases hclosed : client.cursorOpen = false
  · rw [if_pos hclosed]
    exact hknown
  rw [if_neg hclosed]
  by_cases hlost : client.cursorLost = true
  · rw [if_pos hlost]
    exact hset client hknown
  rw [if_neg hlost]
  by_cases hready : 0 < client.txn.socketFd ∧ client.txn.state = .ready ∧
      0 ≤ handle.stmtId ∧ client.txn.lifecycle.discarded = false
  · rw [if_pos hready]
    exact hclose client hknown
  rw [if_neg hready]
  by_cases hcached : 0 < handle.socketFd ∧ 0 ≤ handle.stmtId
  · rw [if_pos hcached]
    exact (hbest.bind fun _ => hset) client hknown
  · rw [if_neg hcached]
    exact hset client hknown

theorem bindIfNeeded_settled (handle : Handle) :
    Holds (Knows rows asked (Settled keep clean)) (bindIfNeeded caps handle)
      (fun _ => Knows rows asked (Settled keep clean))
      fun _ => Knows rows asked (Settled keep clean) := by
  unfold bindIfNeeded
  refine Holds.ite (fun _ => ?_) fun _ => Holds.pure fun _ hknown => hknown
  exact (request_acknowledged rfl).bind fun _ => asideReceive_settled

/-! The fetch loop. -/

/-- An answer to an NFETCH is on its way, perhaps behind stale messages. -/
def FetchPending (rows left : List (List UInt8)) (client : Client) : Prop :=
  client.result.eof = false ∧ ∃ stale reply,
    client.incoming = stale ++ reply ∧ Stale stale ∧
      ((∃ batch, batch ≠ [] ∧ Brings batch reply ∧
          client.result.rows.val ++ (batch ++ left) = rows) ∨
        Finishes reply ∧ left = [] ∧ client.result.rows.val = rows)

/-- The rows that the server has sent have all been received. -/
def FetchDone (rows left : List (List UInt8)) (client : Client) : Prop :=
  client.result.rows.val ++ left = rows ∧ Stale client.incoming

theorem fetchPending_answered {left next : List (List UInt8)}
    {client : Client} {stmtId : Int} (hdone : FetchDone rows left client)
    (hopen : client.result.eof = false)
    (hanswer : Answers rows left (.fetch stmtId) (client.answers.headD [])
      next) :
    FetchPending rows next (client.answered (.fetch stmtId)) := by
  obtain ⟨hrows, hstale⟩ := hdone
  refine ⟨hopen, client.incoming, client.answers.headD [], rfl, hstale, ?_⟩
  cases hanswer with
  | batch hbatch hreply => exact .inl ⟨_, hbatch, hreply, hrows⟩
  | finish hreply =>
      exact .inr ⟨hreply, rfl, (List.append_nil _).symm.trans hrows⟩
  | control hwanted hreply => cases hwanted

theorem nextFetch_pending (stmtId : Int) :
    Holds (Knows rows asked (FetchDone rows)) (nextFetch stmtId)
      (fun _ => Knows rows asked (FetchPending rows))
      fun _ => Knows rows asked fun _ _ => True := by
  have hcleared : Holds (Knows rows asked (FetchDone rows))
      (updateResult clearEof)
      (fun _ => Knows rows asked fun left client =>
        FetchDone rows left client ∧ client.result.eof = false)
      fun _ => Knows rows asked fun _ _ => True :=
    holds_of_update (fun _ => rfl) fun _ _ hdone => ⟨hdone, rfl⟩
  refine hcleared.bind fun _ => holds_of_request
    (fun left next client hclient hanswer => ?_) fun _ _ _ => trivial
  exact fetchPending_answered hclient.1 hclient.2 hanswer

theorem fetchRound_ok {client after : Client}
    (hround : fetchRound caps client = .ok () after) :
    let reception := receiveDispatch caps .fetchRecv client.incoming
      (client.scene.withResult (clearFlags client.result))
    reception.status = .ok ∧ after.incoming = reception.messages ∧
      after.scene = reception.scene ∧ after.asked = client.asked := by
  change (if (receiveDispatch caps .fetchRecv client.incoming
      (client.scene.withResult (clearFlags client.result))).status = .ok then
    _ else _) = _ at hround
  split at hround
  · next hok =>
    cases hround
    exact ⟨hok, rfl, rfl, rfl⟩
  · cases hround

theorem fetchRound_pending {left : List (List UInt8)} {client after : Client}
    (hpending : FetchPending rows left client)
    (hround : fetchRound caps client = .ok () after) :
    Stale after.incoming ∧
      (client.rowCount < after.rowCount ∧
          after.result.rows.val ++ left = rows ∨
        after.rowCount = client.rowCount ∧ after.result.rows.val = rows ∧
          (after.incoming = [] ↔
            TrailArrived client.incoming client.scene.looks)) := by
  obtain ⟨hok, hincoming, hscene, -⟩ := fetchRound_ok hround
  obtain ⟨hopen, stale, reply, hmessages, hstale, hreply⟩ := hpending
  unfold Client.rowCount Client.result
  rw [hincoming, hscene]
  rw [hmessages] at hok ⊢
  rcases hreply with ⟨batch, hbatch, hbrings, hrows⟩ | ⟨hfinishes, -, hrows⟩
  · obtain ⟨hgrown, hleft⟩ := receiveDispatch_brings hbrings hbatch hstale
      (show (client.scene.withResult
        (clearFlags client.result)).result.eof = false from hopen) rfl hok
    refine ⟨hleft, .inl ⟨?_, ?_⟩⟩
    · unfold Result.rowCount
      rw [hgrown, List.length_append]
      have := List.length_pos_iff.mpr hbatch
      change (client.scene.result.rows.val.length : Int) <
        (client.scene.result.rows.val.length + batch.length : Nat)
      omega
    · rw [hgrown, List.append_assoc]
      exact hrows
  · obtain ⟨hsame, hleft, hempty⟩ := @receiveDispatch_finishes caps stale
      (client.scene.withResult (clearFlags client.result)) reply hfinishes
      hstale hopen rfl
    refine ⟨hleft, .inr ⟨?_, ?_, hempty⟩⟩
    · unfold Result.rowCount
      rw [hsame]
      rfl
    · rw [hsame]
      exact hrows

/-- The state in which a run of the loop receives for the last time. -/
inductive LastFetch (caps : Capabilities) (stmtId : Int) :
    Client → Client → Prop where
  | last {client after : Client}
      (hround : fetchRound caps client = .ok () after)
      (hsame : after.rowCount ≤ client.rowCount) :
      LastFetch caps stmtId client client
  | next {client after behind before : Client}
      (hround : fetchRound caps client = .ok () after)
      (hgrown : client.rowCount < after.rowCount)
      (hnext : nextFetch stmtId after = .ok () behind)
      (hrest : LastFetch caps stmtId behind before) :
      LastFetch caps stmtId client before

theorem lastFetch_exists {stmtId : Int} {client after : Client}
    (hloop : fetchLoop caps stmtId client = .ok () after) :
    ∃ before, LastFetch caps stmtId client before := by
  induction hroom : client.room using Nat.strong_induction_on
    generalizing client with
  | _ room ih =>
      rw [fetchLoop_apply] at hloop
      cases hround : fetchRound caps client with
      | error status middle =>
          rw [hround] at hloop
          cases hloop
      | ok value middle =>
          rw [hround] at hloop
          dsimp only at hloop
          by_cases hgrown : middle.rowCount ≤ client.rowCount
          · exact ⟨client, .last hround hgrown⟩
          · rw [if_neg hgrown] at hloop
            obtain ⟨⟨⟩, behind, hnext, hrest⟩ := bind_eq_ok.mp hloop
            obtain ⟨before, hlast⟩ := ih behind.room
              (hroom ▸ nextFetch_room hgrown hnext) hrest rfl
            exact ⟨before, .next hround (Int.not_le.mp hgrown) hnext hlast⟩

/-- All rows are received and nothing but stale messages is unread, nothing at all
exactly if the answer to the last NFETCH had arrived. -/
def Complete (rows : List (List UInt8)) (caps : Capabilities) (stmtId : Int)
    (start : Client) (_ : List (List UInt8)) (client : Client) : Prop :=
  client.result.rows.val = rows ∧ Stale client.incoming ∧
    ∀ before, LastFetch caps stmtId start before → (client.incoming = [] ↔
      TrailArrived before.incoming before.scene.looks)

theorem fetchLoop_complete {stmtId : Int} {client after : Client}
    (hpending : Knows rows asked (FetchPending rows) client)
    (hloop : fetchLoop caps stmtId client = .ok () after) :
    Knows rows asked (Complete rows caps stmtId client) after := by
  induction hroom : client.room using Nat.strong_induction_on
    generalizing client with
  | _ room ih =>
      rw [fetchLoop_apply] at hloop
      cases hround : fetchRound caps client with
      | error status middle =>
          rw [hround] at hloop
          cases hloop
      | ok value middle =>
          rw [hround] at hloop
          dsimp only at hloop
          obtain ⟨made, hasked, hknown⟩ := hpending
          have hsame := (fetchRound_ok hround).2.2.2
          by_cases hgrown : middle.rowCount ≤ client.rowCount
          · rw [if_pos hgrown] at hloop
            cases hloop
            refine ⟨made, hsame.trans hasked, fun left hserves => ?_⟩
            obtain ⟨hstale, hmore | ⟨-, hrows, hempty⟩⟩ :=
              fetchRound_pending (hknown left hserves) hround
            · omega
            · refine ⟨hrows, hstale, fun before hlast => ?_⟩
              cases hlast with
              | last hagain hsame => exact hempty
              | next hagain hmore hnext hrest =>
                  rw [hround] at hagain
                  cases hagain
                  omega
          · rw [if_neg hgrown, bind_apply] at hloop
            have hdone : Knows rows asked (FetchDone rows) middle := by
              refine ⟨made, hsame.trans hasked, fun left hserves => ?_⟩
              obtain ⟨hstale, ⟨-, hrows⟩ | ⟨hcount, -⟩⟩ :=
                fetchRound_pending (hknown left hserves) hround
              · exact ⟨hrows, hstale⟩
              · omega
            have hfetched := @nextFetch_pending rows asked stmtId middle hdone
            cases hnext : nextFetch stmtId middle with
            | error status behind =>
                rw [hnext] at hloop
                cases hloop
            | ok value behind =>
                rw [hnext] at hloop hfetched
                obtain ⟨made, hasked, hcomplete⟩ := ih behind.room
                  (hroom ▸ nextFetch_room hgrown hnext) hfetched hloop rfl
                refine ⟨made, hasked, fun left hserves => ?_⟩
                obtain ⟨hrows, hstale, hempty⟩ := hcomplete left hserves
                refine ⟨hrows, hstale, fun before hlast => ?_⟩
                cases hlast with
                | last hagain hsame =>
                    rw [hround] at hagain
                    cases hagain
                    exact absurd hsame hgrown
                | next hagain hmore hagainNext hrest =>
                    rw [hround] at hagain
                    cases hagain
                    rw [hnext] at hagainNext
                    cases hagainNext
                    exact hempty before hrest

end Libsqli.Session
