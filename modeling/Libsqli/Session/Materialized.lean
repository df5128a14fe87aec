import Libsqli.Session.Reexecution
import Libsqli.Session.Select

namespace Libsqli.Session

open Libsqli.Data.Program
open Libsqli.Receive

/-! A SELECT is received whole. -/

variable {rows : List (List UInt8)} {asked : List (Request × List Message)}
  {pre post weaker fails : List (List UInt8) → Client → Prop}
  {caps : Capabilities} {choice : CursorChoice} {sql : List UInt8}

theorem Knows.mono {client : Client} (hknown : Knows rows asked pre client)
    (hweaker : ∀ left, pre left client → weaker left client) :
    Knows rows asked weaker client := by
  obtain ⟨made, hasked, hpre⟩ := hknown
  exact ⟨made, hasked, fun left hserves => hweaker left (hpre left hserves)⟩

/-- Nothing further is said of a run that stops. -/
abbrev Stops (rows : List (List UInt8))
    (asked : List (Request × List Message)) (_ : Status) : Client → Prop :=
  Knows rows asked fun _ _ => True

theorem holds_weakly {program : Exchange α}
    {result : α → Client → Prop}
    (hprogram : Holds (Knows rows asked pre) program result
      fun _ => Knows rows asked fails) :
    Holds (Knows rows asked pre) program result (Stops rows asked) :=
  hprogram.mono (fun _ hpre => hpre) (fun _ _ hpost => hpost)
    fun _ _ hfails => hfails.mono fun _ _ => trivial

/-! `sqli_query_ex` up to its fetch loop. -/

def queryPrepared (caps : Capabilities) (choice : CursorChoice)
    (sql : List UInt8) : Exchange Unit := do
  checkReady
  newResult choice
  request (.prepare sql)
  updateResult clearFlags
  receive caps .prepareRecv
  autobegin caps
  checkPrepared

theorem queryEx_ok {client after : Client}
    (hquery : queryEx caps choice sql client = .ok () after) :
    ∃ prepared, queryPrepared caps choice sql client = .ok () prepared ∧
      runQuery caps choice prepared.result.stmtId prepared = .ok () after := by
  unfold queryEx at hquery
  obtain ⟨⟨⟩, ready, hready, hquery⟩ := bind_eq_ok.mp hquery
  obtain ⟨⟨⟩, fresh, hfresh, hquery⟩ := bind_eq_ok.mp hquery
  obtain ⟨⟨⟩, sent, hsent, hquery⟩ := bind_eq_ok.mp hquery
  have hanswer : answerQuery caps choice sent = .ok () after := by
    unfold onError at hquery
    split at hquery
    · next hrun =>
      cases hquery
      exact hrun
    · cases hquery
  unfold answerQuery at hanswer
  obtain ⟨⟨⟩, cleared, hcleared, hanswer⟩ := bind_eq_ok.mp hanswer
  obtain ⟨⟨⟩, received, hreceived, hanswer⟩ := bind_eq_ok.mp hanswer
  obtain ⟨⟨⟩, begun, hbegun, hanswer⟩ := bind_eq_ok.mp hanswer
  obtain ⟨⟨⟩, prepared, hprepared, hrun⟩ := bind_eq_ok.mp hanswer
  refine ⟨prepared, ?_, hrun⟩
  unfold queryPrepared
  exact bind_eq_ok.mpr ⟨(), ready, hready, bind_eq_ok.mpr ⟨(), fresh, hfresh,
    bind_eq_ok.mpr ⟨(), sent, hsent, bind_eq_ok.mpr ⟨(), cleared, hcleared,
      bind_eq_ok.mpr ⟨(), received, hreceived, bind_eq_ok.mpr
        ⟨(), begun, hbegun, hprepared⟩⟩⟩⟩⟩⟩

/-- Nothing is known of the statement yet. -/
def Fresh (_ : List (List UInt8)) (client : Client) : Prop :=
  client.result.rows.val = [] ∧ client.result.eof = false ∧
    canEndGroup .prepareRecv client.result.rowCount client.result = false ∧
    Stale client.incoming

/-- A description of a SELECT is on its way. -/
def DescribePending (_ : List (List UInt8)) (client : Client) : Prop :=
  client.result.rows.val = [] ∧ client.result.eof = false ∧
    canEndGroup .prepareRecv client.result.rowCount client.result = false ∧
    ∃ stale reply, client.incoming = stale ++ reply ∧ Stale stale ∧
      Describes reply

def EmptySelect (result : Result) : Prop :=
  result.rows.val = [] ∧ result.statementType = 2

def OpenSelect (result : Result) : Prop :=
  EmptySelect result ∧ result.eof = false

theorem newResult_fresh :
    Holds (Knows rows asked fun _ client => Stale client.incoming)
      (newResult choice) (fun _ => Knows rows asked Fresh)
      (Stops rows asked) := by
  have hallocate : Holds
      (Knows rows asked fun _ client => Stale client.incoming)
      (allocate fun _ => true)
      (fun _ => Knows rows asked fun _ client => Stale client.incoming)
      (Stops rows asked) := by
    refine holds_of_quiet (fun client => ?_) fun left client hstale => ?_
    · unfold allocate
      rw [if_neg nofun]
      split <;> rfl
    · unfold allocate
      rw [if_neg nofun]
      cases halloc : client.scene.allocs 0 with
      | true => exact hstale
      | false => exact trivial
  exact hallocate.bind fun _ => holds_of_update (fun _ => rfl)
    fun left client hstale => ⟨rfl, rfl, rfl, hstale⟩

theorem request_prepare :
    Holds (Knows rows asked Fresh) (request (.prepare sql))
      (fun _ => Knows rows asked DescribePending) (Stops rows asked) := by
  refine holds_of_request (fun left next client hfresh hanswer => ?_)
    fun _ _ _ => trivial
  obtain ⟨hrows, hopen, hblank, hstale⟩ := hfresh
  refine ⟨hrows, hopen, hblank, client.incoming, client.answers.headD [], rfl,
    hstale, ?_⟩
  cases hanswer with
  | prepare hreply => exact hreply
  | control hwanted hreply => cases hwanted

theorem receive_apply (context : Context) (client : Client) :
    receive caps context client =
      if (receiveDispatch caps context client.incoming client.scene).status =
          .ok then
        .ok () ((client.took (takenBy caps context client.rowCount
          client.incoming client.scene)).after
            (receiveDispatch caps context client.incoming client.scene))
      else .error
        (receiveDispatch caps context client.incoming client.scene).status
        ((client.took (takenBy caps context client.rowCount
          client.incoming client.scene)).after
            (receiveDispatch caps context client.incoming client.scene)) := rfl

theorem receive_describe :
    Holds (Knows rows asked DescribePending) (receive caps .prepareRecv)
      (fun _ => Knows rows asked (Settled EmptySelect False))
      (Stops rows asked) := by
  refine holds_of_quiet (fun client => ?_) fun left client hpending => ?_
  · rw [receive_apply]
    split <;> rfl
  · obtain ⟨hrows, hopen, hblank, stale, reply, hincoming, hstale, hreply⟩ :=
      hpending
    rw [receive_apply]
    by_cases hok : (receiveDispatch caps .prepareRecv client.incoming
        client.scene).status = .ok
    · rw [if_pos hok]
      rw [hincoming] at hok
      obtain ⟨hsame, hselect, hleft⟩ :=
        receiveDispatch_describes hreply hstale hopen hblank hok
      refine ⟨⟨?_, ?_⟩, ?_, False.elim⟩
      · change (receiveDispatch _ _ _ _).scene.result.rows.val = []
        rw [hincoming, hsame]
        exact hrows
      · change (receiveDispatch _ _ _ _).scene.result.statementType = 2
        rw [hincoming]
        exact hselect
      · change Stale (receiveDispatch _ _ _ _).messages
        rw [hincoming]
        exact hleft
    · rw [if_neg hok]
      exact trivial

theorem queryPrepared_settled :
    Holds (Knows rows asked fun _ client => Stale client.incoming)
      (queryPrepared caps choice sql)
      (fun _ => Knows rows asked (Settled OpenSelect False))
      (Stops rows asked) := by
  have hprepared : Holds (Knows rows asked (Settled EmptySelect False))
      checkPrepared
      (fun _ => Knows rows asked (Settled OpenSelect False))
      (Stops rows asked) :=
    (holds_weakly holds_of_check).bind fun _ =>
      holds_of_update (fun _ => rfl) fun _ _ hsettled =>
        ⟨⟨hsettled.1, rfl⟩, hsettled.2⟩
  have hcleared : Holds (Knows rows asked DescribePending)
      (updateResult clearFlags) (fun _ => Knows rows asked DescribePending)
      (Stops rows asked) :=
    holds_of_update (fun _ => rfl) fun _ _ hpending => hpending
  exact (holds_weakly holds_of_check).bind fun _ =>
    newResult_fresh.bind fun _ => request_prepare.bind fun _ =>
      hcleared.bind fun _ => receive_describe.bind fun _ =>
        (holds_weakly autobegin_settled).bind fun _ => hprepared

/-! OPEN and the first NFETCH. -/

/-- The cursor is being opened. -/
def OpenPending (rows left : List (List UInt8)) (client : Client) : Prop :=
  left = rows ∧ Acknowledged OpenSelect False left client

theorem request_open (stmtId : Int) :
    Holds (Knows rows asked (Settled OpenSelect False))
      (request (.open stmtId))
      (fun _ => Knows rows asked (OpenPending rows)) (Stops rows asked) := by
  refine holds_of_request (fun left next client hsettled hanswer => ?_)
    fun _ _ _ => trivial
  obtain ⟨hkeep, hstale, -⟩ := hsettled
  cases hanswer with
  | opened hreply =>
      obtain ⟨quiet, hreply, hquiet⟩ := hreply
      refine ⟨rfl, hkeep, client.incoming, quiet, ?_, hstale, hquiet,
        False.elim⟩
      rw [← hreply]
      rfl
  | control hwanted hreply => cases hwanted

/-- A SELECT whose rows may be fetched. -/
def Opened (rows left : List (List UInt8)) (client : Client) : Prop :=
  FetchDone rows left client ∧ client.result.statementType = 2

theorem receive_open :
    Holds (Knows rows asked (OpenPending rows)) (receive caps .otherRecv)
      (fun _ => Knows rows asked (Opened rows))
      (Stops rows asked) := by
  refine holds_of_quiet (fun client => ?_) fun left client hpending => ?_
  · rw [receive_apply]
    split <;> rfl
  · obtain ⟨hleft, hopening⟩ := hpending
    obtain ⟨hstatus, hresult, hstale, -⟩ := @acknowledged_received caps
      OpenSelect False left client hopening client.result hopening.1.2
    have hscene : client.scene.withResult client.result = client.scene := rfl
    rw [hscene] at hstatus hresult hstale
    rw [receive_apply, if_pos hstatus]
    refine ⟨⟨?_, hstale⟩, ?_⟩
    · change (receiveDispatch _ _ _ _).scene.result.rows.val ++ left = rows
      rw [hresult, hleft]
      change client.result.rows.val ++ rows = rows
      rw [hopening.1.1.1]
      rfl
    · change (receiveDispatch _ _ _ _).scene.result.statementType = 2
      rw [hresult]
      exact hopening.1.1.2

/-- A SELECT with an answer to an NFETCH on its way. -/
def Fetching (rows left : List (List UInt8)) (client : Client) : Prop :=
  FetchPending rows left client ∧ client.result.statementType = 2

theorem nextFetch_fetching (stmtId : Int) :
    Holds (Knows rows asked (Opened rows)) (nextFetch stmtId)
      (fun _ => Knows rows asked (Fetching rows)) (Stops rows asked) := by
  have hcleared : Holds (Knows rows asked (Opened rows))
      (updateResult clearEof)
      (fun _ => Knows rows asked fun left client =>
        Opened rows left client ∧ client.result.eof = false)
      (Stops rows asked) :=
    holds_of_update (fun _ => rfl) fun _ _ hdone => ⟨hdone, rfl⟩
  refine hcleared.bind fun _ => holds_of_request
    (fun left next client hclient hanswer => ?_) fun _ _ _ => trivial
  obtain ⟨⟨hdone, hselect⟩, hopen⟩ := hclient
  exact ⟨fetchPending_answered hdone hopen hanswer, hselect⟩

theorem openQuery_fetching (stmtId : Int) :
    Holds (Knows rows asked (Settled OpenSelect False))
      (openQuery caps stmtId) (fun _ => Knows rows asked (Fetching rows))
      (Stops rows asked) := by
  have hcleared : Holds (Knows rows asked (OpenPending rows))
      (updateResult clearFlags) (fun _ => Knows rows asked (OpenPending rows))
      (Stops rows asked) :=
    holds_of_update (fun _ => rfl) fun _ _ hpending => hpending
  exact (request_open stmtId).bind fun _ => hcleared.bind fun _ =>
    receive_open.bind fun _ => nextFetch_fetching stmtId

/-! Behind the fetch loop. -/

theorem closeQuery_settled {keep : Result → Prop} {clean : Prop}
    (hforget : ∀ result, keep result → keep (forgetStatement result))
    (stmtId : Int) :
    Holds (Knows rows asked (Settled keep clean))
      (closeQuery caps choice stmtId)
      (fun _ => Knows rows asked (Settled keep clean))
      (Stops rows asked) := by
  have hclose : Holds (Knows rows asked (Settled keep clean))
      (do
        closeRelease caps stmtId
        updateResult forgetStatement : Exchange Unit)
      (fun _ => Knows rows asked (Settled keep clean))
      (Stops rows asked) :=
    (holds_weakly (closeRelease_settled stmtId)).bind fun _ =>
      holds_of_update (fun _ => rfl) fun _ _ hsettled =>
        ⟨hforget _ hsettled.1, hsettled.2⟩
  intro client hknown
  unfold closeQuery
  by_cases hplain : hasLobs client.result = false ∧
      choice.cursorType ≠ .scrollInsensitive
  · rw [if_pos hplain]
    exact hclose client hknown
  · rw [if_neg hplain]
    exact hknown

/-! Runs that such a server has no part in. -/

abbrev Impossible (_ : List (List UInt8)) (_ : Client) : Prop := False

theorem receiveQuery_impossible :
    Holds (Knows rows asked Impossible) (receiveQuery caps)
      (fun _ => Knows rows asked Impossible) (Stops rows asked) := by
  refine holds_of_quiet (fun client => ?_) fun _ _ hfalse => hfalse.elim
  unfold receiveQuery
  rw [bind_apply]
  change (stateOf (ofReception _ _)).asked = _
  unfold ofReception
  split <;> rfl

theorem drainTail_impossible :
    Holds (Knows rows asked Impossible) (drainTail caps)
      (fun _ => Knows rows asked Impossible) (Stops rows asked) := by
  intro client hknown
  have hdrained := holds_weakly (@drainTail_settled rows asked caps
    (fun _ => False) False) client (hknown.mono fun _ hfalse => hfalse.elim)
  cases hrun : drainTail caps client with
  | ok value after =>
      rw [hrun] at hdrained
      exact hdrained.mono fun _ hsettled => hsettled.1
  | error status after =>
      rw [hrun] at hdrained
      exact hdrained

theorem request_impossible (wanted : Request) :
    Holds (Knows rows asked Impossible) (request wanted)
      (fun _ => Knows rows asked Impossible) (Stops rows asked) :=
  holds_of_request (fun _ _ _ hfalse _ => hfalse.elim) fun _ _ _ => trivial

theorem track_impossible :
    Holds (Knows rows asked Impossible) track
      (fun _ => Knows rows asked Impossible) (Stops rows asked) :=
  holds_of_update (fun _ => rfl) fun _ _ hfalse => hfalse

theorem finishQuery_impossible {stmtId : Int} {client after : Client}
    (hknown : Knows rows asked Impossible client)
    (hother : ¬ selects client.result = true)
    (hrun : finishQuery caps choice stmtId client = .ok () after) :
    Knows rows asked Impossible after := by
  unfold finishQuery at hrun
  rw [if_neg hother] at hrun
  have hrest : Holds (Knows rows asked Impossible)
      (do
        receiveQuery caps
        drainTail caps
        track : Exchange Unit)
      (fun _ => Knows rows asked Impossible) (Stops rows asked) :=
    receiveQuery_impossible.bind fun _ =>
      drainTail_impossible.bind fun _ => track_impossible
  have hafter := hrest client hknown
  rw [hrun] at hafter
  exact hafter

theorem request_ok {wanted : Request} {client after : Client}
    (hrequest : request wanted client = .ok () after) :
    after = client.answered wanted := by
  unfold request at hrequest
  split at hrequest
  · cases hrequest
    rfl
  · cases hrequest

/-- What is known when a SELECT has been received whole. -/
def Materialized (rows : List (List UInt8)) (lastArrived : Prop)
    (_ : List (List UInt8)) (client : Client) : Prop :=
  client.result.rows.val = rows ∧ (lastArrived → client.incoming = [])

/-- The answer to the last NFETCH of a fetch loop had arrived. -/
def LastArrived (caps : Capabilities) (stmtId : Int) (start : Client) : Prop :=
  ∃ before, LastFetch caps stmtId start before ∧
    TrailArrived before.incoming before.scene.looks

theorem Complete.settled {stmtId : Int} {start client : Client}
    {left : List (List UInt8)}
    (hcomplete : Complete rows caps stmtId start left client) :
    Settled (fun result => result.rows.val = rows)
      (LastArrived caps stmtId start) left client := by
  obtain ⟨hrows, hstale, hempty⟩ := hcomplete
  refine ⟨hrows, hstale, ?_⟩
  rintro ⟨before, hlast, harrived⟩
  exact (hempty before hlast).mpr harrived

theorem runQuery_materialized {stmtId : Int} {prepared after : Client}
    (hprepared : Knows rows asked (Settled OpenSelect False) prepared)
    (hrun : runQuery caps choice stmtId prepared = .ok () after) :
    Knows rows asked (Materialized rows (∃ start,
      openQuery caps stmtId prepared = .ok () start ∧
        LastArrived caps stmtId start)) after := by
  obtain ⟨⟨⟩, start, hstart, hfinish⟩ := bind_eq_ok.mp hrun
  unfold startQuery at hstart
  by_cases hselects : selects prepared.result = true
  · rw [if_pos hselects] at hstart
    have hfetching := @openQuery_fetching rows asked caps stmtId prepared
      hprepared
    rw [hstart] at hfetching
    by_cases hagain : selects start.result = true
    · unfold finishQuery at hfinish
      rw [if_pos hagain] at hfinish
      obtain ⟨⟨⟩, fetched, hloop, hclose⟩ := bind_eq_ok.mp hfinish
      have hcomplete := fetchLoop_complete
        (hfetching.mono fun _ hfetching => hfetching.1) hloop
      have hsettled := @closeQuery_settled rows asked caps choice
        (fun result => result.rows.val = rows) (LastArrived caps stmtId start)
        (fun _ hrows => hrows) stmtId fetched
        (hcomplete.mono fun _ hcomplete => hcomplete.settled)
      rw [hclose] at hsettled
      refine hsettled.mono fun left hsettled => ⟨hsettled.1, ?_⟩
      rintro ⟨other, hother, hlast⟩
      cases hstart.symm.trans hother
      exact hsettled.2.2 hlast
    · have hnone : Knows rows asked Impossible start :=
        hfetching.mono fun left hfetching => hagain (beq_iff_eq.mpr hfetching.2)
      exact (finishQuery_impossible hnone hagain hfinish).mono
        fun _ hfalse => hfalse.elim
  · rw [if_neg hselects] at hstart
    have hnone : Knows rows asked Impossible prepared :=
      hprepared.mono fun left hsettled =>
        hselects (beq_iff_eq.mpr hsettled.1.1.2)
    have hrequest := @request_impossible rows asked (.execute stmtId) prepared
      hnone
    rw [hstart] at hrequest
    have hother : ¬ selects start.result = true := by
      rw [request_ok hstart]
      exact hselects
    exact (finishQuery_impossible hrequest hother hfinish).mono
      fun _ hfalse => hfalse.elim

/-! `sqli_execute` of a prepared SELECT. -/

variable {handle : Handle}

def executeOpens (caps : Capabilities) (choice : CursorChoice)
    (handle : Handle) : Exchange Unit := do
  autobegin caps
  bindIfNeeded caps handle
  prepareForExecute choice handle
  request (.open handle.stmtId)
  setCursor true
  receive caps .otherRecv
  nextFetch handle.stmtId

/-- `sqli_execute` up to its fetch loop. -/
def executeStarts (caps : Capabilities) (choice : CursorChoice)
    (handle : Handle) : Exchange Unit := do
  checkKept
  closeCursorIfOpen caps handle
  executeOpens caps choice handle

def IsSelect (result : Result) : Prop := result.statementType = 2

theorem executeOpens_fetching :
    Holds (Knows rows asked (Settled IsSelect False))
      (executeOpens caps choice handle)
      (fun _ => Knows rows asked (Fetching rows)) (Stops rows asked) := by
  have hprepared : Holds (Knows rows asked (Settled IsSelect False))
      (prepareForExecute choice handle)
      (fun _ => Knows rows asked (Settled OpenSelect False))
      (Stops rows asked) :=
    holds_of_update (fun _ => rfl) fun _ _ hsettled =>
      ⟨⟨⟨rfl, hsettled.1⟩, rfl⟩, hsettled.2⟩
  have hcursor : Holds (Knows rows asked (OpenPending rows)) (setCursor true)
      (fun _ => Knows rows asked (OpenPending rows)) (Stops rows asked) :=
    holds_of_update (fun _ => rfl) fun _ _ hpending => hpending
  exact (holds_weakly autobegin_settled).bind fun _ =>
    (holds_weakly (bindIfNeeded_settled handle)).bind fun _ =>
      hprepared.bind fun _ => (request_open handle.stmtId).bind fun _ =>
        hcursor.bind fun _ => receive_open.bind fun _ =>
          nextFetch_fetching handle.stmtId

theorem executeSelect_ok {client after : Client}
    (hselect : executeSelect caps choice handle client = .ok () after) :
    ∃ start, executeOpens caps choice handle client = .ok () start ∧
      fetchLoop caps handle.stmtId start = .ok () after := by
  unfold executeSelect at hselect
  obtain ⟨⟨⟩, begun, hbegun, hselect⟩ := bind_eq_ok.mp hselect
  obtain ⟨⟨⟩, bound, hbound, hselect⟩ := bind_eq_ok.mp hselect
  obtain ⟨⟨⟩, cleared, hcleared, hselect⟩ := bind_eq_ok.mp hselect
  obtain ⟨⟨⟩, sent, hsent, hselect⟩ := bind_eq_ok.mp hselect
  obtain ⟨⟨⟩, set, hset, hselect⟩ := bind_eq_ok.mp hselect
  obtain ⟨⟨⟩, received, hreceived, hselect⟩ := bind_eq_ok.mp hselect
  obtain ⟨⟨⟩, start, hstart, hloop⟩ := bind_eq_ok.mp hselect
  refine ⟨start, ?_, hloop⟩
  exact bind_eq_ok.mpr ⟨(), begun, hbegun, bind_eq_ok.mpr ⟨(), bound, hbound,
    bind_eq_ok.mpr ⟨(), cleared, hcleared, bind_eq_ok.mpr ⟨(), sent, hsent,
      bind_eq_ok.mpr ⟨(), set, hset, bind_eq_ok.mpr
        ⟨(), received, hreceived, hstart⟩⟩⟩⟩⟩⟩

theorem onError_ok {program cleanup : Exchange Unit} {client after : Client}
    (hrun : onError program cleanup client = .ok () after) :
    program client = .ok () after := by
  unfold onError at hrun
  split at hrun
  · next hprogram =>
    cases hrun
    exact hprogram
  · cases hrun

theorem executeBoundParams_impossible :
    Holds (Knows rows asked Impossible)
      (executeBoundParams caps choice handle)
      (fun _ => Knows rows asked Impossible) (Stops rows asked) := by
  have hbegun : Holds (Knows rows asked Impossible) (autobegin caps)
      (fun _ => Knows rows asked Impossible) (Stops rows asked) := by
    intro client hknown
    have hsettled := holds_weakly (@autobegin_settled rows asked caps
      (fun _ => False) False) client (hknown.mono fun _ hfalse => hfalse.elim)
    cases hrun : autobegin caps client with
    | ok value after =>
        rw [hrun] at hsettled
        exact hsettled.mono fun _ hsettled => hsettled.1
    | error status after =>
        rw [hrun] at hsettled
        exact hsettled
  have hprepared : Holds (Knows rows asked Impossible)
      (prepareForExecute choice handle)
      (fun _ => Knows rows asked Impossible) (Stops rows asked) :=
    holds_of_update (fun _ => rfl) fun _ _ hfalse => hfalse
  have hreceived : Holds (Knows rows asked Impossible) (receiveExecute caps)
      (fun _ => Knows rows asked Impossible) (Stops rows asked) := by
    refine holds_of_quiet (fun client => ?_) fun _ _ hfalse => hfalse.elim
    unfold receiveExecute
    rw [bind_apply]
    change (stateOf (ofReception _ _)).asked = _
    unfold ofReception
    split <;> rfl
  exact hbegun.bind fun _ => (request_impossible _).bind fun _ =>
    hprepared.bind fun _ => hreceived.bind fun _ => track_impossible

theorem execute_materialized {client after : Client}
    (hclient : Settled IsSelect False rows client)
    (hrun : execute caps choice handle client = .ok () after) :
    Knows rows client.asked (fun _ after => after.result.rows.val = rows ∧
      (after.incoming = [] ↔ ∃ start,
        executeStarts caps choice handle client = .ok () start ∧
          LastArrived caps handle.stmtId start)) after := by
  obtain ⟨⟨⟩, kept, hkept, hrest⟩ := bind_eq_ok.mp hrun
  obtain ⟨⟨⟩, closed, hclosed, hexecute⟩ := bind_eq_ok.mp hrest
  have hknown : Knows rows client.asked (Settled IsSelect False) client :=
    ⟨[], (List.append_nil _).symm, fun _ _ => hclient⟩
  obtain ⟨-, rfl⟩ := check_eq_ok.mp hkept
  have hsettled := holds_weakly (@closeCursorIfOpen_settled rows kept.asked caps
    IsSelect handle) kept hknown
  rw [hclosed] at hsettled
  unfold executeClosed at hexecute
  by_cases hselect : opensCursor closed.result = true
  · rw [if_pos hselect] at hexecute
    obtain ⟨start, hstart, hloop⟩ := executeSelect_ok (onError_ok hexecute)
    have hfetching := @executeOpens_fetching rows kept.asked caps choice
      handle closed hsettled
    rw [hstart] at hfetching
    have hstarts : executeStarts caps choice handle kept = .ok () start :=
      bind_eq_ok.mpr ⟨(), kept, hkept,
        bind_eq_ok.mpr ⟨(), closed, hclosed, hstart⟩⟩
    refine (fetchLoop_complete
      (hfetching.mono fun _ hfetching => hfetching.1) hloop).mono
        fun left hcomplete => ⟨hcomplete.1, ?_, ?_⟩
    · intro hempty
      obtain ⟨before, hlast⟩ := lastFetch_exists hloop
      exact ⟨start, hstarts, before, hlast,
        (hcomplete.2.2 before hlast).mp hempty⟩
    · rintro ⟨other, hother, before, hlast, harrived⟩
      cases hstarts.symm.trans hother
      exact (hcomplete.2.2 before hlast).mpr harrived
  · rw [if_neg hselect] at hexecute
    have hnone : Knows rows kept.asked Impossible closed :=
      hsettled.mono fun left hsettled => hselect (by
        have htype : closed.result.statementType = 2 := hsettled.1
        rw [opensCursor, htype]
        rfl)
    have hafter := @executeBoundParams_impossible rows kept.asked caps choice
      handle closed hnone
    rw [hexecute] at hafter
    exact hafter.mono fun _ hfalse => hfalse.elim

/-! Both calls, as far as a server that holds a result answers them. -/

/-- A SELECT that succeeds gives the rows of the server's result, all of them in
order; nothing is left for the next request to read, if what follows the DONE of
the last answer had arrived when it was looked for. -/
theorem select_materialized {client after : Client}
    (hstale : Stale client.incoming) {made : List (Request × List Message)}
    {left : List (List UInt8)} (hasked : after.asked = client.asked ++ made)
    (hserves : Serves rows made left) :
    (∀ sql, queryEx caps choice sql client = .ok () after →
      after.result.rows.val = rows ∧
      ((∃ prepared start,
        queryPrepared caps choice sql client = .ok () prepared ∧
          openQuery caps prepared.result.stmtId prepared = .ok () start ∧
          LastArrived caps prepared.result.stmtId start) →
        after.incoming = [])) ∧
    ∀ handle, client.result.statementType = statementSelect →
      execute caps choice handle client = .ok () after →
      after.result.rows.val = rows ∧
      (after.incoming = [] ↔ ∃ start,
        executeStarts caps choice handle client = .ok () start ∧
          LastArrived caps handle.stmtId start) := by
  have hhere {condition : List (List UInt8) → Client → Prop}
      (hknown : Knows rows client.asked condition after) :
      condition left after := by
    obtain ⟨found, hfound, hcondition⟩ := hknown
    have hsame : found = made :=
      List.append_cancel_left (hfound.symm.trans hasked)
    exact hcondition left (hsame ▸ hserves)
  constructor
  · intro sql hquery
    obtain ⟨prepared, hprepared, hrun⟩ := queryEx_ok hquery
    have hknown : Knows rows client.asked
        (fun _ client => Stale client.incoming) client :=
      ⟨[], (List.append_nil _).symm, fun _ _ => hstale⟩
    have hsettled := @queryPrepared_settled rows client.asked caps choice sql
      client hknown
    rw [hprepared] at hsettled
    obtain ⟨hrows, hempty⟩ := hhere (runQuery_materialized hsettled hrun)
    refine ⟨hrows, ?_⟩
    rintro ⟨other, start, hother, hstart, hlast⟩
    cases hprepared.symm.trans hother
    exact hempty ⟨start, hstart, hlast⟩
  · intro handle hselect hexecute
    exact hhere (execute_materialized ⟨hselect, hstale, False.elim⟩ hexecute)

/-! A SELECT of one row, with everything there at once and with an EOT late. -/

def preparedSelect (looks : Nat → Bool) : Client :=
  let client := (promptClient
    [[.prepare, .eot], [.tuple 0 [1, 2], .cost 1 1, .done ⟨0, 1, 1, 0⟩, .eot],
      [.done ⟨0, 1, 1, 0⟩, .eot]]).withResult
        { blankResult with statementType := 2 }
  { client with scene := { client.scene with looks } }

/-- The requests of an execution and their answers. -/
def selectAsked : List (Request × List Message) :=
  [(.open 7, [.prepare, .eot]),
    (.fetch 7, [.tuple 0 [1, 2], .cost 1 1, .done ⟨0, 1, 1, 0⟩, .eot]),
    (.fetch 7, [.done ⟨0, 1, 1, 0⟩, .eot])]

theorem selectAsked_served : Serves [[1, 2]] selectAsked [] := by
  have hopen : Acknowledges [.prepare, .eot] :=
    ⟨[.prepare], rfl, by decide⟩
  have hbatch : Brings [[1, 2]]
      [.tuple 0 [1, 2], .cost 1 1, .done ⟨0, 1, 1, 0⟩, .eot] :=
    ⟨[.tuple 0 [1, 2], .cost 1 1], [.done ⟨0, 1, 1, 0⟩, .eot], rfl, by decide,
      rfl, @Ending.done ⟨0, 1, 1, 0⟩ [] nofun⟩
  have hfinish : Finishes [.done ⟨0, 1, 1, 0⟩, .eot] :=
    ⟨[], ⟨0, 1, 1, 0⟩, [], rfl, nofun, nofun⟩
  have hopened : Serves [[1, 2]] [(.open 7, [.prepare, .eot])] [[1, 2]] :=
    Serves.start.answer (.opened hopen)
  have hfetched := hopened.answer
    (@Answers.batch [[1, 2]] [[1, 2]] [] 7 _ (by decide) hbatch)
  exact hfetched.answer (.finish hfinish)

theorem fetchLoop_twice {stmtId : Int} {client first again last : Client}
    (hfirst : fetchRound caps client = .ok () first)
    (hgrown : ¬ first.rowCount ≤ client.rowCount)
    (hnext : nextFetch stmtId first = .ok () again)
    (hlast : fetchRound caps again = .ok () last)
    (hsame : last.rowCount ≤ again.rowCount) :
    fetchLoop caps stmtId client = .ok () last := by
  rw [fetchLoop_apply, hfirst]
  dsimp only
  rw [if_neg hgrown, bind_apply, hnext]
  dsimp only
  rw [fetchLoop_apply, hlast]
  dsimp only
  rw [if_pos hsame]

theorem execute_of_opens {client start after : Client}
    (hkept : client.txn.lifecycle.discarded = false)
    (hcursor : client.cursorOpen = false)
    (hselect : opensCursor client.result = true)
    (hstart : executeOpens caps choice handle client = .ok () start)
    (hloop : fetchLoop caps handle.stmtId start = .ok () after) :
    execute caps choice handle client = .ok () after := by
  obtain ⟨⟨⟩, begun, hbegun, hopens⟩ := bind_eq_ok.mp hstart
  obtain ⟨⟨⟩, bound, hbound, hopens⟩ := bind_eq_ok.mp hopens
  obtain ⟨⟨⟩, cleared, hcleared, hopens⟩ := bind_eq_ok.mp hopens
  obtain ⟨⟨⟩, sent, hsent, hopens⟩ := bind_eq_ok.mp hopens
  obtain ⟨⟨⟩, set, hset, hopens⟩ := bind_eq_ok.mp hopens
  obtain ⟨⟨⟩, received, hreceived, hopens⟩ := bind_eq_ok.mp hopens
  have hexecuted : executeSelect caps choice handle client = .ok () after :=
    bind_eq_ok.mpr ⟨(), begun, hbegun, bind_eq_ok.mpr ⟨(), bound, hbound,
      bind_eq_ok.mpr ⟨(), cleared, hcleared, bind_eq_ok.mpr ⟨(), sent, hsent,
        bind_eq_ok.mpr ⟨(), set, hset, bind_eq_ok.mpr ⟨(), received, hreceived,
          bind_eq_ok.mpr ⟨(), start, hopens, hloop⟩⟩⟩⟩⟩⟩⟩
  have hguarded : checkKept client = .ok () client :=
    checkKept_eq_ok.mpr ⟨hkept, rfl⟩
  refine bind_eq_ok.mpr ⟨(), client, hguarded, bind_eq_ok.mpr
    ⟨(), client, if_pos hcursor, ?_⟩⟩
  unfold executeClosed
  rw [if_pos hselect]
  unfold onError
  rw [hexecuted]

def selectStart (looks : Nat → Bool) : Client :=
  stateOf (executeOpens sampleCaps sampleChoice sampleHandle
    (preparedSelect looks))

def selectFirst (looks : Nat → Bool) : Client :=
  stateOf (fetchRound sampleCaps (selectStart looks))

def selectAgain (looks : Nat → Bool) : Client :=
  stateOf (nextFetch 7 (selectFirst looks))

def selectLast (looks : Nat → Bool) : Client :=
  stateOf (fetchRound sampleCaps (selectAgain looks))

theorem execute_selectPrompt :
    execute sampleCaps sampleChoice sampleHandle
      (preparedSelect fun _ => true) = .ok () (selectLast fun _ => true) :=
  @execute_of_opens sampleCaps sampleChoice sampleHandle _
    (selectStart fun _ => true) _ rfl rfl rfl rfl
    (@fetchLoop_twice _ _ _ (selectFirst fun _ => true)
      (selectAgain fun _ => true) _ rfl (by decide) rfl rfl (by decide))

theorem select_materialized_one :
    (selectLast fun _ => true).result.rows.val = [[1, 2]] ∧
      ((selectLast fun _ => true).incoming = [] ↔ ∃ start,
        executeStarts sampleCaps sampleChoice sampleHandle
          (preparedSelect fun _ => true) = .ok () start ∧
        LastArrived sampleCaps 7 start) :=
  (@select_materialized [[1, 2]] sampleCaps sampleChoice
    (preparedSelect fun _ => true) (selectLast fun _ => true) stale_nil
    selectAsked [] rfl selectAsked_served).2 sampleHandle rfl
      execute_selectPrompt

/-- The EOT behind the last DONE comes late, and is what the next request reads
first. -/
theorem late_eot_left :
    execute sampleCaps sampleChoice sampleHandle
        (preparedSelect fun index => index != 4) =
      .ok () (selectLast fun index => index != 4) ∧
    (selectLast fun index => index != 4).asked = selectAsked ∧
    Serves [[1, 2]] selectAsked [] ∧
    (selectLast fun index => index != 4).incoming = [.eot] := by
  refine ⟨?_, rfl, selectAsked_served, rfl⟩
  exact @execute_of_opens sampleCaps sampleChoice sampleHandle _
    (selectStart fun index => index != 4) _ rfl rfl rfl rfl
    (@fetchLoop_twice _ _ _ (selectFirst fun index => index != 4)
      (selectAgain fun index => index != 4) _ rfl (by decide) rfl rfl
      (by decide))

end Libsqli.Session
