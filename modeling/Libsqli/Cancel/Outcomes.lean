import Libsqli.Cancel.Execution

namespace Libsqli.Cancel

open Libsqli.Bind
open Libsqli.Data
open Libsqli.Receive
open Libsqli.Wire

/-! What the recorded outcome says about the execution. -/

variable {call : Call} {sent : List UInt8} {run next : Run}
  {stage : Stage} {status : Status}

namespace Run

/-- The statement's request is on the wire to its last octet. -/
def Whole (run : Run) (call : Call) (sent : List UInt8) : Prop :=
  run.wire.sent = sent ++ requestBytes call.encode call.target.stmt

/-- The server has answered with this SQLCODE. -/
def Reports (run : Run) (sqlcode : Int) : Prop :=
  ∃ error : ServerError, .err error ∈ run.replies ∧
    error.sqlcode.toInt = sqlcode

def Completed (run : Run) : Prop := ∃ done : Done, .done done ∈ run.replies

/-- What each outcome stands for. -/
def Bears (run : Run) (call : Call) (sent : List UInt8) (status : Status) :
    CancelOutcome → Prop
  | .notExecuted => run.wire.sent = sent
  | .executed => run.Whole call sent ∧ run.Completed ∧
      run.operation.snapshot.operationStatus = .ok ∧
      (run.operation.snapshot.disposalStatus = .ok → status = .ok)
  | .interrupted => run.Reports (-213)
  | .failed => (∃ sqlcode, run.Reports sqlcode ∧ sqlcode ≠ 0 ∧
      sqlcode ≠ -213) ∨ ¬ run.Whole call sent
  | .unknown => True

/-- What a request and the other threads may change. -/
def touched (run : Run) (requested attempted : Bool) (sending : Status)
    (word : Lifecycle) : Run :=
  { run with
    operation := { run.operation with
      hold := .free
      snapshot := { run.operation.snapshot with
        requested
        sendAttempted := attempted
        sendStatus := sending } }
    conn := run.conn.withLifecycle word }

end Run

/-! How far each stage has come. -/

structure Entered (sent : List UInt8) (run : Run) : Prop where
  fresh : run.operation.state = .fresh
  unarmed : run.operation.armed = false
  unsent : run.wire.sent = sent

/-- The execution runs, and no error is recorded. -/
structure Underway (call : Call) (run : Run) (armed : Bool) : Prop where
  checked : call.target.check = .ok
  active : run.operation.state = .active
  armed_eq : run.operation.armed = armed
  noError : run.conn.sqlcode = 0

/-- The execution has come to an end with a status. -/
structure Ended (call : Call) (sent : List UInt8) (run : Run)
    (status : Status) : Prop where
  active : run.operation.state = .active
  whole : run.operation.armed = true → run.Whole call sent
  cut : run.operation.armed = false →
    status ≠ .ok ∧ ¬ run.Whole call sent ∧ run.conn.sqlcode = 0
  reported : run.conn.sqlcode ≠ 0 → run.Reports run.conn.sqlcode.toInt

structure Answered (call : Call) (sent : List UInt8) (run : Run)
    (status : Status) : Prop extends Ended call sent run status where
  done : run.operation.armed = true → run.result.sawDone = true →
    run.Completed

structure Concluded (call : Call) (sent : List UInt8) (run : Run)
    (status : Status) : Prop extends Ended call sent run status where
  done : status = .ok → run.Completed
  lost : status = .ioError ∨ status = .timeout →
    run.conn.lifecycle.discarded = true

/-- The outcome is true of the execution, and a connection whose answer is not
known is given up. -/
structure Settled (call : Call) (sent : List UInt8) (run : Run)
    (status : Status) : Prop where
  bears : run.Bears call sent status run.operation.snapshot.outcome
  givenUp : run.operation.snapshot.outcome = .unknown →
    run.operation.armed = true → run.conn.lifecycle.discarded = true

def At (call : Call) (sent : List UInt8) (run : Run) : Stage → Prop
  | .entered => Entered sent run
  | .started => Underway call run false ∧ run.wire.sent = sent
  | .sent => Underway call run false ∧ run.Whole call sent
  | .waiting => Underway call run true ∧ run.Whole call sent
  | .answered status => Answered call sent run status
  | .concluded status => Concluded call sent run status
  | .returned status => run.operation.state = .terminal →
      Settled call sent run status

structure Stands (call : Call) (sent : List UInt8) (run : Run) : Prop where
  free : run.operation.hold = .free
  attempted : run.operation.snapshot.sendAttempted = true →
    run.operation.armed = true ∧ run.conn.lifecycle.discarded = true
  reached : At call sent run run.stage

/-! Requests and other threads leave the execution where it is. -/

theorem Ended.touched (hended : Ended call sent run status)
    (requested attempted : Bool) (sending : Status) (word : Lifecycle) :
    Ended call sent (run.touched requested attempted sending word) status :=
  ⟨hended.active, hended.whole, hended.cut, hended.reported⟩

theorem At.touched (hat : At call sent run stage) (requested attempted : Bool)
    (sending : Status) {word : Lifecycle}
    (hword : run.conn.lifecycle.discarded = true → word.discarded = true) :
    At call sent (run.touched requested attempted sending word) stage := by
  cases stage with
  | entered => exact ⟨hat.fresh, hat.unarmed, hat.unsent⟩
  | started | sent | waiting =>
      obtain ⟨hunderway, hsent⟩ := hat
      exact ⟨⟨hunderway.checked, hunderway.active, hunderway.armed_eq,
        hunderway.noError⟩, hsent⟩
  | answered status =>
      exact ⟨hat.toEnded.touched _ _ _ _, hat.done⟩
  | concluded status =>
      exact ⟨hat.toEnded.touched _ _ _ _, hat.done,
        fun hlost => hword (hat.lost hlost)⟩
  | returned status =>
      intro hterminal
      have hsettled := hat hterminal
      refine ⟨?_, fun hunknown harmed =>
        hword (hsettled.givenUp hunknown harmed)⟩
      have hbears := hsettled.bears
      change Run.Bears _ call sent status run.operation.snapshot.outcome
      cases houtcome : run.operation.snapshot.outcome <;>
        rw [houtcome] at hbears <;> exact hbears

theorem Stands.touched (hstands : Stands call sent run)
    {requested attempted : Bool} {sending : Status} {word : Lifecycle}
    (hword : run.conn.lifecycle.discarded = true → word.discarded = true)
    (hattempted : attempted = true →
      run.operation.armed = true ∧ word.discarded = true) :
    Stands call sent (run.touched requested attempted sending word) :=
  ⟨rfl, hattempted, hstands.reached.touched requested attempted sending hword⟩

theorem touched_lifecycle (hfree : run.operation.hold = .free)
    (word : Lifecycle) :
    { run with conn := run.conn.withLifecycle word } =
      run.touched run.operation.snapshot.requested
        run.operation.snapshot.sendAttempted
        run.operation.snapshot.sendStatus word := by
  cases run with
  | mk stage operation conn wire result replies =>
      cases operation with
      | mk hold state connection armed snapshot =>
          cases hfree
          rfl

theorem lifecycle_stands (hstands : Stands call sent run) {word : Lifecycle}
    (hword : run.conn.lifecycle.discarded = true → word.discarded = true) :
    Stands call sent { run with conn := run.conn.withLifecycle word } := by
  rw [touched_lifecycle hstands.free]
  refine hstands.touched hword fun hattempted => ?_
  obtain ⟨harmed, hdiscarded⟩ := hstands.attempted hattempted
  exact ⟨harmed, hword hdiscarded⟩

theorem afterCall_latch (hfree : run.operation.hold = .free)
    (sending : Status) :
    run.afterCall run.operation.latch sending = run.touched true
      run.operation.snapshot.sendAttempted run.operation.snapshot.sendStatus
      run.conn.lifecycle := by
  cases run with
  | mk stage operation conn wire result replies =>
      cases operation with
      | mk hold state connection armed snapshot =>
          cases hfree
          rfl

theorem afterCall_unchanged (hfree : run.operation.hold = .free)
    (sending : Status) : run.afterCall run.operation sending = run := by
  unfold Run.afterCall
  rw [hfree]

theorem afterCall_interrupt {called : Operation} {id : ConnId}
    (hconnection : called.connection = some id) (sending : Status) :
    run.afterCall called.beginInterrupt sending =
      { run with
        operation := (called.withHold (.interrupting id)).interrupt sending
        conn := run.conn.withLifecycle run.conn.lifecycle.discard } := by
  unfold Operation.beginInterrupt
  rw [hconnection]
  rfl

theorem request_stands (hstands : Stands call sent run) (sending : Status) :
    Stands call sent (run.afterCall run.operation.request.2 sending) := by
  have hlatched : Stands call sent
      (run.afterCall run.operation.latch sending) := by
    rw [afterCall_latch hstands.free]
    exact hstands.touched id hstands.attempted
  unfold Operation.request
  split
  · rw [afterCall_unchanged hstands.free]
    exact hstands
  · split
    · rw [afterCall_unchanged hstands.free]
      exact hstands
    · split
      · exact hlatched
      · next harmed =>
        rw [not_or] at harmed
        change Stands call sent
          (run.afterCall run.operation.latch.beginInterrupt sending)
        cases hconnection : run.operation.connection with
        | none =>
            unfold Operation.beginInterrupt
            rw [show run.operation.latch.connection = none from hconnection]
            exact hlatched
        | some id =>
            have hbound : run.operation.latch.connection = some id :=
              hconnection
            have htouched : Stands call sent (run.touched true true sending
                run.conn.lifecycle.discard) :=
              hstands.touched (fun _ => rfl) fun _ =>
                ⟨Bool.eq_true_of_not_eq_false harmed.2, rfl⟩
            rw [afterCall_interrupt hbound]
            exact htouched

/-! The steps of the execution. -/

theorem refuse_stands (hstands : Stands call sent run)
    (hstage : run.stage = .entered) (status : Status) :
    Stands call sent (run.withStage (.returned status)) := by
  have hreached := hstands.reached
  rw [hstage] at hreached
  refine ⟨hstands.free, hstands.attempted, fun hterminal => ?_⟩
  have hfresh := hreached.fresh
  rw [show run.operation.state = .terminal from hterminal] at hfresh
  cases hfresh

theorem Stands.not_attempted (hstands : Stands call sent run)
    (harmed : run.operation.armed = false) :
    run.operation.snapshot.sendAttempted = false := by
  apply eq_false_of_ne_true
  intro hattempted
  rw [(hstands.attempted hattempted).1] at harmed
  cases harmed

theorem registered_unbound {op : Operation} {id : ConnId} {armed : Bool}
    {conn : Conn} (htcp : conn.isTcpConnection = false) :
    op.registered id armed conn = op.withHold (.unpinning id) := by
  unfold Operation.registered
  rw [htcp]
  rfl

theorem registered_bound {op : Operation} {id : ConnId} {armed : Bool}
    {conn : Conn} (htcp : conn.isTcpConnection = true) :
    op.registered id armed conn =
      if op.snapshot.requested then
        { op with
          hold := .unpinning id
          state := .terminal
          snapshot := { op.snapshot with
            operationStatus := .canceled
            outcome := .notExecuted } }
      else
        { op with
          hold := .free
          state := .active
          connection := some id
          armed := armed
          snapshot := { op.snapshot with started := true } } := by
  unfold Operation.registered
  rw [htcp]
  rfl

theorem register_stands (hstands : Stands call sent run)
    (hstage : run.stage = .entered) (hcheck : call.target.check = .ok)
    {called : Operation} {word : Lifecycle}
    (hregister : run.operation.register call.conn false run.conn.lifecycle =
      some (called, word)) :
    Stands call sent (run.registered call.conn called word) := by
  have hreached := hstands.reached
  rw [hstage] at hreached
  have hentered : Entered sent run := hreached
  have hnone : run.operation.snapshot.sendAttempted ≠ true :=
    ne_true_of_eq_false (hstands.not_attempted hentered.unarmed)
  obtain ⟨-, -, -, rfl⟩ := Operation.register_eq_some hregister
  unfold Run.registered
  dsimp only
  cases htcp : (run.conn.withLifecycle word).isTcpConnection with
  | false =>
      rw [registered_unbound htcp]
      refine ⟨rfl, fun hattempted => absurd hattempted hnone,
        fun hterminal => ?_⟩
      have hfresh := hentered.fresh
      rw [show run.operation.state = .terminal from hterminal] at hfresh
      cases hfresh
  | true =>
      rw [registered_bound htcp]
      by_cases hrequested : (run.operation.withHold
          (.registering call.conn false)).snapshot.requested = true
      · rw [if_pos hrequested]
        exact ⟨rfl, fun hattempted => absurd hattempted hnone,
          fun _ => ⟨hentered.unsent, nofun⟩⟩
      · rw [if_neg hrequested]
        exact ⟨rfl, fun hattempted => absurd hattempted hnone,
          ⟨hcheck, rfl, rfl, rfl⟩, hentered.unsent⟩

/-- What the checks let through streams nothing. -/
theorem streamed_of_check {target : Target} (hcheck : target.check = .ok) :
    target.stmt.streamed = [] := by
  unfold Target.check at hcheck
  split at hcheck
  · cases hcheck
  · split at hcheck
    · cases hcheck
    · split at hcheck
      · cases hcheck
      · next hlobs =>
        rw [Statement.streamed, List.filter_eq_nil_iff]
        intro typed member hstreams
        refine hlobs (List.any_eq_true.mpr ⟨typed, member, ?_⟩)
        rw [hstreams, Bool.true_or]

theorem send_stands (hstands : Stands call sent run)
    (hstage : run.stage = .started) :
    Stands call sent (run.send call.malloc call.encode call.target.stmt) := by
  have hreached := hstands.reached
  rw [hstage] at hreached
  obtain ⟨hunderway, hunsent⟩ :
      Underway call run false ∧ run.wire.sent = sent := hreached
  have hlobs := streamed_of_check hunderway.checked
  unfold Run.send
  split
  · next wire hsend =>
    have hwhole := sent_of_ok call.malloc hlobs hsend
    rw [hunsent] at hwhole
    exact ⟨hstands.free, hstands.attempted,
      ⟨hunderway.checked, hunderway.active, hunderway.armed_eq,
        hunderway.noError⟩, hwhole⟩
  · next status wire hsend =>
    obtain ⟨hstatus, hcut⟩ := sent_of_error call.malloc hlobs hsend
    rw [hunsent] at hcut
    have hunarmed : run.operation.armed ≠ true :=
      ne_true_of_eq_false hunderway.armed_eq
    exact ⟨hstands.free, hstands.attempted,
      ⟨hunderway.active, fun harmed => absurd harmed hunarmed,
        fun _ => ⟨hstatus, hcut, rfl⟩, fun hcode => absurd rfl hcode⟩,
      fun harmed => absurd harmed hunarmed⟩

theorem arm_of_underway (hunderway : Underway call run false) :
    run.operation.arm = some
      (if run.operation.snapshot.requested then
        run.operation.setArmed.beginInterrupt
      else run.operation.setArmed) := by
  unfold Operation.arm
  rw [if_neg]
  · split <;> rfl
  · rintro (hactive | harmed)
    · exact hactive hunderway.active
    · rw [hunderway.armed_eq] at harmed
      cases harmed

/-- Arming an execution whose request is on its way. -/
theorem setArmed_stands (hstands : Stands call sent run)
    (hunderway : Underway call run false) (hwhole : run.Whole call sent) :
    Stands call sent
      { run with stage := .waiting, operation := run.operation.setArmed } := by
  have hnone : run.operation.snapshot.sendAttempted ≠ true :=
    ne_true_of_eq_false (hstands.not_attempted hunderway.armed_eq)
  exact ⟨hstands.free, fun hattempted => absurd hattempted hnone,
    ⟨hunderway.checked, hunderway.active, rfl, hunderway.noError⟩, hwhole⟩

theorem arm_stands (hstands : Stands call sent run)
    (hstage : run.stage = .sent) (sending : Status) :
    Stands call sent (run.arm sending) := by
  have hreached := hstands.reached
  rw [hstage] at hreached
  obtain ⟨hunderway, hwhole⟩ :
      Underway call run false ∧ run.Whole call sent := hreached
  have harmed := setArmed_stands hstands hunderway hwhole
  have hquiet : Stands call sent
      ((run.afterCall run.operation.setArmed sending).withStage .waiting) := by
    unfold Run.afterCall
    rw [show run.operation.setArmed.hold = .free from hstands.free]
    exact harmed
  unfold Run.arm
  rw [arm_of_underway hunderway]
  split
  · next called hcalled =>
    cases hcalled
    split
    · cases hconnection : run.operation.connection with
      | none =>
          unfold Operation.beginInterrupt
          rw [show run.operation.setArmed.connection = none from hconnection]
          exact hquiet
      | some id =>
          have hbound : run.operation.setArmed.connection = some id :=
            hconnection
          have htouched : Stands call sent (Run.touched
              { run with
                stage := .waiting
                operation := run.operation.setArmed }
              run.operation.snapshot.requested true sending
              run.conn.lifecycle.discard) :=
            harmed.touched (fun _ => rfl) fun _ => ⟨rfl, rfl⟩
          rw [afterCall_interrupt hbound]
          exact htouched
    · exact hquiet
  · next hnone => cases hnone

/-- The width of a server's SQLCODE keeps it in the client's. -/
theorem toInt_ofInt_sqlcode (sqlcode : Int16) :
    (Int32.ofInt sqlcode.toInt).toInt = sqlcode.toInt := by
  have hlow := sqlcode.le_toInt
  have hhigh := sqlcode.toInt_lt
  exact Int32.toInt_ofInt_of_le (by omega) (by omega)

theorem receive_stands (hstands : Stands call sent run)
    (hstage : run.stage = .waiting) (messages : List Message)
    (looks allocs : Nat → Bool) :
    Stands call sent (run.receive call.caps call.settings
      call.target.stmt.stmtId.toInt messages looks allocs) := by
  have hreached := hstands.reached
  rw [hstage] at hreached
  obtain ⟨hunderway, hwhole⟩ :
      Underway call run true ∧ run.Whole call sent := hreached
  have hfirst : Reported messages ⟨looks, allocs,
      prepareResultForExecute call.settings call.target.stmt.stmtId.toInt
        run.result, ⟨false, run.conn.sqlcode.toInt⟩⟩ := by
    refine ⟨fun hcode => ?_, nofun⟩
    rw [hunderway.noError] at hcode
    exact absurd rfl hcode
  have hreported := @receiveExecuteResult_reported call.caps messages messages
    _ (List.Subset.refl _) hfirst
  unfold Run.receive
  dsimp only
  generalize receiveExecuteResult call.caps messages _ = reception
    at hreported ⊢
  have harmed : run.operation.armed ≠ false :=
    ne_false_of_eq_true hunderway.armed_eq
  refine ⟨hstands.free, hstands.attempted, ⟨hunderway.active, fun _ => hwhole,
    fun hunarmed => absurd hunarmed harmed, fun hcode => ?_⟩,
    fun _ => hreported.done⟩
  have hnonzero : reception.scene.diagnostic.sqlcode ≠ 0 := by
    intro hzero
    apply hcode
    change Int32.ofInt reception.scene.diagnostic.sqlcode = 0
    rw [hzero]
    rfl
  obtain ⟨error, member, hsqlcode⟩ := hreported.sqlcode hnonzero
  refine ⟨error, member, ?_⟩
  change _ = (Int32.ofInt reception.scene.diagnostic.sqlcode).toInt
  rw [← hsqlcode, toInt_ofInt_sqlcode]

/-! The end of the execution. -/

/-- What `conclude` finds, whether or not a DONE is missing. -/
theorem Answered.checked (hanswered : Answered call sent run status) :
    Ended call sent { run with conn := (run.checkDone status).2 }
        (run.checkDone status).1 ∧
      ((run.checkDone status).1 = .ok → run.Completed) := by
  unfold Run.checkDone
  have harmed : status = .ok → run.operation.armed = true := fun hok =>
    eq_true_of_ne_false fun hunarmed => (hanswered.cut hunarmed).1 hok
  split
  · next hmissing =>
    refine ⟨⟨hanswered.active, hanswered.whole, fun hunarmed => ?_,
      fun hcode => absurd rfl hcode⟩, nofun⟩
    exact absurd hmissing.1 (hanswered.cut hunarmed).1
  · next hpresent =>
    refine ⟨hanswered.toEnded, fun hok => hanswered.done (harmed hok) ?_⟩
    exact eq_true_of_ne_false fun hmissing => hpresent ⟨hok, hmissing⟩

theorem Ended.withLifecycle (hended : Ended call sent run status)
    (word : Lifecycle) :
    Ended call sent { run with conn := run.conn.withLifecycle word } status :=
  ⟨hended.active, hended.whole, hended.cut, hended.reported⟩

theorem Ended.canceled (hended : Ended call sent run .protoError) :
    Ended call sent run .canceled :=
  ⟨hended.active, hended.whole,
    fun hunarmed => ⟨nofun, (hended.cut hunarmed).2⟩, hended.reported⟩

theorem conclude_stands (hstands : Stands call sent run)
    (hstage : run.stage = .answered status) :
    Stands call sent (run.conclude status) := by
  have hreached := hstands.reached
  rw [hstage] at hreached
  obtain ⟨hended, hdone⟩ := Answered.checked hreached
  have hlifecycle : (run.checkDone status).2.lifecycle = run.conn.lifecycle := by
    unfold Run.checkDone
    split <;> rfl
  have hdiscarded : run.conn.lifecycle.discarded = true →
      (run.conclude status).conn.lifecycle.discarded = true := by
    intro hdiscarded
    unfold Run.conclude
    dsimp only
    split
    · rfl
    · rw [hlifecycle]
      exact hdiscarded
  have hconn : Ended call sent { run with conn := (run.conclude status).conn }
      (run.checkDone status).1 := by
    unfold Run.conclude
    dsimp only
    split
    · exact hended.withLifecycle _
    · exact hended
  refine ⟨hstands.free, fun hattempted => ?_, ?_⟩
  · obtain ⟨harmed, hpinned⟩ := hstands.attempted hattempted
    exact ⟨harmed, hdiscarded hpinned⟩
  · change Concluded call sent (run.conclude status) (ite _ _ _)
    split
    · next hinterrupted =>
      rw [hinterrupted.1] at hconn
      have hcanceled := hconn.canceled
      exact ⟨⟨hcanceled.active, hcanceled.whole, hcanceled.cut,
        hcanceled.reported⟩, nofun, by rintro (h | h) <;> cases h⟩
    · refine ⟨⟨hconn.active, hconn.whole, hconn.cut, hconn.reported⟩, hdone,
        fun hlost => ?_⟩
      unfold Run.conclude
      dsimp only
      rw [if_pos]
      · rfl
      · rcases hlost with hlost | hlost <;>
          simp [Run.losesConnection, hlost]

theorem finish_discarded (id : ConnId) (status outcome : Status) :
    (run.finish id status outcome).conn.lifecycle.discarded =
      (run.operation.responseUnknown status run.conn ||
        run.conn.lifecycle.discarded) := by
  unfold Run.finish
  dsimp only
  generalize run.operation.responseUnknown status run.conn = unknown
  cases unknown with
  | true => rfl
  | false =>
      cases hdiscarded : run.conn.lifecycle.discarded with
      | true => simp [hdiscarded]
      | false => simp [hdiscarded]

theorem finish_outcome (id : ConnId) (status outcome : Status) :
    (run.finish id status outcome).operation.snapshot.outcome =
      Operation.finishOutcome status run.conn.sqlcode
        (run.operation.responseUnknown status run.conn) := by
  unfold Run.finish
  dsimp only
  split <;> rfl

theorem Concluded.bears (hconcluded : Concluded call sent run status)
    (id : ConnId) (outcome : Status) {returned : Status}
    (hreturned : (run.finish id status outcome).operation.snapshot.disposalStatus
      = .ok → returned = status) :
    (run.finish id status outcome).Bears call sent returned
      (Operation.finishOutcome status run.conn.sqlcode
        (run.operation.responseUnknown status run.conn)) := by
  unfold Operation.finishOutcome
  split
  · next hok =>
    have harmed : run.operation.armed = true :=
      eq_true_of_ne_false fun hunarmed => (hconcluded.cut hunarmed).1 hok
    exact ⟨hconcluded.whole harmed, hconcluded.done hok, hok, fun hdisposal =>
      (hreturned hdisposal).trans hok⟩
  · next hfailed =>
    split
    · next hcode =>
      have hreported := hconcluded.reported (by rw [hcode]; decide)
      rw [hcode] at hreported
      exact hreported
    · next hcode =>
      split
      · trivial
      · next hknown =>
        cases harmed : run.operation.armed with
        | false => exact .inr (hconcluded.cut harmed).2.1
        | true =>
            refine .inl ⟨run.conn.sqlcode.toInt, ?_, ?_, ?_⟩
            · refine hconcluded.reported fun hzero => hknown (.inl ?_)
              simp [Operation.responseUnknown, harmed, hfailed, hzero]
            · intro hzero
              refine hknown (.inl ?_)
              have hnone : run.conn.sqlcode = 0 := Int32.toInt_inj.mp hzero
              simp [Operation.responseUnknown, harmed, hfailed, hnone]
            · intro hinterrupted
              exact hcode (Int32.toInt_inj.mp hinterrupted)

theorem Concluded.givenUp (hconcluded : Concluded call sent run status)
    (id : ConnId) (outcome : Status) (harmed : run.operation.armed = true)
    (hunknown : Operation.finishOutcome status run.conn.sqlcode
      (run.operation.responseUnknown status run.conn) = .unknown) :
    (run.finish id status outcome).conn.lifecycle.discarded = true := by
  rw [finish_discarded]
  unfold Operation.finishOutcome at hunknown
  split at hunknown
  · cases hunknown
  · next hfailed =>
    split at hunknown
    · cases hunknown
    · split at hunknown
      · next hcause =>
        rcases hcause with hresponse | hio | htimeout | ⟨-, hzero⟩
        · rw [hresponse, Bool.true_or]
        · rw [hconcluded.lost (.inl hio), Bool.or_true]
        · rw [hconcluded.lost (.inr htimeout), Bool.or_true]
        · simp [Operation.responseUnknown, harmed, hfailed, hzero]
      · cases hunknown

theorem finish_stands (hstands : Stands call sent run)
    (hstage : run.stage = .concluded status) (outcome : Status) :
    Stands call sent (run.finish call.conn status outcome) := by
  have hreached := hstands.reached
  rw [hstage] at hreached
  have hconcluded : Concluded call sent run status := hreached
  refine ⟨rfl, fun hattempted => ?_, fun _ => ⟨?_, fun hunknown harmed => ?_⟩⟩
  · obtain ⟨harmed, hdiscarded⟩ := hstands.attempted hattempted
    refine ⟨harmed, ?_⟩
    rw [finish_discarded, hdiscarded, Bool.or_true]
  · rw [finish_outcome]
    exact hconcluded.bears call.conn outcome fun hdisposal => if_pos hdisposal
  · rw [finish_outcome] at hunknown
    exact hconcluded.givenUp call.conn outcome harmed hunknown

theorem step_stands {actor : Actor} (hstands : Stands call sent run)
    (hstep : Step call run actor next) : Stands call sent next := by
  cases hstep with
  | refuse hstage => exact refuse_stands hstands hstage _
  | unregistered hstage => exact refuse_stands hstands hstage _
  | register hstage hcheck hregister =>
      exact register_stands hstands hstage hcheck hregister
  | send hstage => exact send_stands hstands hstage
  | arm sending hstage => exact arm_stands hstands hstage sending
  | receive messages looks allocs hstage =>
      exact receive_stands hstands hstage messages looks allocs
  | conclude hstage => exact conclude_stands hstands hstage
  | finish outcome hstage => exact finish_stands hstands hstage outcome
  | request sending => exact request_stands hstands sending
  | lifecycle word hword => exact lifecycle_stands hstands hword

/-- A fresh operation that its execution has just been called with. -/
structure Begins (run : Run) : Prop where
  entered : run.stage = .entered
  created : run.operation = .create

theorem Begins.stands (hbegins : Begins run) :
    Stands call run.wire.sent run := by
  have hcreated := hbegins.created
  refine ⟨by rw [hcreated]; rfl, fun hattempted => ?_, ?_⟩
  · rw [hcreated] at hattempted
    cases hattempted
  · rw [hbegins.entered]
    exact ⟨by rw [hcreated]; rfl, by rw [hcreated]; rfl, rfl⟩

/-- A recorded outcome is true of the execution, the outcome of which nothing
stronger is true is UNKNOWN, and a connection that may have been interrupted or
whose answer is unknown is given up. -/
theorem outcome_sound {first last : Run} {actors : List Actor}
    (hbegins : Begins first)
    (hrun : Data.Run (Step call) first actors last) {status : Status}
    (hreturned : last.stage = .returned status)
    (hterminal : last.operation.state = .terminal) :
    last.Bears call first.wire.sent status last.operation.snapshot.outcome ∧
      ((∀ outcome, outcome ≠ .unknown →
          ¬ last.Bears call first.wire.sent status outcome) →
        last.operation.snapshot.outcome = .unknown) ∧
      ((last.operation.snapshot.outcome = .unknown ∧
          last.operation.armed = true) ∨
          last.operation.snapshot.sendAttempted = true →
        last.conn.lifecycle.discarded = true) := by
  have hstands : Stands call first.wire.sent last :=
    hrun.invariant hbegins.stands fun hstands hstep =>
      step_stands hstands hstep
  have hreached := hstands.reached
  rw [hreturned] at hreached
  have hsettled : Settled call first.wire.sent last status :=
    hreached hterminal
  refine ⟨hsettled.bears, fun hnothing => ?_, ?_⟩
  · by_contra hknown
    exact hnothing _ hknown hsettled.bears
  · rintro (⟨hunknown, harmed⟩ | hattempted)
    · exact hsettled.givenUp hunknown harmed
    · exact (hstands.attempted hattempted).2

/-! An INSERT that a late request interrupts in vain. -/

def sampleCall : Call where
  target := ⟨⟨7, 6, 0, [], []⟩, 3, .ready, 3, false, 0, false, true, false⟩
  conn := 1
  malloc := fun _ => true
  encode := fun text => .ok text
  caps := ⟨true, true, true, false⟩
  settings := ⟨.forwardOnly, .holdOverCommit, 0, 0⟩

def sampleFirst : Run :=
  ⟨.entered, .create, .connected .tcp, openWire, blankResult, []⟩

/-- The run up to the server's answer. -/
def sampleWaiting : Run :=
  (((sampleFirst.registered 1
    (Operation.create.withHold (.registering 1 false))
    (Lifecycle.pin .clear)).send sampleCall.malloc sampleCall.encode
      sampleCall.target.stmt).arm .ok)

def sampleLast : Run :=
  let interrupted := sampleWaiting.afterCall
    sampleWaiting.operation.request.2 .ok
  ((interrupted.receive sampleCall.caps sampleCall.settings 7
    [.done ⟨0, 1, 1, 0⟩, .eot] (fun _ => true) (fun _ => true)).conclude
      .ok).finish 1 .ok .ok

theorem sampleRun : Data.Run (Step sampleCall) sampleFirst
    [.executor, .executor, .executor, .requester, .executor, .executor,
      .executor] sampleLast :=
  .snoc (.snoc (.snoc (.snoc (.snoc (.snoc (.snoc .nil
    (.register rfl rfl rfl)) (.send rfl)) (.arm .ok rfl)) (.request .ok))
    (.receive _ _ _ rfl)) (.conclude rfl)) (.finish .ok rfl)

theorem outcome_sound_executed :
    sampleLast.Bears sampleCall [] .ok .executed ∧
      sampleLast.conn.lifecycle.discarded = true := by
  have hsound := @outcome_sound sampleCall sampleFirst sampleLast _ ⟨rfl, rfl⟩
    sampleRun .ok rfl rfl
  exact ⟨hsound.1, hsound.2.2 (.inr rfl)⟩

end Libsqli.Cancel
