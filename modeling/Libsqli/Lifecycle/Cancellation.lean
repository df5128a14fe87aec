import Libsqli.Lifecycle.Isolation

namespace Libsqli.Lease

variable {n : Nat} {s next : State n} {event : Event n}

def Event.isSend (op : OperationId) : Event n → Bool
  | .send other _ => other = op
  | _ => false

def attempted (op : OperationId) (s : State n) : Bool :=
  (s.operations op).snapshot.sendAttempted

theorem attempted_setOperation {op other : OperationId} {target : Operation}
    (hsame : target.snapshot.sendAttempted =
      (s.operations other).snapshot.sendAttempted) :
    attempted op (s.setOperation other target) = attempted op s := by
  by_cases heq : op = other
  · subst heq
    simpa [attempted] using hsame
  · simp [attempted, heq]

/-! Only an urgent send leaves the mark of one. -/

theorem OperationStep.attempted_same (hpins : Pinned s.operations s.conns)
    {op : OperationId} (hstep : OperationStep s event next)
    (hquiet : event.isSend op = false) :
    attempted op next = attempted op s := by
  cases hstep with
  | register hfree hshown hconn hregister =>
      obtain ⟨-, -, -, rfl⟩ := Operation.register_eq_some hregister
      exact attempted_setOperation rfl
  | registered hhold hconn =>
      exact attempted_setOperation (Operation.registered_attempted _ _ _ _).1
  | unpin => exact attempted_setOperation rfl
  | arm hfree harm hhold =>
      obtain ⟨-, -, -, -, hbefore, hafter, -⟩ :=
        Operation.arm_spec (hpins.wellformed _) hfree harm
      exact attempted_setOperation (hafter.trans hbefore.symm)
  | armInterrupt hfree harm hhold hconn =>
      obtain ⟨-, -, -, -, hbefore, hafter, -⟩ :=
        Operation.arm_spec (hpins.wellformed _) hfree harm
      exact attempted_setOperation (hafter.trans hbefore.symm)
  | request hfree hhold =>
      obtain ⟨-, -, hsame, -⟩ :=
        Operation.request_spec (hpins.wellformed _) hfree
      exact attempted_setOperation hsame
  | requestInterrupt hfree hhold hconn =>
      obtain ⟨-, -, hsame, -⟩ :=
        Operation.request_spec (hpins.wellformed _) hfree
      exact attempted_setOperation hsame
  | @interrupt other id status hhold =>
      have hne : op ≠ other := by
        rintro rfl
        simp [Event.isSend] at hquiet
      simp [attempted, hne]
  | executionDiscard => rfl
  | finish => exact attempted_setOperation rfl
  | dispose => exact attempted_setOperation rfl

theorem Step.attempted_same (h : Invariant s) {op : OperationId}
    (hstep : Step s event next) (hquiet : event.isSend op = false) :
    attempted op next = attempted op s := by
  have hdestroyed : ∀ {id conn},
      (s.destroyConn id conn).operations = s.operations := by
    intro id conn
    unfold State.destroyConn
    split <;> rfl
  cases hstep with
  | operation hstep => exact hstep.attempted_same h.pins hquiet
  | client hstep =>
      cases hstep with
      | create | connect | connectRefused | work => rfl
      | destroy => simp [attempted, hdestroyed]
  | acquire hstep =>
      cases hstep with
      | take | wait | probeAlive | probeUnusable | clear | keep => rfl
      | dropNone | openFailed | openConnected | fail | hand => rfl
      | probeDead | drop | abandon => simp [attempted, hdestroyed]
  | release hstep => cases hstep <;> rfl
  | destroy hstep =>
      cases hstep with
      | refuse | shutdown | teardownFailed => rfl
      | teardown =>
          simp only [attempted, State.setSlot]
          unfold State.destroyConn
          split <;> rfl

/-- Where the urgent send of an operation stands. -/
theorem send_inv {op : OperationId} {id : ConnId}
    (hstep : Step s (.send op id) next) :
    (s.operations op).hold = .interrupting id ∧
      ∃ status, next = s.setOperation op
        ((s.operations op).interrupt status) := by
  cases hstep with
  | client hstep => cases hstep
  | operation hstep =>
      cases hstep with
      | interrupt status hhold => exact ⟨hhold, status, rfl⟩
  | acquire hstep => cases hstep
  | release hstep => cases hstep
  | destroy hstep => cases hstep

theorem unpin_inv {op : OperationId} {id : ConnId}
    (hstep : Step s (.unpin op id) next) :
    (s.operations op).hold = .unpinning id ∧
      ∃ conn, s.conns id = some conn := by
  cases hstep with
  | client hstep => cases hstep
  | operation hstep =>
      cases hstep with
      | unpin hhold hconn => exact ⟨hhold, _, hconn⟩
  | acquire hstep => cases hstep
  | release hstep => cases hstep
  | destroy hstep => cases hstep

theorem register_inv {op : OperationId} {id : ConnId}
    (hstep : Step s (.register op id) next) :
    ∃ conn, s.conns id = some conn ∧ conn.lifecycle = .clear := by
  cases hstep with
  | client hstep => cases hstep
  | operation hstep =>
      cases hstep with
      | register hfree hshown hconn hregister =>
          exact ⟨_, hconn, (Operation.register_eq_some hregister).2.1⟩
  | acquire hstep => cases hstep
  | release hstep => cases hstep
  | destroy hstep => cases hstep

theorem connect_inv {id : ConnId} (hstep : Step s (.connect id) next) :
    ∃ conn, s.conns id = some conn ∧ conn.lifecycle = .clear := by
  cases hstep with
  | client hstep =>
      cases hstep with
      | connect hshown hconn hchecked =>
          exact ⟨_, hconn, (Conn.admitConnect_ok (by rw [hchecked])).1⟩
  | operation hstep => cases hstep
  | acquire hstep => cases hstep
  | release hstep => cases hstep
  | destroy hstep => cases hstep

/-- A connection handed out is open and has an empty lease gate, and had no
more than its mark of lying in the pool before. -/
theorem handOut_inv (h : Invariant s) {slot : Fin n} {holder : Holder}
    {id : ConnId} (hstep : Step s (.handOut slot holder id) next) :
    ∃ conn target, s.conns id = some conn ∧ next.conns id = some target ∧
      conn.lifecycle.discarded = false ∧ conn.lifecycle.pinned = false ∧
      target = conn.withLifecycle .clear ∧ target.state = .ready ∧
      ∃ transport, target.socket = some transport := by
  cases hstep with
  | client hstep => cases hstep
  | operation hstep => cases hstep
  | acquire hstep =>
      cases hstep with
      | @clear _ _ _ conn hhold hconn =>
          obtain ⟨-, -, -, found, hfound, hreleased, husable⟩ :=
            (h.pooling.slots slot).of_clearing hhold
          rw [hconn] at hfound
          obtain rfl := Option.some.inj hfound
          obtain ⟨hkept, hready, hopen⟩ := Conn.usable_iff.mp husable
          have hpinned : conn.lifecycle.pinned = false := by
            cases hset : conn.lifecycle.pinned with
            | false => rfl
            | true => simp [h.pins.separate hconn hset] at hreleased
          refine ⟨conn, _, hconn, Function.update_self _ _ _, hkept, hpinned,
            ?_, hready, hopen⟩
          simp [Conn.withLifecycle, Lifecycle.unrelease, Lifecycle.clear, hkept,
            hpinned]
      | hand hhold hstage hopen hslot =>
          obtain ⟨found, transport, hcase, hconn, -, -⟩ :=
            (h.pooling.slots slot).of_opened hstage
          obtain rfl : found = id := by simpa [hcase] using hslot
          exact ⟨_, _, hconn, hconn, rfl, rfl, rfl, rfl, transport, rfl⟩
  | release hstep => cases hstep
  | destroy hstep => cases hstep

theorem countP_isSend_le_one {transport : Transport} {events : List (Event n)}
    (hrun : Data.Run Step (poolCreate n transport) events s)
    (op : OperationId) : events.countP (Event.isSend op) ≤ 1 := by
  refine hrun.countP_le_one (attempted op) (Event.isSend op)
    (poolCreate_invariant n transport) rfl
    (fun hholds hstep => hstep.invariant hholds) ?_
    (fun hholds hstep hquiet => hstep.attempted_same hholds hquiet)
  intro state event next hholds hstep hsend
  cases event with
  | send other id =>
      obtain rfl : other = op := by simpa [Event.isSend] using hsend
      obtain ⟨hhold, status, rfl⟩ := send_inv hstep
      obtain ⟨-, -, -, -, hclear⟩ :=
        (hholds.pins.wellformed other).interrupting_ready hhold
      exact ⟨hclear, by simp [attempted, Operation.interrupt]⟩
  | _ => simp [Event.isSend] at hsend

theorem cancellation_isolated {transport : Transport}
    {events : List (Event n)}
    (hrun : Data.Run Step (poolCreate n transport) events s) :
    (∀ op, events.countP (Event.isSend op) ≤ 1) ∧
    (∀ op id next, Step s (.send op id) next →
      (s.operations op).state = .active ∧ (s.operations op).armed = true ∧
      (s.operations op).connection = some id ∧
      (∀ other, (s.operations other).pin = some id ↔ other = op) ∧
      ∃ conn, s.conns id = some conn ∧ conn.lifecycle.pinned = true ∧
        conn.lifecycle.discarded = true) ∧
    (∀ op id next, Step s (.unpin op id) next → attempted op s = true →
      ∃ conn, s.conns id = some conn ∧ conn.lifecycle.pinned = true ∧
        conn.lifecycle.discarded = true) ∧
    (∀ id conn later last target, s.conns id = some conn →
      conn.lifecycle.discarded = true → Data.Run Step s later last →
        last.conns id = some target → target.lifecycle.discarded = true) ∧
    (∀ op id next, Step s (.register op id) next →
      ∃ conn, s.conns id = some conn ∧ conn.lifecycle = .clear) ∧
    (∀ id next, Step s (.connect id) next →
      ∃ conn, s.conns id = some conn ∧ conn.lifecycle = .clear) ∧
    (∀ slot holder id next, Step s (.handOut slot holder id) next →
      ∃ conn target, s.conns id = some conn ∧ next.conns id = some target ∧
        conn.lifecycle.discarded = false ∧
        target.lifecycle.discarded = false) ∧
    ∀ id conn, s.conns id = some conn →
      ¬ (conn.lifecycle.pinned = true ∧ conn.lifecycle.released = true) := by
  have h := invariant_of_run hrun
  refine ⟨countP_isSend_le_one hrun, ?_, ?_, ?_, ?_, ?_, ?_, ?_⟩
  · intro op id next hstep
    obtain ⟨hhold, -⟩ := send_inv hstep
    obtain ⟨hactive, hbound, harmed, -, -⟩ :=
      (h.pins.wellformed op).interrupting_ready hhold
    have hpin : (s.operations op).pin = some id := by
      simp [Operation.pin, hhold]
    obtain ⟨conn, hconn, hpinned⟩ := h.pins.pinned hpin
    refine ⟨hactive, harmed, hbound, ?_, conn, hconn, hpinned, ?_⟩
    · intro other
      refine ⟨fun hother => h.pins.exclusive hother hpin, ?_⟩
      rintro rfl
      exact hpin
    · exact h.pins.discarded hpin hconn (Or.inl ⟨id, hhold⟩)
  · intro op id next hstep hattempted
    obtain ⟨hhold, conn, hconn⟩ := unpin_inv hstep
    have hpin : (s.operations op).pin = some id := by
      simp [Operation.pin, hhold]
    exact ⟨conn, hconn, h.pins.pinned_of hpin hconn,
      h.pins.discarded hpin hconn (Or.inr hattempted)⟩
  · intro id conn later last target hconn hdiscarded hlater htarget
    obtain ⟨found, hfound, hkept⟩ := (keepsDiscarded_of_run hlater).2
      (h.pooling.lt_next hconn) htarget
    rw [hconn] at hfound
    obtain rfl := Option.some.inj hfound
    exact hkept hdiscarded
  · exact fun op id next hstep => register_inv hstep
  · exact fun id next hstep => connect_inv hstep
  · intro slot holder id next hstep
    obtain ⟨conn, target, hconn, htarget, hkept, -, rfl, -⟩ :=
      handOut_inv h hstep
    exact ⟨conn, _, hconn, htarget, hkept, rfl⟩
  · rintro id conn hconn ⟨hpinned, hreleased⟩
    simp [h.pins.separate hconn hpinned] at hreleased

/-- One lease: a prepared operation is canceled before its request is out, armed,
interrupted and finished. -/
theorem cancellation_isolated_once :
    ∃ s next : State 1,
      Step s (.send 0 0) next ∧ (s.operations 0).armed = true ∧
      ∃ conn, s.conns 0 = some conn ∧ conn.lifecycle.pinned = true ∧
        conn.lifecycle.discarded = true := by
  obtain ⟨s, events, hrun, hhold⟩ : ∃ (s : State 1) (events : List (Event 1)),
      Data.Run Step (poolCreate 1 .tcp) events s ∧
        (s.operations 0).hold = .interrupting 0 := by
    have htake := Data.Run.nil.snoc (Step.acquire
      (@AcquireStep.take 1 (poolCreate 1 .tcp) 7 0 rfl rfl (by decide)))
    have hprobe := htake.snoc (.acquire (.probeAlive rfl rfl rfl rfl))
    have hclear := hprobe.snoc (.acquire (.clear rfl rfl))
    have hregister := hclear.snoc (.operation
      (@OperationStep.register _ _ 0 0 false _ _ _ rfl rfl rfl rfl))
    have hregistered := hregister.snoc (.operation
      (@OperationStep.registered _ _ 0 0 false _ rfl rfl))
    have hrequest := hregistered.snoc (.operation
      (@OperationStep.request _ _ 0 rfl rfl))
    have harm := hrequest.snoc (.operation
      (@OperationStep.armInterrupt _ _ 0 _ 0 _ rfl rfl rfl rfl))
    exact ⟨_, _, harm, rfl⟩
  have hsend : Step s (.send 0 0) _ := .operation (.interrupt .ok hhold)
  obtain ⟨-, harmed, -, -, hconn⟩ :=
    (cancellation_isolated hrun).2.1 0 0 _ hsend
  exact ⟨s, _, hsend, harmed, hconn⟩

end Libsqli.Lease
