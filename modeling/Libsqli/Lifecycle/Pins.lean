import Libsqli.Lifecycle.System

namespace Libsqli

namespace Operation

/-! Each call keeps an operation wellformed, and the pin it had. -/

theorem register_wellformed {op : Operation} (hform : op.Wellformed)
    (hfresh : op.state = .fresh) (id : ConnId) (armed : Bool) :
    (op.withHold (.registering id armed)).Wellformed := by
  constructor <;> simp_all [withHold]
  · exact hform.fresh_idle hfresh
  · exact hform.attempted_armed

theorem registered_wellformed {op : Operation} (hform : op.Wellformed)
    {id : ConnId} {armed : Bool} (hhold : op.hold = .registering id armed)
    (conn : Conn) : (op.registered id armed conn).Wellformed := by
  have hfresh := hform.registering_fresh hhold
  obtain ⟨harmed, hattempted⟩ := hform.fresh_idle hfresh
  unfold registered
  split
  · constructor <;> simp_all [withHold]
  · split
    · constructor <;> simp_all
    · constructor <;> simp_all

theorem registered_pin {op : Operation} {id : ConnId} {armed : Bool}
    {conn : Conn} : (op.registered id armed conn).pin = some id := by
  unfold registered
  split
  · rfl
  · split <;> rfl

theorem registered_attempted (op : Operation) (id : ConnId) (armed : Bool)
    (conn : Conn) :
    (op.registered id armed conn).snapshot.sendAttempted =
        op.snapshot.sendAttempted ∧
      ∀ other, (op.registered id armed conn).hold ≠ .interrupting other := by
  unfold registered
  split
  · exact ⟨rfl, by simp [withHold]⟩
  · split <;> exact ⟨rfl, by simp⟩

theorem unpin_wellformed {op : Operation} (hform : op.Wellformed) {id : ConnId}
    (hhold : op.hold = .unpinning id) : (op.withHold .free).Wellformed := by
  have hover := hform.unpinning_over hhold
  constructor <;> simp_all [withHold]
  · exact hform.fresh_idle
  · exact hform.attempted_armed

theorem beginInterrupt_eq {op : Operation} {id : ConnId}
    (hbound : op.connection = some id) :
    op.beginInterrupt = op.withHold (.interrupting id) := by
  simp [beginInterrupt, hbound]

theorem arm_spec {op next : Operation} (hform : op.Wellformed)
    (hfree : op.hold = .free) (harm : op.arm = some next) :
    ∃ id, op.pin = some id ∧ next.pin = some id ∧ next.Wellformed ∧
      op.snapshot.sendAttempted = false ∧
      next.snapshot.sendAttempted = false ∧
      (next.hold = .free ∨ next.hold = .interrupting id) := by
  unfold arm at harm
  split at harm
  · cases harm
  · rename_i hidle
    obtain ⟨hactive, harmed⟩ := not_or.mp hidle
    have hactive : op.state = .active := not_not.mp hactive
    obtain ⟨id, hconn, hpin⟩ := pin_of_active hform hfree hactive
    have hattempted : op.snapshot.sendAttempted = false := by
      by_contra hsent
      exact harmed (hform.attempted_armed (by simpa using hsent)).1
    refine ⟨id, hpin, ?_⟩
    split at harm
    · rename_i hrequested
      obtain rfl := Option.some.inj harm
      have hbound : op.setArmed.connection = some id := hconn
      rw [beginInterrupt_eq hbound]
      refine ⟨rfl, ?_, hattempted, hattempted, Or.inr rfl⟩
      constructor <;> simp_all [withHold, setArmed]
    · obtain rfl := Option.some.inj harm
      refine ⟨?_, ?_, hattempted, hattempted, Or.inl hfree⟩
      · simp [pin, setArmed, hfree, hactive, hconn]
      · constructor <;> simp_all [setArmed]

theorem request_spec {op : Operation} (hform : op.Wellformed)
    (hfree : op.hold = .free) :
    op.request.2.pin = op.pin ∧ op.request.2.Wellformed ∧
      op.request.2.snapshot.sendAttempted = op.snapshot.sendAttempted ∧
      (op.request.2.hold = .free ∨ ∃ id, op.pin = some id ∧
        op.request.2.hold = .interrupting id ∧
        op.snapshot.sendAttempted = false) := by
  unfold request
  split
  · exact ⟨rfl, hform, rfl, Or.inl hfree⟩
  · rename_i hterminal
    split
    · exact ⟨rfl, hform, rfl, Or.inl hfree⟩
    · rename_i hrequested
      have hattempted : op.snapshot.sendAttempted = false := by
        by_contra hsent
        exact hrequested (hform.attempted_armed (by simpa using hsent)).2
      split
      · refine ⟨rfl, ?_, rfl, Or.inl hfree⟩
        have hbound := hform.active_bound
        have hidle := hform.fresh_idle
        constructor <;> simp_all [latch]
      · rename_i hready
        obtain ⟨hfresh, harmed⟩ := not_or.mp hready
        have hactive : op.state = .active := by
          cases hstate : op.state with
          | fresh => exact absurd hstate hfresh
          | active => rfl
          | terminal => exact absurd hstate hterminal
        obtain ⟨id, hconn, hpin⟩ := pin_of_active hform hfree hactive
        have hbound : op.latch.connection = some id := hconn
        rw [beginInterrupt_eq hbound]
        refine ⟨hpin.symm, ?_, rfl, Or.inr ⟨id, hpin, rfl, hattempted⟩⟩
        constructor <;> simp_all [withHold, latch]

theorem interrupt_spec {op : Operation} (hform : op.Wellformed) {id : ConnId}
    (hhold : op.hold = .interrupting id) (status : Status) :
    (op.interrupt status).pin = some id ∧
      (op.interrupt status).Wellformed := by
  obtain ⟨hactive, hconn, harmed, hrequested, -⟩ :=
    hform.interrupting_ready hhold
  refine ⟨by simp [pin, interrupt, hactive, hconn], ?_⟩
  constructor <;> simp_all [interrupt]

theorem finish_spec {op : Operation} (hform : op.Wellformed) {id : ConnId}
    (hactive : op.state = .active) (hconn : op.connection = some id)
    (status : Status) (conn : Conn) :
    (op.finish id status conn).pin = some id ∧
      (op.finish id status conn).Wellformed := by
  refine ⟨rfl, ?_⟩
  have hattempted := hform.attempted_armed
  constructor <;> simp_all [finish]

theorem dispose_spec {op : Operation} (hform : op.Wellformed) {id : ConnId}
    (unknown : Bool) (conn : Conn) (outcome : Status) :
    (op.dispose id unknown conn outcome).pin = some id ∧
      (op.dispose id unknown conn outcome).Wellformed := by
  refine ⟨rfl, ?_⟩
  have hattempted := hform.attempted_armed
  constructor <;> simp_all [dispose]

end Operation

namespace Lease

/-- An urgent send of this operation is under way or was attempted. -/
def Interrupting (op : Operation) : Prop :=
  (∃ id, op.hold = .interrupting id) ∨ op.snapshot.sendAttempted = true

/-- Pins and their operations: an operation's pin is a set bit, no connection is
pinned twice, the target of an interrupt is discarded, and a pinned connection
does not lie in the pool. -/
structure Pinned (operations : OperationId → Operation)
    (conns : ConnId → Option Conn) : Prop where
  wellformed : ∀ op, (operations op).Wellformed
  pinned : ∀ {op id}, (operations op).pin = some id →
    ∃ conn, conns id = some conn ∧ conn.lifecycle.pinned = true
  exclusive : ∀ {op other id}, (operations op).pin = some id →
    (operations other).pin = some id → op = other
  discarded : ∀ {op id conn}, (operations op).pin = some id →
    conns id = some conn → Interrupting (operations op) →
      conn.lifecycle.discarded = true
  separate : ∀ {id conn}, conns id = some conn →
    conn.lifecycle.pinned = true → conn.lifecycle.released = false

namespace Pinned

variable {operations : OperationId → Operation} {conns : ConnId → Option Conn}

theorem pinned_of {op : OperationId} {id : ConnId} {conn : Conn}
    (h : Pinned operations conns) (hpin : (operations op).pin = some id)
    (hconn : conns id = some conn) : conn.lifecycle.pinned = true := by
  obtain ⟨other, hother, hpinned⟩ := h.pinned hpin
  rw [hconn] at hother
  obtain rfl := Option.some.inj hother
  exact hpinned

/-- A connection keeps its pin and stays discarded. -/
theorem setConn {id : ConnId} {conn next : Conn} (h : Pinned operations conns)
    (hconn : conns id = some conn)
    (hpinned : next.lifecycle.pinned = conn.lifecycle.pinned)
    (hdiscarded : conn.lifecycle.discarded = true →
      next.lifecycle.discarded = true)
    (hseparate : next.lifecycle.pinned = true →
      next.lifecycle.released = false) :
    Pinned operations (Function.update conns id (some next)) where
  wellformed := h.wellformed
  pinned := by
    intro op other hpin
    by_cases heq : other = id
    · subst heq
      refine ⟨next, by simp, ?_⟩
      rw [hpinned]
      exact h.pinned_of hpin hconn
    · simpa [heq] using h.pinned hpin
  exclusive := h.exclusive
  discarded := by
    intro op other found hpin hfound hinterrupting
    by_cases heq : other = id
    · subst heq
      obtain rfl : next = found := by simpa using hfound
      exact hdiscarded (h.discarded hpin hconn hinterrupting)
    · exact h.discarded hpin (by simpa [heq] using hfound) hinterrupting
  separate := by
    intro other found hfound
    by_cases heq : other = id
    · subst heq
      obtain rfl : next = found := by simpa using hfound
      exact hseparate
    · exact h.separate (by simpa [heq] using hfound)

/-- Work on a connection that leaves the lease gate alone. -/
theorem keepGate {id : ConnId} {conn next : Conn} (h : Pinned operations conns)
    (hconn : conns id = some conn) (hsame : next.lifecycle = conn.lifecycle) :
    Pinned operations (Function.update conns id (some next)) := by
  have hseparate := h.separate hconn
  apply h.setConn hconn
  · rw [hsame]
  · simp [hsame]
  · rwa [hsame]

theorem discardGate {id : ConnId} {conn next : Conn}
    (h : Pinned operations conns) (hconn : conns id = some conn)
    (hsame : next.lifecycle = conn.lifecycle.discard) :
    Pinned operations (Function.update conns id (some next)) := by
  have hseparate := h.separate hconn
  apply h.setConn hconn
  · simp [hsame]
  · simp [hsame]
  · simpa [hsame] using hseparate

/-- A connection nobody pins appears or disappears. -/
theorem replace {id : ConnId} {next : Option Conn} (h : Pinned operations conns)
    (hfree : ∀ conn, conns id = some conn → conn.lifecycle.pinned = false)
    (hnext : ∀ conn, next = some conn → conn.lifecycle.pinned = false) :
    Pinned operations (Function.update conns id next) := by
  have hother : ∀ {op other}, (operations op).pin = some other →
      other ≠ id := by
    intro op other hpin heq
    subst heq
    obtain ⟨conn, hconn, hpinned⟩ := h.pinned hpin
    simp [hfree conn hconn] at hpinned
  refine ⟨h.wellformed, ?_, h.exclusive, ?_, ?_⟩
  · intro op other hpin
    simpa [hother hpin] using h.pinned hpin
  · intro op other conn hpin hconn
    exact h.discarded hpin (by simpa [hother hpin] using hconn)
  · intro other conn hconn hpinned
    by_cases heq : other = id
    · subst heq
      simp [hnext conn (by simpa using hconn)] at hpinned
    · exact h.separate (by simpa [heq] using hconn) hpinned

/-- An operation keeps its pin. -/
theorem setOperation {op : OperationId} {next : Operation}
    (h : Pinned operations conns) (hform : next.Wellformed)
    (hpin : next.pin = (operations op).pin)
    (hdiscarded : ∀ {id conn}, next.pin = some id → conns id = some conn →
      Interrupting next → conn.lifecycle.discarded = true) :
    Pinned (Function.update operations op next) conns := by
  have hsame : ∀ other, (Function.update operations op next other).pin =
      (operations other).pin := by
    intro other
    by_cases heq : other = op
    · subst heq
      simpa using hpin
    · simp [heq]
  refine ⟨?_, ?_, ?_, ?_, h.separate⟩
  · intro other
    by_cases heq : other = op
    · subst heq
      simpa using hform
    · simpa [heq] using h.wellformed other
  · intro other id hother
    exact h.pinned (by simpa [hsame] using hother)
  · intro left right id hleft hright
    exact h.exclusive (by simpa [hsame] using hleft)
      (by simpa [hsame] using hright)
  · intro other id conn hother hconn hinterrupting
    by_cases heq : other = op
    · subst heq
      simp only [Function.update_self] at hother hinterrupting
      exact hdiscarded hother hconn hinterrupting
    · simp only [Function.update_of_ne heq] at hother hinterrupting
      exact h.discarded hother hconn hinterrupting

/-- An operation and the connection it pins move together. -/
theorem setBoth {op : OperationId} {id : ConnId} {conn target : Conn}
    {next : Operation} (h : Pinned operations conns)
    (hconn : conns id = some conn) (hbefore : (operations op).pin = some id)
    (hform : next.Wellformed) (hpin : next.pin = some id)
    (hpinned : target.lifecycle.pinned = conn.lifecycle.pinned)
    (hreleased : target.lifecycle.released = conn.lifecycle.released)
    (hkept : conn.lifecycle.discarded = true →
      target.lifecycle.discarded = true)
    (hdiscarded : Interrupting next → target.lifecycle.discarded = true) :
    Pinned (Function.update operations op next)
      (Function.update conns id (some target)) := by
  have hseparate : target.lifecycle.pinned = true →
      target.lifecycle.released = false := by
    intro hset
    rw [hreleased]
    exact h.separate hconn (hpinned ▸ hset)
  refine (h.setConn hconn hpinned hkept hseparate).setOperation hform
    (hpin.trans hbefore.symm) ?_
  intro other found hother hfound hinterrupting
  rw [hpin] at hother
  obtain rfl := Option.some.inj hother
  obtain rfl : target = found := by simpa using hfound
  exact hdiscarded hinterrupting

/-- The compare-and-swap of a registration: only a connection with no bit set
takes the pin. -/
theorem takePin {op : OperationId} {id : ConnId} {conn : Conn}
    {next : Operation} (h : Pinned operations conns)
    (hconn : conns id = some conn) (hclear : conn.lifecycle = .clear)
    (hform : next.Wellformed) (hbefore : (operations op).pin = none)
    (hpin : next.pin = some id) (hquiet : ¬ Interrupting next) :
    Pinned (Function.update operations op next)
      (Function.update conns id
        (some (conn.withLifecycle (Lifecycle.pin .clear)))) := by
  have hother : ∀ {other}, (operations other).pin = some id → False := by
    intro other hpinned
    have hset := h.pinned_of hpinned hconn
    simp [hclear, Lifecycle.clear] at hset
  refine ⟨?_, ?_, ?_, ?_, ?_⟩
  · intro other
    by_cases heq : other = op
    · subst heq
      simpa using hform
    · simpa [heq] using h.wellformed other
  · intro other found hfound
    by_cases heq : found = id
    · subst heq
      exact ⟨conn.withLifecycle (Lifecycle.pin .clear), by simp, rfl⟩
    · have hne : other ≠ op := by
        rintro rfl
        simp only [Function.update_self, hpin] at hfound
        exact heq (Option.some.inj hfound).symm
      simp only [Function.update_of_ne hne] at hfound
      simpa [heq] using h.pinned hfound
  · intro left right found hleft hright
    by_cases hl : left = op
    · by_cases hr : right = op
      · rw [hl, hr]
      · subst hl
        simp only [Function.update_self, Function.update_of_ne hr] at hleft hright
        rw [hpin] at hleft
        obtain rfl := Option.some.inj hleft
        exact (hother hright).elim
    · by_cases hr : right = op
      · subst hr
        simp only [Function.update_self, Function.update_of_ne hl] at hleft hright
        rw [hpin] at hright
        obtain rfl := Option.some.inj hright
        exact (hother hleft).elim
      · simp only [Function.update_of_ne hl, Function.update_of_ne hr] at hleft hright
        exact h.exclusive hleft hright
  · intro other found target hfound htarget hinterrupting
    by_cases heq : other = op
    · subst heq
      simp only [Function.update_self] at hinterrupting
      exact (hquiet hinterrupting).elim
    · simp only [Function.update_of_ne heq] at hfound hinterrupting
      have hne : found ≠ id := fun hsame => hother (hsame ▸ hfound)
      exact h.discarded hfound (by simpa [hne] using htarget) hinterrupting
  · intro other found hfound
    by_cases heq : other = id
    · subst heq
      obtain rfl : conn.withLifecycle (Lifecycle.pin .clear) = found := by
        simpa using hfound
      exact fun _ => rfl
    · exact h.separate (by simpa [heq] using hfound)

/-- The pin is given back. -/
theorem dropPin {op : OperationId} {id : ConnId} {conn : Conn}
    {next : Operation} (h : Pinned operations conns)
    (hconn : conns id = some conn) (hform : next.Wellformed)
    (hbefore : (operations op).pin = some id) (hpin : next.pin = none) :
    Pinned (Function.update operations op next)
      (Function.update conns id
        (some (conn.withLifecycle conn.lifecycle.unpin))) := by
  have hother : ∀ {other found},
      (Function.update operations op next other).pin = some found →
        other ≠ op ∧ found ≠ id ∧ (operations other).pin = some found := by
    intro other found hfound
    have hne : other ≠ op := by
      rintro rfl
      simp [hpin] at hfound
    simp only [Function.update_of_ne hne] at hfound
    refine ⟨hne, ?_, hfound⟩
    rintro rfl
    exact hne (h.exclusive hfound hbefore)
  refine ⟨?_, ?_, ?_, ?_, ?_⟩
  · intro other
    by_cases heq : other = op
    · subst heq
      simpa using hform
    · simpa [heq] using h.wellformed other
  · intro other found hfound
    obtain ⟨-, hne, hpinned⟩ := hother hfound
    simpa [hne] using h.pinned hpinned
  · intro left right found hleft hright
    exact h.exclusive (hother hleft).2.2 (hother hright).2.2
  · intro other found target hfound htarget hinterrupting
    obtain ⟨hop, hne, hpinned⟩ := hother hfound
    simp only [Function.update_of_ne hop] at hinterrupting
    exact h.discarded hpinned (by simpa [hne] using htarget) hinterrupting
  · intro other found hfound hpinned
    by_cases heq : other = id
    · subst heq
      obtain rfl : conn.withLifecycle conn.lifecycle.unpin = found := by
        simpa using hfound
      simp at hpinned
    · exact h.separate (by simpa [heq] using hfound) hpinned

/-- `sqli_destroy` frees no pinned connection. -/
theorem destroyConn {n : Nat} {s : State n} {id : ConnId} {conn : Conn}
    (h : Pinned s.operations s.conns) (hconn : s.conns id = some conn) :
    Pinned (s.destroyConn id conn).operations
      (s.destroyConn id conn).conns := by
  unfold State.destroyConn
  split
  · exact h
  · rename_i hpinned
    apply h.replace
    · intro other hother
      rw [hconn] at hother
      obtain rfl := Option.some.inj hother
      simpa using hpinned
    · intro other hnone
      cases hnone

end Pinned

/-! Every step keeps pins and operations together. -/

theorem OperationStep.pinned {n : Nat} {s next : State n} {event : Event n}
    (h : Pinned s.operations s.conns) (hstep : OperationStep s event next) :
    Pinned next.operations next.conns := by
  cases hstep with
  | @register op id armed conn taken word hfree hpublished hconn hregister =>
      obtain ⟨hfresh, hclear, rfl, rfl⟩ :=
        Operation.register_eq_some hregister
      have hattempted := ((h.wellformed op).fresh_idle hfresh).2
      refine h.takePin hconn hclear
        (Operation.register_wellformed (h.wellformed op) hfresh id armed)
        ?_ rfl ?_
      · simp [Operation.pin, hfree, hfresh]
      · simp [Interrupting, Operation.withHold, hattempted]
  | @registered op id armed conn hhold hconn =>
      have hform := h.wellformed op
      obtain ⟨hattempted, hquiet⟩ :=
        Operation.registered_attempted (s.operations op) id armed conn
      have hidle := (hform.fresh_idle (hform.registering_fresh hhold)).2
      refine h.setOperation (Operation.registered_wellformed hform hhold conn)
        ?_ ?_
      · rw [Operation.registered_pin]
        simp [Operation.pin, hhold]
      · rintro - - - - (⟨other, hother⟩ | hsent)
        · exact (hquiet other hother).elim
        · simp [hattempted, hidle] at hsent
  | @unpin op id conn hhold hconn =>
      have hform := h.wellformed op
      refine h.dropPin hconn (Operation.unpin_wellformed hform hhold) ?_ ?_
      · simp [Operation.pin, hhold]
      · have hover := hform.unpinning_over hhold
        simp [Operation.pin, Operation.withHold, hover]
  | @arm op armed hfree harm hquiet =>
      obtain ⟨id, hpin, hsame, hform, -, hattempted, -⟩ :=
        Operation.arm_spec (h.wellformed op) hfree harm
      refine h.setOperation hform (hsame.trans hpin.symm) ?_
      simp [Interrupting, hquiet, hattempted]
  | @armInterrupt op armed id conn hfree harm hhold hconn =>
      obtain ⟨pinned, hpin, hsame, hform, -, -, hshape⟩ :=
        Operation.arm_spec (h.wellformed op) hfree harm
      obtain rfl : id = pinned := by simpa [hhold] using hshape
      exact h.setBoth hconn hpin hform hsame rfl rfl (fun _ => rfl)
        (fun _ => rfl)
  | @request op hfree hquiet =>
      obtain ⟨hsame, hform, hattempted, -⟩ :=
        Operation.request_spec (h.wellformed op) hfree
      refine h.setOperation hform hsame ?_
      intro id conn hpin hconn hinterrupting
      apply h.discarded (hsame ▸ hpin) hconn
      simpa [Interrupting, hquiet, hattempted, hfree] using hinterrupting
  | @requestInterrupt op id conn hfree hhold hconn =>
      obtain ⟨hsame, hform, -, hshape⟩ :=
        Operation.request_spec (h.wellformed op) hfree
      obtain ⟨hpin, -⟩ : (s.operations op).pin = some id ∧ _ := by
        simpa [hhold] using hshape
      exact h.setBoth hconn hpin hform (hsame.trans hpin) rfl rfl
        (fun _ => rfl) (fun _ => rfl)
  | @interrupt op id status hhold =>
      obtain ⟨hpin, hform⟩ :=
        Operation.interrupt_spec (h.wellformed op) hhold status
      have hbefore : (s.operations op).pin = some id := by
        simp [Operation.pin, hhold]
      refine h.setOperation hform (hpin.trans hbefore.symm) ?_
      intro other conn hother hconn _
      exact h.discarded (hbefore.trans (hpin.symm.trans hother)) hconn
        (Or.inl ⟨id, hhold⟩)
  | @executionDiscard op id conn hactive hbound hconn =>
      exact h.discardGate hconn rfl
  | @finish op id conn status hfree hactive hbound hconn =>
      have hpin : (s.operations op).pin = some id := by
        simp [Operation.pin, hfree, hactive, hbound]
      obtain ⟨hsame, hform⟩ :=
        Operation.finish_spec (h.wellformed op) hactive hbound status conn
      refine h.setBoth hconn hpin hform hsame ?_ ?_ ?_ ?_
      · split <;> rfl
      · split <;> rfl
      · intro hset
        split
        · rfl
        · exact hset
      · intro hinterrupting
        have hset := h.discarded hpin hconn (by
          simpa [Interrupting, Operation.finish] using Or.inr hinterrupting)
        split
        · rfl
        · exact hset
  | @dispose op id unknown conn outcome hhold hconn =>
      have hpin : (s.operations op).pin = some id := by
        simp [Operation.pin, hhold]
      obtain ⟨hsame, hform⟩ :=
        Operation.dispose_spec (h.wellformed op) unknown conn outcome
      refine h.setBoth hconn hpin hform hsame ?_ ?_ ?_ ?_
      · split <;> rfl
      · split <;> rfl
      · intro hset
        simp [hset]
      · intro hinterrupting
        have hset := h.discarded hpin hconn (by
          simpa [Interrupting, Operation.dispose] using Or.inr hinterrupting)
        simp [hset]

theorem ClientStep.pinned {n : Nat} {s next : State n} {event : Event n}
    (h : Pinned s.operations s.conns) (hfresh : s.conns s.nextConn = none)
    (hstep : ClientStep s event next) :
    Pinned next.operations next.conns := by
  cases hstep with
  | create =>
      apply h.replace
      · simp [hfresh]
      · rintro _ ⟨⟩
        rfl
  | @connect id conn next hpublished hconn hchecked =>
      have hsame : next.lifecycle = conn.lifecycle := by
        have hkept := conn.admitConnect_lifecycle
        rwa [hchecked] at hkept
      exact h.keepGate hconn hsame
  | @connectRefused id conn next status hpublished hconn hchecked hrefused =>
      have hsame : next.lifecycle = conn.lifecycle := by
        have hkept := conn.admitConnect_lifecycle
        rwa [hchecked] at hkept
      exact h.keepGate hconn hsame
  | work state socket sqlcode hpublished hconn howned =>
      exact h.keepGate hconn rfl
  | destroy hpublished hconn hpooled => exact h.destroyConn hconn

theorem AcquireStep.pinned {n : Nat} {s next : State n} {event : Event n}
    (h : Pinned s.operations s.conns) (hfresh : s.conns s.nextConn = none)
    (hstep : AcquireStep s event next) :
    Pinned next.operations next.conns := by
  cases hstep with
  | take | wait | probeAlive | probeUnusable | keep | dropNone | openFailed
  | fail | hand => exact h
  | probeDead hhold hslot hconn husable => exact h.destroyConn hconn
  | clear hhold hconn =>
      refine h.setConn hconn ?_ ?_ ?_
      · rfl
      · exact id
      · exact fun _ => rfl
  | drop hpending hslot hconn husable => exact h.destroyConn hconn
  | openConnected transport hopening =>
      apply h.replace
      · simp [hfresh]
      · rintro _ ⟨⟩
        rfl
  | abandon hhold hdone hshutting hslot hconn => exact h.destroyConn hconn

/-- The word `sqli_pool_release` expects was read without the pin. -/
def PoolHold.Unpinned {n : Nat} : PoolHold n → Prop
  | .releasing _ _ _ expected => expected.pinned = false
  | _ => True

theorem ReleaseStep.pinned {n : Nat} {s next : State n} {event : Event n}
    (h : Pinned s.operations s.conns) (hunpinned : s.hold.Unpinned)
    (hstep : ReleaseStep s event next) :
    Pinned next.operations next.conns := by
  have hswap : ∀ {holder slot id expected word} {conn : Conn},
      s.hold = .releasing holder slot id expected → s.conns id = some conn →
      conn.lifecycle.compareExchange expected expected.release = some word →
      Pinned s.operations
        (Function.update s.conns id (some (conn.withLifecycle word))) := by
    intro holder slot id expected word conn hhold hconn hexchange
    obtain ⟨hsame, rfl⟩ := Lifecycle.compareExchange_eq_some.mp hexchange
    have hclear : expected.pinned = false := by
      simpa [PoolHold.Unpinned, hhold] using hunpinned
    refine h.setConn hconn ?_ ?_ ?_
    · simp [hsame]
    · simp [hsame]
    · simp [hclear]
  cases hstep with
  | enter | refuse | stale | swapFailed => exact h
  | swap hhold hconn hexchange _ => exact hswap hhold hconn hexchange
  | swapDiscarded hhold hconn hexchange _ => exact hswap hhold hconn hexchange
  | discard outcome hhold hconn _ => exact h.discardGate hconn rfl
  | discardFailed outcome hhold hconn _ => exact h.discardGate hconn rfl
  | restore hhold hconn =>
      refine h.setConn hconn ?_ ?_ ?_
      · rfl
      · exact id
      · exact fun _ => rfl

theorem DestroyStep.pinned {n : Nat} {s next : State n} {event : Event n}
    (h : Pinned s.operations s.conns) (hstep : DestroyStep s event next) :
    Pinned next.operations next.conns := by
  cases hstep with
  | refuse | shutdown => exact h
  | @teardown slot id conn outcome hshutting hslot hconn _ =>
      have hkept : Pinned (s.setConn id (conn.discard outcome).2).operations
          (s.setConn id (conn.discard outcome).2).conns :=
        h.discardGate hconn rfl
      exact hkept.destroyConn (by simp [State.setConn])
  | teardownFailed outcome hshutting hslot hconn _ =>
      exact h.discardGate hconn rfl

end Lease

end Libsqli
