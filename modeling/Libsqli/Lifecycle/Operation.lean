import Libsqli.Lifecycle.Conn

namespace Libsqli

/-! Connections and operations are known by their addresses. -/

abbrev ConnId := Nat
abbrev OperationId := Nat

/-- `sqli_cancel_disposition` -/
inductive Disposition where
  | latched
  | sent
  | sendFailed
  | alreadyRequested
  | completed
  deriving DecidableEq

/-- `sqli_cancel_outcome` -/
inductive CancelOutcome where
  | notExecuted
  | executed
  | interrupted
  | failed
  | unknown
  deriving DecidableEq

inductive OperationState where
  | fresh
  | active
  | terminal
  deriving DecidableEq

/-- `sqli_cancel_snapshot`; of the diagnostic only the SQLCODE. -/
structure Snapshot where
  started : Bool
  requested : Bool
  sendAttempted : Bool
  sendStatus : Status
  operationStatus : Status
  disposalStatus : Status
  diagnostic : Int32
  outcome : CancelOutcome
  connectionDiscarded : Bool

/-- How far the holder of the operation's mutex has come.  One step of the model
makes at most one access to a word another thread may change, so a call that
makes several is suspended between them. -/
inductive OperationHold where
  | free
  | registering (conn : ConnId) (armed : Bool)
  | interrupting (conn : ConnId)
  | finishing (conn : ConnId) (responseUnknown : Bool)
  | unpinning (conn : ConnId)
  deriving DecidableEq

/-- `struct sqli_cancel_operation` -/
structure Operation where
  hold : OperationHold
  state : OperationState
  connection : Option ConnId
  armed : Bool
  snapshot : Snapshot

namespace Operation

/-- `sqli_cancel_operation_create` -/
def create : Operation where
  hold := .free
  state := .fresh
  connection := none
  armed := false
  snapshot := ⟨false, false, false, .ok, .invalidState, .ok, 0, .notExecuted,
    false⟩

def withHold (op : Operation) (hold : OperationHold) : Operation :=
  { op with hold }

def setArmed (op : Operation) : Operation := { op with armed := true }

def latch (op : Operation) : Operation :=
  { op with snapshot := { op.snapshot with requested := true } }

/-- `register_operation` up to its compare-and-swap. -/
def register (op : Operation) (id : ConnId) (armed : Bool) (word : Lifecycle) :
    Option (Operation × Lifecycle) :=
  if op.state = .fresh then
    (word.compareExchange .clear (Lifecycle.pin .clear)).map
      (op.withHold (.registering id armed), ·)
  else none

/-- `register_operation` after its compare-and-swap: a connection that cannot
be interrupted and an operation already canceled give the pin back. -/
def registered (op : Operation) (id : ConnId) (armed : Bool) (conn : Conn) :
    Operation :=
  if !conn.isTcpConnection then op.withHold (.unpinning id)
  else if op.snapshot.requested then
    { op with
      hold := .unpinning id
      state := .terminal
      snapshot := { op.snapshot with
        operationStatus := .canceled
        outcome := .notExecuted } }
  else
    { op with
      hold := .free
      state := .active
      connection := some id
      armed := armed
      snapshot := { op.snapshot with started := true } }

/-- The way into `send_interrupt_locked`. -/
def beginInterrupt (op : Operation) : Operation :=
  match op.connection with
  | some id => op.withHold (.interrupting id)
  | none => op

/-- The urgent send of `send_interrupt_locked`. -/
def interrupt (op : Operation) (status : Status) : Operation :=
  { op with
    hold := .free
    snapshot := { op.snapshot with
      sendAttempted := true
      sendStatus := status } }

/-- `sqli_cancel_operation_arm` up to the urgent send. -/
def arm (op : Operation) : Option Operation :=
  if op.state ≠ .active ∨ op.armed then none
  else if op.snapshot.requested then some op.setArmed.beginInterrupt
  else some op.setArmed

/-- `sqli_cancel_operation_request` up to the urgent send, whose status decides
the disposition that is still open. -/
def request (op : Operation) : Option Disposition × Operation :=
  if op.state = .terminal then (some .completed, op)
  else if op.snapshot.requested then (some .alreadyRequested, op)
  else if op.state = .fresh ∨ op.armed = false then (some .latched, op.latch)
  else (none, op.latch.beginInterrupt)

/-- An execution that failed without a server diagnostic tells nothing. -/
def responseUnknown (op : Operation) (status : Status) (conn : Conn) : Bool :=
  op.armed && status ≠ .ok && conn.sqlcode = 0

/-- `sqli_cancel_operation_finish` up to its marking of the connection. -/
def finish (op : Operation) (id : ConnId) (status : Status) (conn : Conn) :
    Operation :=
  { op with
    hold := .finishing id (op.responseUnknown status conn)
    snapshot := { op.snapshot with
      operationStatus := status
      diagnostic := conn.sqlcode } }

def finishOutcome (status : Status) (sqlcode : Int32) (responseUnknown : Bool) :
    CancelOutcome :=
  if status = .ok then .executed
  else if sqlcode = -213 then .interrupted
  else if responseUnknown ∨ status = .ioError ∨ status = .timeout ∨
      (status = .protoError ∧ sqlcode = 0) then .unknown
  else .failed

/-- The rest of `sqli_cancel_operation_finish` up to the return of the pin; a
discarded connection is torn down first. -/
def dispose (op : Operation) (id : ConnId) (responseUnknown : Bool)
    (conn : Conn) (outcome : Status) : Operation :=
  { op with
    hold := .unpinning id
    state := .terminal
    connection := none
    snapshot := { op.snapshot with
      connectionDiscarded := conn.lifecycle.discarded
      disposalStatus :=
        if conn.lifecycle.discarded then (conn.discard outcome).1
        else op.snapshot.disposalStatus
      outcome := finishOutcome op.snapshot.operationStatus conn.sqlcode
        responseUnknown } }

/-! The connection an operation keeps pinned. -/

def pin (op : Operation) : Option ConnId :=
  match op.hold with
  | .registering id _ => some id
  | .interrupting id => some id
  | .finishing id _ => some id
  | .unpinning id => some id
  | .free => if op.state = .active then op.connection else none

/-- How state, flags and pending call of an operation fit together. -/
structure Wellformed (op : Operation) : Prop where
  fresh_idle : op.state = .fresh →
    op.armed = false ∧ op.snapshot.sendAttempted = false
  active_bound : op.state = .active → ∃ id, op.connection = some id
  registering_fresh : ∀ {id armed}, op.hold = .registering id armed →
    op.state = .fresh
  interrupting_ready : ∀ {id}, op.hold = .interrupting id →
    op.state = .active ∧ op.connection = some id ∧ op.armed = true ∧
      op.snapshot.requested = true ∧ op.snapshot.sendAttempted = false
  finishing_active : ∀ {id unknown}, op.hold = .finishing id unknown →
    op.state = .active ∧ op.connection = some id
  unpinning_over : ∀ {id}, op.hold = .unpinning id → op.state ≠ .active
  attempted_armed : op.snapshot.sendAttempted = true →
    op.armed = true ∧ op.snapshot.requested = true

theorem create_wellformed : create.Wellformed := by
  constructor <;> intros <;> simp_all [create]

theorem pin_of_active {op : Operation} (hform : op.Wellformed)
    (hfree : op.hold = .free) (hactive : op.state = .active) :
    ∃ id, op.connection = some id ∧ op.pin = some id := by
  obtain ⟨id, hid⟩ := hform.active_bound hactive
  exact ⟨id, hid, by simp [pin, hfree, hactive, hid]⟩

/-- An active operation pins the connection it is bound to, also while a call
on it is pending. -/
theorem pin_of_bound {op : Operation} (hform : op.Wellformed)
    (hactive : op.state = .active) {id : ConnId}
    (hbound : op.connection = some id) : op.pin = some id := by
  unfold pin
  split
  · rename_i hhold
    have hfresh := hform.registering_fresh hhold
    simp [hactive] at hfresh
  · rename_i hhold
    exact (hform.interrupting_ready hhold).2.1.symm.trans hbound
  · rename_i hhold
    exact (hform.finishing_active hhold).2.symm.trans hbound
  · rename_i hhold
    exact absurd hactive (hform.unpinning_over hhold)
  · rw [if_pos hactive, hbound]

theorem register_eq_some {op next : Operation} {id : ConnId} {armed : Bool}
    {word stored : Lifecycle}
    (hregister : op.register id armed word = some (next, stored)) :
    op.state = .fresh ∧ word = .clear ∧ stored = Lifecycle.pin .clear ∧
      next = op.withHold (.registering id armed) := by
  unfold register at hregister
  split at hregister
  · rename_i hfresh
    obtain ⟨swapped, hswap, hpair⟩ := Option.map_eq_some_iff.mp hregister
    obtain ⟨rfl, rfl⟩ := Lifecycle.compareExchange_eq_some.mp hswap
    cases hpair
    exact ⟨hfresh, rfl, rfl, rfl⟩
  · cases hregister

end Operation

end Libsqli
