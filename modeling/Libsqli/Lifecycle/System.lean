import Libsqli.Data.Transition
import Libsqli.Lifecycle.Operation
import Mathlib.Data.Fin.Basic
import Mathlib.Data.List.FinRange
import Mathlib.Logic.Function.Basic

namespace Libsqli.Lease

/-- One caller of the pool: every acquire names the holder of its lease. -/
abbrev Holder := Nat

/-- `sqli_pool_slot` -/
@[ext] structure Slot where
  conn : Option ConnId
  inUse : Bool
  deriving DecidableEq

/-- An acquire that has left the pool's mutex to reconnect its slot. -/
inductive Reconnect where
  | pending
  | opening
  | done (connected : Bool)
  deriving DecidableEq

/-- How far the holder of the pool's mutex has come. -/
inductive PoolHold (n : Nat) where
  | free
  | probing (holder : Holder) (slot : Fin n)
  | clearing (holder : Holder) (slot : Fin n) (conn : ConnId)
  | releasing (holder : Holder) (slot : Fin n) (conn : ConnId)
      (expected : Lifecycle)
  | discarding (holder : Holder) (slot : Fin n) (conn : ConnId)
  | restoring (holder : Holder) (slot : Fin n) (conn : ConnId)
  deriving DecidableEq

/-- The slot a held mutex is about. -/
def PoolHold.slot : PoolHold n → Option (Fin n)
  | .free => none
  | .probing _ slot => some slot
  | .clearing _ slot _ => some slot
  | .releasing _ slot _ _ => some slot
  | .discarding _ slot _ => some slot
  | .restoring _ slot _ => some slot

/-- `find_available_slot_locked` -/
def findAvailable (slots : Fin n → Slot) : Option (Fin n) :=
  (List.finRange n).find? fun slot => !(slots slot).inUse

/-- The slot the scan of `sqli_pool_release` stops at. -/
def findConn (slots : Fin n → Slot) (id : ConnId) : Option (Fin n) :=
  (List.finRange n).find? fun slot => (slots slot).conn = some id

/-- One pool, every connection and every cancel operation.  Freed connections
are `none`.  Two components are only observed: the leases handed out and not
yet returned, by slot, and the connections some application has been given. -/
structure State (n : Nat) where
  conns : ConnId → Option Conn
  nextConn : ConnId
  operations : OperationId → Operation
  slots : Fin n → Slot
  shuttingDown : Bool
  hold : PoolHold n
  reconnects : Fin n → Option (Holder × Reconnect)
  leases : Fin n → Option (Holder × ConnId)
  published : ConnId → Bool

namespace State

@[simp] def setConn (s : State n) (id : ConnId) (conn : Conn) : State n :=
  { s with conns := Function.update s.conns id (some conn) }

/-- `sqli_destroy`, which leaves a pinned connection alone. -/
def destroyConn (s : State n) (id : ConnId) (conn : Conn) : State n :=
  if conn.lifecycle.pinned then s
  else { s with conns := Function.update s.conns id none }

@[simp] def setOperation (s : State n) (id : OperationId) (op : Operation) : State n :=
  { s with operations := Function.update s.operations id op }

@[simp] def setSlot (s : State n) (slot : Fin n) (conn : Option ConnId) (inUse : Bool) :
    State n :=
  { s with slots := Function.update s.slots slot ⟨conn, inUse⟩ }

@[simp] def setHold (s : State n) (hold : PoolHold n) : State n := { s with hold }

@[simp] def setReconnect (s : State n) (slot : Fin n)
    (reconnect : Option (Holder × Reconnect)) : State n :=
  { s with reconnects := Function.update s.reconnects slot reconnect }

/-- The holder may use the connection from here on. -/
@[simp] def grant (s : State n) (slot : Fin n) (holder : Holder) (id : ConnId) :
    State n :=
  { s with
    leases := Function.update s.leases slot (some (holder, id))
    published := Function.update s.published id true }

@[simp] def revoke (s : State n) (slot : Fin n) : State n :=
  { s with leases := Function.update s.leases slot none }

def Leased (s : State n) (id : ConnId) : Prop :=
  ∃ slot holder, s.leases slot = some (holder, id)

def Pooled (s : State n) (id : ConnId) : Prop :=
  ∃ slot, (s.slots slot).conn = some id

/-- An application may work on a pooled connection only under a lease. -/
def Owned (s : State n) (id : ConnId) : Prop := s.Leased id ∨ ¬ s.Pooled id

end State

/-- What a step does that an observer can name. -/
inductive Event (n : Nat) where
  | internal
  | connect (id : ConnId)
  | register (op : OperationId) (id : ConnId)
  | send (op : OperationId) (id : ConnId)
  | unpin (op : OperationId) (id : ConnId)
  | handOut (slot : Fin n) (holder : Holder) (id : ConnId)
  | reconnectFailed (slot : Fin n)
  | returned (slot : Fin n) (holder : Holder) (id : ConnId)
  | refused (slot : Fin n) (holder : Holder) (id : ConnId)
  | destroy
  | destroyRefused
  deriving DecidableEq

/-! Steps of the application on a connection it has been given. -/

inductive ClientStep (s : State n) : Event n → State n → Prop where
  | create :
      ClientStep s .internal
        { s.setConn s.nextConn .create with
          nextConn := s.nextConn + 1
          published := Function.update s.published s.nextConn true }
  | connect {id : ConnId} {conn next : Conn} :
      s.published id = true → s.conns id = some conn →
        conn.admitConnect = (.ok, next) →
          ClientStep s (.connect id) (s.setConn id next)
  | connectRefused {id : ConnId} {conn next : Conn} {status : Status} :
      s.published id = true → s.conns id = some conn →
        conn.admitConnect = (status, next) → status ≠ .ok →
          ClientStep s .internal (s.setConn id next)
  -- the rest of `sqli_connect`, statements, `sqli_close`: no lifecycle bit
  | work {id : ConnId} {conn : Conn} (state : ConnState)
      (socket : Option Transport) (sqlcode : Int32) :
      s.published id = true → s.conns id = some conn → s.Owned id →
        ClientStep s .internal
          (s.setConn id ⟨conn.lifecycle, state, socket, sqlcode⟩)
  | destroy {id : ConnId} {conn : Conn} :
      s.published id = true → s.conns id = some conn → ¬ s.Pooled id →
        ClientStep s .internal (s.destroyConn id conn)

/-! Steps of the cancel operations, each under the operation's mutex. -/

inductive OperationStep (s : State n) : Event n → State n → Prop where
  | register {op : OperationId} {id : ConnId} {armed : Bool} {conn : Conn}
      {next : Operation} {word : Lifecycle} :
      (s.operations op).hold = .free → s.published id = true →
        s.conns id = some conn →
          (s.operations op).register id armed conn.lifecycle =
            some (next, word) →
            OperationStep s (.register op id)
              ((s.setConn id (conn.withLifecycle word)).setOperation op next)
  | registered {op : OperationId} {id : ConnId} {armed : Bool} {conn : Conn} :
      (s.operations op).hold = .registering id armed →
        s.conns id = some conn →
          OperationStep s .internal
            (s.setOperation op ((s.operations op).registered id armed conn))
  | unpin {op : OperationId} {id : ConnId} {conn : Conn} :
      (s.operations op).hold = .unpinning id → s.conns id = some conn →
        OperationStep s (.unpin op id)
          ((s.setConn id (conn.withLifecycle conn.lifecycle.unpin)).setOperation
            op ((s.operations op).withHold .free))
  | arm {op : OperationId} {next : Operation} :
      (s.operations op).hold = .free → (s.operations op).arm = some next →
        next.hold = .free → OperationStep s .internal (s.setOperation op next)
  | armInterrupt {op : OperationId} {next : Operation} {id : ConnId}
      {conn : Conn} :
      (s.operations op).hold = .free → (s.operations op).arm = some next →
        next.hold = .interrupting id → s.conns id = some conn →
          OperationStep s .internal
            ((s.setConn id
              (conn.withLifecycle conn.lifecycle.discard)).setOperation op next)
  | request {op : OperationId} :
      (s.operations op).hold = .free →
        (s.operations op).request.2.hold = .free →
          OperationStep s .internal
            (s.setOperation op (s.operations op).request.2)
  | requestInterrupt {op : OperationId} {id : ConnId} {conn : Conn} :
      (s.operations op).hold = .free →
        (s.operations op).request.2.hold = .interrupting id →
          s.conns id = some conn →
            OperationStep s .internal
              ((s.setConn id
                (conn.withLifecycle conn.lifecycle.discard)).setOperation op
                  (s.operations op).request.2)
  | interrupt {op : OperationId} {id : ConnId} (status : Status) :
      (s.operations op).hold = .interrupting id →
        OperationStep s (.send op id)
          (s.setOperation op ((s.operations op).interrupt status))
  -- `sqli_execute_cancelable` on a reply it could not use, outside the mutex
  | executionDiscard {op : OperationId} {id : ConnId} {conn : Conn} :
      (s.operations op).state = .active →
        (s.operations op).connection = some id → s.conns id = some conn →
          OperationStep s .internal
            (s.setConn id (conn.withLifecycle conn.lifecycle.discard))
  | finish {op : OperationId} {id : ConnId} {conn : Conn} (status : Status) :
      (s.operations op).hold = .free → (s.operations op).state = .active →
        (s.operations op).connection = some id → s.conns id = some conn →
          OperationStep s .internal
            ((s.setConn id (conn.withLifecycle
              (if (s.operations op).responseUnknown status conn then
                conn.lifecycle.discard
              else conn.lifecycle))).setOperation op
                ((s.operations op).finish id status conn))
  | dispose {op : OperationId} {id : ConnId} {unknown : Bool} {conn : Conn}
      (outcome : Status) :
      (s.operations op).hold = .finishing id unknown →
        s.conns id = some conn →
          OperationStep s .internal
            ((s.setConn id
              (if conn.lifecycle.discarded then (conn.discard outcome).2
              else conn)).setOperation op
                ((s.operations op).dispose id unknown conn outcome))

/-! Steps of `sqli_pool_acquire_timeout`. -/

inductive AcquireStep (s : State n) : Event n → State n → Prop where
  | take {holder : Holder} {slot : Fin n} :
      s.hold = .free → s.shuttingDown = false →
        findAvailable s.slots = some slot →
          AcquireStep s .internal
            ((s.setSlot slot (s.slots slot).conn true).setHold
              (.probing holder slot))
  -- every slot in use, or the pool shutting down: wait, time out or give up
  | wait :
      s.hold = .free →
        s.shuttingDown = true ∨ findAvailable s.slots = none →
          AcquireStep s .internal s
  | probeAlive {holder : Holder} {slot : Fin n} {id : ConnId} {conn : Conn} :
      s.hold = .probing holder slot → (s.slots slot).conn = some id →
        s.conns id = some conn → conn.usable = true →
          AcquireStep s .internal (s.setHold (.clearing holder slot id))
  | probeDead {holder : Holder} {slot : Fin n} {id : ConnId} {conn : Conn} :
      s.hold = .probing holder slot → (s.slots slot).conn = some id →
        s.conns id = some conn → conn.usable = true →
          AcquireStep s .internal
            ((((s.destroyConn id conn).setSlot slot none true).setHold
              .free).setReconnect slot (some (holder, .pending)))
  | probeUnusable {holder : Holder} {slot : Fin n} :
      s.hold = .probing holder slot →
        (∀ id conn, (s.slots slot).conn = some id → s.conns id = some conn →
          conn.usable = false) →
          AcquireStep s .internal
            ((s.setHold .free).setReconnect slot (some (holder, .pending)))
  | clear {holder : Holder} {slot : Fin n} {id : ConnId} {conn : Conn} :
      s.hold = .clearing holder slot id → s.conns id = some conn →
        AcquireStep s (.handOut slot holder id)
          (((s.setConn id
            (conn.withLifecycle conn.lifecycle.unrelease)).grant slot holder
              id).setHold .free)
  -- `ensure_slot_connected`, outside the mutex
  | keep {holder : Holder} {slot : Fin n} {id : ConnId} {conn : Conn} :
      s.reconnects slot = some (holder, .pending) →
        (s.slots slot).conn = some id → s.conns id = some conn →
          conn.usable = true →
            AcquireStep s .internal
              (s.setReconnect slot (some (holder, .done true)))
  | drop {holder : Holder} {slot : Fin n} {id : ConnId} {conn : Conn} :
      s.reconnects slot = some (holder, .pending) →
        (s.slots slot).conn = some id → s.conns id = some conn →
          conn.usable = false →
            AcquireStep s .internal
              (((s.destroyConn id conn).setSlot slot none
                (s.slots slot).inUse).setReconnect slot
                  (some (holder, .opening)))
  | dropNone {holder : Holder} {slot : Fin n} :
      s.reconnects slot = some (holder, .pending) →
        (s.slots slot).conn = none →
          AcquireStep s .internal
            (s.setReconnect slot (some (holder, .opening)))
  | openFailed {holder : Holder} {slot : Fin n} :
      s.reconnects slot = some (holder, .opening) →
        AcquireStep s .internal
          (s.setReconnect slot (some (holder, .done false)))
  | openConnected {holder : Holder} {slot : Fin n} (transport : Transport) :
      s.reconnects slot = some (holder, .opening) →
        AcquireStep s .internal
          { ((s.setConn s.nextConn (.connected transport)).setSlot slot
              (some s.nextConn) (s.slots slot).inUse).setReconnect slot
                (some (holder, .done true)) with
            nextConn := s.nextConn + 1 }
  -- back under the mutex
  | abandon {holder : Holder} {slot : Fin n} {id : ConnId} {conn : Conn} :
      s.hold = .free → s.reconnects slot = some (holder, .done true) →
        s.shuttingDown = true → (s.slots slot).conn = some id →
          s.conns id = some conn →
            AcquireStep s .internal
              (((s.destroyConn id conn).setSlot slot none false).setReconnect
                slot none)
  | fail {holder : Holder} {slot : Fin n} :
      s.hold = .free → s.reconnects slot = some (holder, .done false) →
        AcquireStep s (.reconnectFailed slot)
          ((s.setSlot slot (s.slots slot).conn false).setReconnect slot none)
  | hand {holder : Holder} {slot : Fin n} {id : ConnId} :
      s.hold = .free → s.reconnects slot = some (holder, .done true) →
        s.shuttingDown = false → (s.slots slot).conn = some id →
          AcquireStep s (.handOut slot holder id)
            ((s.grant slot holder id).setReconnect slot none)

/-! Steps of `sqli_pool_release`, called for a leased connection. -/

inductive ReleaseStep (s : State n) : Event n → State n → Prop where
  | enter {holder : Holder} {lease slot : Fin n} {id : ConnId} {conn : Conn} :
      s.hold = .free → s.leases lease = some (holder, id) →
        findConn s.slots id = some slot → s.conns id = some conn →
          (s.slots slot).inUse = true → conn.lifecycle.pinned = false →
            ReleaseStep s .internal
              (s.setHold (.releasing holder slot id conn.lifecycle))
  | refuse {holder : Holder} {lease slot : Fin n} {id : ConnId} {conn : Conn} :
      s.hold = .free → s.leases lease = some (holder, id) →
        findConn s.slots id = some slot → s.conns id = some conn →
          (s.slots slot).inUse = false ∨ conn.lifecycle.pinned = true →
            ReleaseStep s (.refused slot holder id) s
  -- no lease any more: the connection is unknown or its slot is free
  | stale {id : ConnId} :
      s.hold = .free →
        (∀ slot, findConn s.slots id = some slot →
          (s.slots slot).inUse = false) →
          ReleaseStep s .internal s
  | swapFailed {holder : Holder} {slot : Fin n} {id : ConnId} {conn : Conn}
      {expected : Lifecycle} :
      s.hold = .releasing holder slot id expected → s.conns id = some conn →
        conn.lifecycle.compareExchange expected expected.release = none →
          ReleaseStep s (.refused slot holder id) (s.setHold .free)
  | swap {holder : Holder} {slot : Fin n} {id : ConnId} {conn : Conn}
      {expected word : Lifecycle} :
      s.hold = .releasing holder slot id expected → s.conns id = some conn →
        conn.lifecycle.compareExchange expected expected.release = some word →
          expected.discarded = false →
            ReleaseStep s (.returned slot holder id)
              ((((s.setConn id (conn.withLifecycle word)).setSlot slot
                (s.slots slot).conn false).revoke slot).setHold .free)
  | swapDiscarded {holder : Holder} {slot : Fin n} {id : ConnId} {conn : Conn}
      {expected word : Lifecycle} :
      s.hold = .releasing holder slot id expected → s.conns id = some conn →
        conn.lifecycle.compareExchange expected expected.release = some word →
          expected.discarded = true →
            ReleaseStep s .internal
              ((s.setConn id (conn.withLifecycle word)).setHold
                (.discarding holder slot id))
  | discard {holder : Holder} {slot : Fin n} {id : ConnId} {conn : Conn}
      (outcome : Status) :
      s.hold = .discarding holder slot id → s.conns id = some conn →
        (conn.discard outcome).1 = .ok →
          ReleaseStep s (.returned slot holder id)
            ((((s.setConn id (conn.discard outcome).2).setSlot slot
              (s.slots slot).conn false).revoke slot).setHold .free)
  | discardFailed {holder : Holder} {slot : Fin n} {id : ConnId} {conn : Conn}
      (outcome : Status) :
      s.hold = .discarding holder slot id → s.conns id = some conn →
        (conn.discard outcome).1 ≠ .ok →
          ReleaseStep s .internal
            ((s.setConn id (conn.discard outcome).2).setHold
              (.restoring holder slot id))
  | restore {holder : Holder} {slot : Fin n} {id : ConnId} {conn : Conn} :
      s.hold = .restoring holder slot id → s.conns id = some conn →
        ReleaseStep s (.refused slot holder id)
          ((s.setConn id
            (conn.withLifecycle conn.lifecycle.unrelease)).setHold .free)

/-! Steps of `sqli_pool_destroy`; the teardown follows the unlocking. -/

inductive DestroyStep (s : State n) : Event n → State n → Prop where
  | refuse {slot : Fin n} :
      s.hold = .free → (s.slots slot).inUse = true →
        DestroyStep s .destroyRefused s
  | shutdown :
      s.hold = .free → (∀ slot, (s.slots slot).inUse = false) →
        DestroyStep s .destroy { s with shuttingDown := true }
  | teardown {slot : Fin n} {id : ConnId} {conn : Conn} (outcome : Status) :
      s.shuttingDown = true → (s.slots slot).conn = some id →
        s.conns id = some conn → (conn.discard outcome).1 = .ok →
          DestroyStep s .internal
            (((s.setConn id (conn.discard outcome).2).destroyConn id
              (conn.discard outcome).2).setSlot slot none false)
  | teardownFailed {slot : Fin n} {id : ConnId} {conn : Conn}
      (outcome : Status) :
      s.shuttingDown = true → (s.slots slot).conn = some id →
        s.conns id = some conn → (conn.discard outcome).1 ≠ .ok →
          DestroyStep s .internal (s.setConn id (conn.discard outcome).2)

/-- One step of any caller. -/
inductive Step (s : State n) (event : Event n) (next : State n) : Prop where
  | client : ClientStep s event next → Step s event next
  | operation : OperationStep s event next → Step s event next
  | acquire : AcquireStep s event next → Step s event next
  | release : ReleaseStep s event next → Step s event next
  | destroy : DestroyStep s event next → Step s event next

/-- `sqli_pool_create`: every slot holds an open connection, marked as lying in
the pool. -/
def poolCreate (n : Nat) (transport : Transport) : State n where
  conns id :=
    if id < n then
      some ((Conn.connected transport).withLifecycle
        (Lifecycle.release .clear))
    else none
  nextConn := n
  operations _ := .create
  slots slot := ⟨some slot.val, false⟩
  shuttingDown := false
  hold := .free
  reconnects _ := none
  leases _ := none
  published _ := false

end Libsqli.Lease
