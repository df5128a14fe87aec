import Libsqli.Status
import Mathlib.Tactic.Common

namespace Libsqli

/-- The bits of `conn->lifecycle`: the lease gate of a connection. -/
structure Lifecycle where
  pinned : Bool
  discarded : Bool
  released : Bool
  deriving DecidableEq

/-- `sqli_conn_state` -/
inductive ConnState where
  | closed
  | connecting
  | handshake
  | version
  | info
  | auth
  | dbopen
  | ready
  | error
  deriving DecidableEq

/-- The address family of an open socket. -/
inductive Transport where
  | tcp
  | unix
  deriving DecidableEq

namespace Lifecycle

/-- The word with no bit set. -/
def clear : Lifecycle := ⟨false, false, false⟩

/-- A compare-and-swap: the new word is stored only over the expected one. -/
def compareExchange (word expected new : Lifecycle) : Option Lifecycle :=
  if word = expected then some new else none

def pin (word : Lifecycle) : Lifecycle := { word with pinned := true }

def unpin (word : Lifecycle) : Lifecycle := { word with pinned := false }

def discard (word : Lifecycle) : Lifecycle := { word with discarded := true }

def release (word : Lifecycle) : Lifecycle := { word with released := true }

def unrelease (word : Lifecycle) : Lifecycle := { word with released := false }

theorem compareExchange_eq_some {word expected new stored : Lifecycle} :
    compareExchange word expected new = some stored ↔
      word = expected ∧ stored = new := by
  simp [compareExchange, eq_comm]

@[simp] theorem pin_discarded (word : Lifecycle) :
    word.pin.discarded = word.discarded := rfl

@[simp] theorem pin_released (word : Lifecycle) :
    word.pin.released = word.released := rfl

@[simp] theorem pin_pinned (word : Lifecycle) : word.pin.pinned = true := rfl

@[simp] theorem unpin_discarded (word : Lifecycle) :
    word.unpin.discarded = word.discarded := rfl

@[simp] theorem unpin_released (word : Lifecycle) :
    word.unpin.released = word.released := rfl

@[simp] theorem unpin_pinned (word : Lifecycle) :
    word.unpin.pinned = false := rfl

@[simp] theorem discard_discarded (word : Lifecycle) :
    word.discard.discarded = true := rfl

@[simp] theorem discard_released (word : Lifecycle) :
    word.discard.released = word.released := rfl

@[simp] theorem discard_pinned (word : Lifecycle) :
    word.discard.pinned = word.pinned := rfl

@[simp] theorem release_discarded (word : Lifecycle) :
    word.release.discarded = word.discarded := rfl

@[simp] theorem release_released (word : Lifecycle) :
    word.release.released = true := rfl

@[simp] theorem release_pinned (word : Lifecycle) :
    word.release.pinned = word.pinned := rfl

@[simp] theorem unrelease_discarded (word : Lifecycle) :
    word.unrelease.discarded = word.discarded := rfl

@[simp] theorem unrelease_released (word : Lifecycle) :
    word.unrelease.released = false := rfl

@[simp] theorem unrelease_pinned (word : Lifecycle) :
    word.unrelease.pinned = word.pinned := rfl

end Lifecycle

/-- The part of `struct sqli_conn` that the lease gate, the pool and a
cancellation read. -/
structure Conn where
  lifecycle : Lifecycle
  state : ConnState
  socket : Option Transport
  sqlcode : Int32
  deriving DecidableEq

namespace Conn

/-- `sqli_create` -/
def create : Conn := ⟨.clear, .closed, none, 0⟩

/-- A connection after a successful `sqli_connect`. -/
def connected (transport : Transport) : Conn :=
  ⟨.clear, .ready, some transport, 0⟩

def withLifecycle (conn : Conn) (word : Lifecycle) : Conn :=
  { conn with lifecycle := word }

@[simp] theorem withLifecycle_lifecycle (conn : Conn) (word : Lifecycle) :
    (conn.withLifecycle word).lifecycle = word := rfl

/-- The prechecks of `sqli_connect`: the lease gate first, then the state. -/
def admitConnect (conn : Conn) : Status × Conn :=
  if conn.lifecycle ≠ .clear then (.invalidState, conn)
  else if conn.state ≠ .closed then
    (.invalidState, { conn with sqlcode := 0 })
  else (.ok, { conn with state := .connecting, sqlcode := 0 })

/-- `is_tcp_connection` -/
def isTcpConnection (conn : Conn) : Bool :=
  conn.state = .ready && conn.socket = some .tcp

/-- The test of a pooled connection before its socket is probed. -/
def usable (conn : Conn) : Bool :=
  !conn.lifecycle.discarded && conn.state = .ready && conn.socket.isSome

/-- `sqli_tcp_discard`: there is nothing to do without a descriptor. -/
def tcpDiscard (socket : Option Transport) (outcome : Status) : Status :=
  if socket.isNone then .ok else outcome

/-- `sqli_conn_discard`; a descriptor still registered with TLS is kept. -/
def discard (conn : Conn) (outcome : Status) : Status × Conn :=
  let status := tcpDiscard conn.socket outcome
  (status, ⟨conn.lifecycle.discard, .error,
    if status = .err then conn.socket else none, conn.sqlcode⟩)

@[simp] theorem discard_lifecycle (conn : Conn) (outcome : Status) :
    (conn.discard outcome).2.lifecycle = conn.lifecycle.discard := rfl

theorem admitConnect_lifecycle (conn : Conn) :
    conn.admitConnect.2.lifecycle = conn.lifecycle := by
  unfold admitConnect
  split
  · rfl
  · split <;> rfl

/-- Any bit of the lease gate makes `sqli_connect` refuse, changing nothing. -/
theorem admitConnect_of_gate {conn : Conn} (hgate : conn.lifecycle ≠ .clear) :
    conn.admitConnect = (.invalidState, conn) := if_pos hgate

theorem admitConnect_ok {conn : Conn} (hok : conn.admitConnect.1 = .ok) :
    conn.lifecycle = .clear ∧ conn.state = .closed := by
  unfold admitConnect at hok
  split at hok
  · cases hok
  · split at hok
    · cases hok
    · rename_i hgate hstate
      exact ⟨not_not.mp hgate, not_not.mp hstate⟩

theorem usable_iff {conn : Conn} :
    conn.usable = true ↔ conn.lifecycle.discarded = false ∧
      conn.state = .ready ∧ ∃ transport, conn.socket = some transport := by
  simp [usable, Option.isSome_iff_exists, and_assoc]

end Conn

end Libsqli
