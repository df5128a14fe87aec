import Libsqli.Data.Bytes
import Libsqli.Status

namespace Libsqli.Wire

/-! The outgoing side of a connection. -/

/-- `faults n` decides the outcome of send number `n`: `none` transmits
everything, `some count` fails after at most `count` octets. -/
structure Outgoing where
  fd : Int
  faults : Nat → Option Nat
  calls : Nat
  sent : List UInt8

def Outgoing.transmit (wire : Outgoing) (bytes : List UInt8) : Outgoing :=
  { wire with calls := wire.calls + 1, sent := wire.sent ++ bytes }

/-- The send `index` calls from now transmits everything. -/
def Outgoing.Completes (wire : Outgoing) (index : Nat) : Prop :=
  0 ≤ wire.fd ∧ wire.faults (wire.calls + index) = none

instance (wire : Outgoing) (index : Nat) : Decidable (wire.Completes index) :=
  inferInstanceAs (Decidable (_ ∧ _))

@[simp] theorem Outgoing.transmit_sent
    (wire : Outgoing) (bytes : List UInt8) :
    (wire.transmit bytes).sent = wire.sent ++ bytes := rfl

@[simp] theorem Outgoing.transmit_completes
    (wire : Outgoing) (bytes : List UInt8) (index : Nat) :
    (wire.transmit bytes).Completes index ↔ wire.Completes (index + 1) := by
  simp only [Outgoing.Completes, Outgoing.transmit, Nat.add_assoc, Nat.add_comm 1]

/-- The result says whether every octet was sent. An empty message is an
error of the call. -/
def tcpSend (bytes : List UInt8) (wire : Outgoing) : Bool × Outgoing :=
  if wire.fd < 0 ∨ bytes = [] then (false, wire)
  else match wire.faults wire.calls with
    | none => (true, wire.transmit bytes)
    | some count =>
        (false, wire.transmit (bytes.take (min count (bytes.length - 1))))

theorem tcpSend_completes (hbytes : bytes ≠ []) (hwire : wire.Completes 0) :
    tcpSend bytes wire = (true, wire.transmit bytes) := by
  rcases hwire with ⟨hfd, hfault⟩
  rw [Nat.add_zero] at hfault
  rw [tcpSend, if_neg (by simp [hbytes, hfd]), hfault]

theorem tcpSend_empty (wire : Outgoing) : tcpSend [] wire = (false, wire) := by
  simp [tcpSend]

theorem tcpSend_fails (bytes : List UInt8) (hwire : ¬ wire.Completes 0) :
    (tcpSend bytes wire).1 = false := by
  unfold tcpSend
  split
  · rfl
  · next hguard =>
      cases hfault : wire.faults wire.calls with
      | none => exact absurd ⟨by omega, hfault⟩ hwire
      | some count => rfl

/-! Functions that send until a send they check fails. -/

abbrev Sender := EStateM Status Outgoing

def send (bytes : List UInt8) : Sender Unit := fun wire =>
  match tcpSend bytes wire with
  | (true, after) => .ok () after
  | (false, after) => .error .ioError after

/-- A send whose result the caller ignores. -/
def sendUnchecked (bytes : List UInt8) : Sender Unit := fun wire =>
  .ok () (tcpSend bytes wire).2

def require (outcome : Except Status α) : Sender α := fun wire =>
  match outcome with
  | .ok value => .ok value wire
  | .error status => .error status wire

theorem bind_ok {first : Sender α} (next : α → Sender β)
    (hfirst : first wire = .ok value middle) :
    (first >>= next) wire = next value middle := by
  change EStateM.bind first next wire = _
  simp only [EStateM.bind, hfirst]

theorem bind_error {first : Sender α} (next : α → Sender β)
    (hfirst : first wire = .error status after) :
    (first >>= next) wire = .error status after := by
  change EStateM.bind first next wire = _
  simp only [EStateM.bind, hfirst]

theorem bind_eq_ok {first : Sender α} {next : α → Sender β} :
    (first >>= next) wire = .ok result after ↔
      ∃ value middle, first wire = .ok value middle ∧
        next value middle = .ok result after := by
  change EStateM.bind first next wire = _ ↔ _
  cases hfirst : first wire with
  | ok value middle => simp [EStateM.bind, hfirst]
  | error status middle => simp [EStateM.bind, hfirst]

theorem send_completes (hbytes : bytes ≠ []) (hwire : wire.Completes 0) :
    send bytes wire = .ok () (wire.transmit bytes) := by
  rw [send, tcpSend_completes hbytes hwire]

theorem send_eq_ok :
    send bytes wire = .ok result after ↔
      bytes ≠ [] ∧ wire.Completes 0 ∧ after = wire.transmit bytes := by
  constructor
  · intro hsend
    have hbytes : bytes ≠ [] := by
      rintro rfl
      simp [send, tcpSend_empty] at hsend
    have hwire : wire.Completes 0 := by
      by_contra hfails
      have hresult := tcpSend_fails bytes hfails
      cases houtcome : tcpSend bytes wire with
      | mk complete middle =>
          rw [houtcome] at hresult
          cases hresult
          simp [send, houtcome] at hsend
    rw [send_completes hbytes hwire] at hsend
    cases hsend
    exact ⟨hbytes, hwire, rfl⟩
  · rintro ⟨hbytes, hwire, rfl⟩
    exact send_completes hbytes hwire

/-- The next send puts nothing on the wire. -/
def Outgoing.Refuses (wire : Outgoing) : Prop :=
  wire.fd < 0 ∨ wire.faults wire.calls = some 0

/-- A wire on which every send completes. -/
def openWire : Outgoing where
  fd := 3
  faults := fun _ => none
  calls := 0
  sent := []

theorem openWire_completes (index : Nat) : openWire.Completes index :=
  ⟨by decide, rfl⟩

theorem openWire_accepts : ¬ openWire.Refuses := by
  rintro (hfd | hfault)
  · exact absurd hfd (by decide)
  · cases hfault

theorem send_unsent_iff (hbytes : 1 < bytes.length) :
    (∃ status after, send bytes wire = .error status after ∧
      after.sent = wire.sent) ↔ wire.Refuses := by
  have hnonempty : bytes ≠ [] := List.ne_nil_of_length_pos (by omega)
  unfold send tcpSend Outgoing.Refuses
  by_cases hfd : wire.fd < 0
  · simp [hfd]
  · rw [if_neg (by simp [hfd, hnonempty])]
    cases hfault : wire.faults wire.calls with
    | none => simp [hfd]
    | some count =>
        simp only [EStateM.Result.error.injEq]
        simp [hfd, hnonempty]
        omega

theorem sendUnchecked_octet (hfd : 0 ≤ wire.fd) :
    sendUnchecked [0] wire =
      .ok () (wire.transmit (if wire.Completes 0 then [0] else [])) := by
  have hguard : ¬ (wire.fd < 0 ∨ [(0 : UInt8)] = []) := by simp [hfd]
  simp only [sendUnchecked, tcpSend, if_neg hguard, Outgoing.Completes,
    Nat.add_zero]
  obtain hfault | ⟨count, hfault⟩ :=
    Option.eq_none_or_eq_some (wire.faults wire.calls)
  · simp [hfault, hfd]
  · simp [hfault]

theorem require_eq_ok :
    require outcome wire = .ok value after ↔
      outcome = .ok value ∧ after = wire := by
  cases outcome with
  | ok found => simp [require, eq_comm]
  | error status => simp [require]

/-! What a sender that succeeds has sent. -/

def Delivers (sender : Sender α) (bytes : List UInt8) : Prop :=
  ∀ wire result after, sender wire = .ok result after →
    after.sent = wire.sent ++ bytes

theorem Delivers.send (bytes : List UInt8) :
    Delivers (Wire.send bytes) bytes := by
  intro wire result after hsend
  obtain ⟨-, -, rfl⟩ := send_eq_ok.mp hsend
  rfl

theorem Delivers.pure (value : α) : Delivers (Pure.pure value) [] := by
  intro wire result after hpure
  cases hpure
  simp

theorem Delivers.bind {first : Sender α} {next : α → Sender β}
    (hfirst : Delivers first front) (hnext : ∀ value, Delivers (next value) back) :
    Delivers (first >>= next) (front ++ back) := by
  intro wire result after hrun
  obtain ⟨value, middle, hmiddle, hlast⟩ := bind_eq_ok.mp hrun
  rw [hnext value middle result after hlast,
    hfirst wire value middle hmiddle, List.append_assoc]

/-! Senders that a wire without faults carries to their ends. -/

def Carried (sender : Sender α) : Prop :=
  ∀ wire, (∀ index, wire.Completes index) →
    ∃ value after, sender wire = .ok value after ∧
      ∀ index, after.Completes index

theorem Carried.pure (value : α) : Carried (Pure.pure value) :=
  fun wire hwire => ⟨value, wire, rfl, hwire⟩

theorem Carried.send (hbytes : bytes ≠ []) : Carried (Wire.send bytes) := by
  intro wire hwire
  refine ⟨(), _, send_completes hbytes (hwire 0), fun index => ?_⟩
  exact (wire.transmit_completes bytes index).mpr (hwire (index + 1))

theorem Carried.bind {first : Sender α} {next : α → Sender β}
    (hfirst : Carried first) (hnext : ∀ value, Carried (next value)) :
    Carried (first >>= next) := by
  intro wire hwire
  obtain ⟨value, middle, hrun, hmiddle⟩ := hfirst wire hwire
  rw [bind_ok next hrun]
  exact hnext value middle hmiddle

/-! Sending while every send completes. -/

variable {wire : Outgoing} {bytes front back : List UInt8}

def Outgoing.Open (wire : Outgoing) : Prop := ∀ index, wire.Completes index

theorem Outgoing.Open.transmit (hwire : wire.Open) (bytes : List UInt8) :
    (wire.transmit bytes).Open := fun index =>
  (Outgoing.transmit_completes wire bytes index).mpr (hwire (index + 1))

theorem openWire_open : openWire.Open := openWire_completes

/-- The sender returns, and `bytes` is what it has sent. -/
def Sends (sender : Sender Unit) (bytes : List UInt8) : Prop :=
  ∀ wire : Outgoing, wire.Open → ∃ after, sender wire = .ok () after ∧
    after.Open ∧ after.sent = wire.sent ++ bytes

theorem Sends.send (hbytes : bytes ≠ []) : Sends (Wire.send bytes) bytes :=
  fun wire hwire => ⟨wire.transmit bytes, send_completes hbytes (hwire 0),
    hwire.transmit bytes, rfl⟩

theorem Sends.sendUnchecked (hbytes : bytes ≠ []) :
    Sends (Wire.sendUnchecked bytes) bytes := by
  intro wire hwire
  refine ⟨wire.transmit bytes, ?_, hwire.transmit bytes, rfl⟩
  rw [Wire.sendUnchecked, tcpSend_completes hbytes (hwire 0)]

theorem Sends.pure : Sends (Pure.pure ()) [] := fun wire hwire =>
  ⟨wire, rfl, hwire, (List.append_nil _).symm⟩

theorem Sends.bind {first : Sender Unit} {next : Unit → Sender Unit}
    (hfirst : Sends first front) (hnext : Sends (next ()) back) :
    Sends (first >>= next) (front ++ back) := by
  intro wire hwire
  obtain ⟨middle, hmiddle, hopen, hfront⟩ := hfirst wire hwire
  obtain ⟨after, hafter, hstill, hback⟩ := hnext middle hopen
  refine ⟨after, (bind_ok next hmiddle).trans hafter, hstill, ?_⟩
  rw [hback, hfront, List.append_assoc]

theorem Sends.require {outcome : Except Status α} {value : α}
    {next : α → Sender Unit} (houtcome : outcome = .ok value)
    (hnext : Sends (next value) bytes) :
    Sends (Wire.require outcome >>= next) bytes := by
  intro wire hwire
  rw [bind_ok next (require_eq_ok.mpr ⟨houtcome, rfl⟩)]
  exact hnext wire hwire

end Libsqli.Wire
