import Libsqli.Handshake.Connect

namespace Libsqli.Handshake

open Libsqli.Data.Program
open Libsqli.Data.Stream
open Libsqli.Receive

/-! What a handshake keeps of a connection, and what it does not look at. -/

/-- What a session finds in its connection: the strings, the capabilities and the
flags of transactions and batches. -/
structure Steady where
  strings : Strings
  caps : Caps
  inTransaction : Bool
  inBatch : Bool

def Connection.steady (conn : Connection) : Steady where
  strings := conn.strings
  caps := conn.caps
  inTransaction := conn.inTransaction
  inBatch := conn.inBatch

def withCaps (caps : Caps) (state : Incoming Shaking) : Incoming Shaking :=
  { state with own := { state.own with
    conn := { state.own.conn with caps := caps } } }

/-- A step that reads as `reader` does, changes nothing that is steady, and does
not look at the capabilities. -/
structure Plain (program : Step α) (reader : Reading Failure Unit α) :
    Prop where
  reads : ∀ {state value after}, program state = .ok value after →
    reader ⟨state.unread, ()⟩ = .ok value ⟨after.unread, ()⟩
  steady : ∀ {state value after}, program state = .ok value after →
    after.own.conn.steady = state.own.conn.steady
  ignores : ∀ {state value after} (caps : Caps),
    program state = .ok value after →
      program (withCaps caps state) = .ok value (withCaps caps after)

variable {world : World} {params : Params} {failure : Failure}
  {program : Step α} {reader : Reading Failure Unit α}

theorem Plain.pure (value : α) :
    Plain (Pure.pure value : Step α) (Pure.pure value) := by
  constructor
  · intro state found after hrun
    cases hrun
    rfl
  · intro state found after hrun
    cases hrun
    rfl
  · intro state found after caps hrun
    cases hrun
    rfl

theorem Plain.bind {next : α → Step β} {rest : α → Reading Failure Unit β}
    (hprogram : Plain program reader)
    (hnext : ∀ value, Plain (next value) (rest value)) :
    Plain (program >>= next) (reader >>= rest) := by
  constructor
  · intro state value after hrun
    obtain ⟨found, middle, hfirst, hlast⟩ := bind_eq_ok.mp hrun
    exact bind_eq_ok.mpr
      ⟨found, _, hprogram.reads hfirst, (hnext found).reads hlast⟩
  · intro state value after hrun
    obtain ⟨found, middle, hfirst, hlast⟩ := bind_eq_ok.mp hrun
    exact ((hnext found).steady hlast).trans (hprogram.steady hfirst)
  · intro state value after caps hrun
    obtain ⟨found, middle, hfirst, hlast⟩ := bind_eq_ok.mp hrun
    exact bind_eq_ok.mpr ⟨found, _, hprogram.ignores caps hfirst,
      (hnext found).ignores caps hlast⟩

/-- A step that reads nothing stands before one that does. -/
theorem Plain.before {first : Step Unit} {next : Unit → Step α}
    (hfirst : Plain first (Pure.pure ())) (hnext : Plain (next ()) reader) :
    Plain (first >>= next) reader :=
  hfirst.bind fun _ => hnext

theorem Plain.ite {condition : Prop} [Decidable condition]
    {yes no : Step α} {left right : Reading Failure Unit α}
    (hyes : Plain yes left) (hno : Plain no right) :
    Plain (if condition then yes else no)
      (if condition then left else right) := by
  split
  · exact hyes
  · exact hno

theorem Plain.throw (failure : Failure) :
    Plain (throw failure : Step α) (throw failure) :=
  ⟨nofun, nofun, nofun⟩

theorem Plain.readExact (failure : Failure) (count : Nat) :
    Plain (Data.Stream.readExact failure count)
      (Data.Stream.readExact failure count) := by
  constructor
  · intro state value after hrun
    unfold Data.Stream.readExact at hrun ⊢
    split at hrun
    · next hcount =>
      cases hrun
      exact if_pos hcount
    · cases hrun
  · intro state value after hrun
    unfold Data.Stream.readExact at hrun
    split at hrun
    · cases hrun
      rfl
    · cases hrun
  · intro state value after caps hrun
    unfold Data.Stream.readExact at hrun ⊢
    split at hrun
    · next hcount =>
      cases hrun
      exact if_pos hcount
    · cases hrun

theorem Plain.readNatural (failure : Failure) (width : Nat) :
    Plain (Data.Stream.readNatural failure width)
      (Data.Stream.readNatural failure width) :=
  (Plain.readExact failure width).bind fun _ => Plain.pure _

theorem Plain.update {change : Connection → Connection}
    (hsteady : ∀ conn, (change conn).steady = conn.steady)
    (hignores : ∀ (conn : Connection) caps, change { conn with caps := caps } =
      { change conn with caps := caps }) :
    Plain (update change) (Pure.pure ()) := by
  constructor
  · intro state value after hrun
    cases hrun
    rfl
  · intro state value after hrun
    cases hrun
    exact hsteady _
  · intro state value after caps hrun
    cases hrun
    unfold Handshake.update withCaps
    dsimp only
    rw [hignores]

theorem Plain.require {refusal : Connection → Option Failure}
    (hignores : ∀ (conn : Connection) caps,
      refusal { conn with caps := caps } = refusal conn) :
    Plain (require refusal) (Pure.pure ()) := by
  have hafter {state after : Incoming Shaking} {value : Unit}
      (hrun : Handshake.require refusal state = .ok value after) :
      refusal state.own.conn = none ∧ after = state := by
    unfold Handshake.require at hrun
    split at hrun
    · next hnone =>
      cases hrun
      exact ⟨hnone, rfl⟩
    · cases hrun
  constructor
  · intro state value after hrun
    rw [(hafter hrun).2]
    rfl
  · intro state value after hrun
    rw [(hafter hrun).2]
  · intro state value after caps hrun
    obtain ⟨hnone, rfl⟩ := hafter hrun
    unfold Handshake.require withCaps
    dsimp only
    rw [hignores, hnone]

theorem Plain.transmit {bytes : Connection → List UInt8}
    (hignores : ∀ (conn : Connection) caps,
      bytes { conn with caps := caps } = bytes conn) :
    Plain (transmit bytes failure) (Pure.pure ()) := by
  constructor
  · intro state value after hrun
    unfold Handshake.transmit at hrun
    dsimp only at hrun
    split at hrun
    · cases hrun
      rfl
    · cases hrun
  · intro state value after hrun
    unfold Handshake.transmit at hrun
    dsimp only at hrun
    split at hrun
    · cases hrun
      rfl
    · cases hrun
  · intro state value after caps hrun
    unfold Handshake.transmit at hrun ⊢
    dsimp only at hrun
    split at hrun
    · next hsends =>
      cases hrun
      unfold withCaps
      dsimp only
      rw [if_pos hsends, hignores]
    · cases hrun

theorem Plain.allocate : Plain allocate (Pure.pure ()) := by
  constructor
  · intro state value after hrun
    unfold Handshake.allocate at hrun
    dsimp only at hrun
    split at hrun
    · cases hrun
      rfl
    · cases hrun
  · intro state value after hrun
    unfold Handshake.allocate at hrun
    dsimp only at hrun
    split at hrun
    · cases hrun
      rfl
    · cases hrun
  · intro state value after caps hrun
    unfold Handshake.allocate at hrun ⊢
    dsimp only at hrun
    split at hrun
    · next hallocs =>
      cases hrun
      exact if_pos hallocs
    · cases hrun

/-! The replies are read the same way by every connection. -/

theorem slHeader_plain : Plain slHeader slHeader := by
  refine (Plain.readExact _ _).bind fun header => ?_
  cases slLength (header.getD 2 0).toNat (word header 0) with
  | ok found => exact Plain.pure found
  | error failure => exact Plain.throw failure

theorem slBody_plain (length : Nat) (rejected : Bool) :
    Plain (slBody length rejected) (slBody length rejected) :=
  (Plain.readExact _ _).bind fun _ => Plain.pure _

theorem ipcGreeting_plain : Plain ipcGreeting ipcGreeting :=
  (Plain.readExact _ _).bind fun _ => Plain.pure _

theorem ipcLength_plain : Plain ipcLength ipcLength :=
  (Plain.readNatural _ _).bind fun _ =>
    Plain.ite (Plain.throw _) (Plain.ite (Plain.throw _) (Plain.pure _))

theorem ipcBody_plain (length : Nat) :
    Plain (ipcBody length) (ipcBody length) :=
  (Plain.readExact _ _).bind fun _ => Plain.pure _

theorem protocolsReply_plain : Plain protocolsReply protocolsReply :=
  (Plain.readNatural _ _).bind fun _ => (Plain.readNatural _ _).bind fun _ =>
    Plain.ite (Plain.throw _) ((Plain.readExact _ _).bind fun _ =>
      (Plain.readExact _ _).bind fun _ => Plain.pure _)

theorem enter_plain (phase : ConnState) (context : String) (opcode : Nat) :
    Plain (enter phase context opcode) (Pure.pure ()) :=
  Plain.update (fun _ => rfl) fun _ _ => rfl

theorem setErrorContext_plain (context : String) (opcode : Nat) :
    Plain (update fun conn => conn.setErrorContext context opcode)
      (Pure.pure ()) :=
  Plain.update (fun _ => rfl) fun _ _ => rfl

theorem openSocket_plain : Plain (openSocket world) (Pure.pure ()) := by
  refine Plain.before (Plain.update ?_ ?_) (Plain.before (Plain.require ?_)
    (Plain.require ?_))
  · exact fun _ => rfl
  · exact fun _ _ => rfl
  · exact fun _ _ => rfl
  · exact fun _ _ => rfl

theorem introduceTcp_plain :
    Plain (introduceTcp world) (readAnswer false) := by
  refine (enter_plain _ _ _).before (Plain.before (Plain.require ?_)
    (Plain.before (Plain.transmit ?_) (slHeader_plain.bind fun _ =>
      Plain.allocate.before (slBody_plain _ _))))
  · exact fun _ _ => rfl
  · exact fun _ _ => rfl

theorem introduceIpc_plain : Plain (introduceIpc world) (readAnswer true) := by
  refine (enter_plain _ _ _).before (ipcGreeting_plain.bind fun _ =>
    (setErrorContext_plain _ _).before (Plain.before (Plain.require ?_)
      (Plain.before (Plain.transmit ?_) ((setErrorContext_plain _ _).before
        (ipcLength_plain.bind fun _ =>
          Plain.allocate.before (ipcBody_plain _))))))
  · exact fun _ _ => rfl
  · exact fun _ _ => rfl

theorem askProtocols_plain : Plain askProtocols protocolsReply := by
  refine (setErrorContext_plain _ _).before
    (Plain.before (Plain.transmit ?_) protocolsReply_plain)
  exact fun _ _ => rfl

/-- The answer to the connection request, for the kind of the socket. -/
theorem introduce_eq (state : Incoming Shaking) :
    introduce world state =
      (if state.own.conn.strings.isPath then introduceIpc world
        else introduceTcp world) state := by
  unfold introduce
  split <;> rfl

theorem introduceBy_plain (unix : Bool) :
    Plain (if unix then introduceIpc world else introduceTcp world)
      (readAnswer unix) := by
  cases unix with
  | true => exact introduceIpc_plain
  | false => exact introduceTcp_plain

/-! What is taken over from the replies. -/

/-- A condition on what was read alone. -/
theorem demand_plain (refusal : Option Failure) :
    Plain (require fun _ => refusal) (Pure.pure ()) :=
  Plain.require fun _ _ => rfl

theorem hearAnswer_ok {answer : Answer} {state after : Incoming Shaking}
    (hrun : hearAnswer answer state = .ok () after) :
    after.unread = state.unread ∧
      after.own.conn.steady = { state.own.conn.steady with
        caps := state.own.conn.caps.heardBody answer.body } ∧
      ∀ caps, hearAnswer answer (withCaps caps state) =
        .ok () (withCaps (caps.heardBody answer.body) after) := by
  unfold hearAnswer at hrun ⊢
  obtain ⟨⟨⟩, long, hlong, hbehind⟩ := bind_eq_ok.mp hrun
  obtain ⟨⟨⟩, heard, hheard, hlast⟩ := bind_eq_ok.mp hbehind
  obtain ⟨⟨⟩, served, hserved, haccepted⟩ := bind_eq_ok.mp hlast
  have hsame {refusal : Option Failure} {first last : Incoming Shaking}
      (hdemand : require (fun _ => refusal) first = .ok () last) :
      last = first := by
    unfold require at hdemand
    dsimp only at hdemand
    split at hdemand
    · cases hdemand
      rfl
    · cases hdemand
  obtain rfl := hsame hlong
  obtain rfl := hsame hserved
  cases hheard
  cases haccepted
  refine ⟨rfl, rfl, fun caps => ?_⟩
  have hdemanded :=
    (demand_plain _).ignores (caps.heardBody answer.body) hserved
  exact bind_eq_ok.mpr ⟨(), _, (demand_plain _).ignores caps hlong,
    bind_eq_ok.mpr ⟨(), _, rfl, bind_eq_ok.mpr ⟨(), _, hdemanded, rfl⟩⟩⟩

/-! What the rest of the handshake keeps. -/

variable {steady : Steady}

def HasSteady (steady : Steady) (own : Shaking) : Prop :=
  own.conn.steady = steady

/-- Strings, capabilities and flags stay as they are. -/
abbrev StaysSteady (steady : Steady) (program : Step α) : Prop :=
  Keeps (HasSteady steady) program

theorem staysSteady_update {change : Connection → Connection}
    (hsteady : ∀ conn, (change conn).steady = conn.steady) :
    StaysSteady steady (update change) :=
  fun _ hstate => (hsteady _).trans hstate

theorem staysSteady_require (refusal : Connection → Option Failure) :
    StaysSteady steady (require refusal) := by
  intro state hstate
  unfold require
  cases refusal state.own.conn with
  | none => exact hstate
  | some failure => exact hstate

theorem staysSteady_transmit (bytes : Connection → List UInt8)
    (failure : Failure) : StaysSteady steady (transmit bytes failure) := by
  intro state hstate
  unfold transmit
  dsimp only
  cases state.own.sends 0 with
  | true => exact hstate
  | false => exact hstate

theorem staysSteady_allocate : StaysSteady steady allocate := by
  intro state hstate
  unfold allocate
  dsimp only
  cases state.own.allocs 0 with
  | true => exact hstate
  | false => exact hstate

theorem staysSteady_pamHandshake : StaysSteady steady pamHandshake := by
  have hrespond : StaysSteady steady pamRespond :=
    (staysSteady_require _).bind fun _ => staysSteady_allocate.bind fun _ =>
      staysSteady_transmit _ _
  have hchallenge : StaysSteady steady pamChallenge := by
    refine (Keeps.readNatural 2).bind fun style => (Keeps.readNatural 2).bind
      fun _ => (Keeps.readNatural 2).bind fun length =>
        (Keeps.readExact (length + length % 2)).bind fun _ => ?_
    exact Holds.ite (fun _ => staysSteady_transmit _ _) fun _ => hrespond
  have hround (start : Unit) : StaysSteady steady (pamRound start) :=
    (Keeps.readNatural _).bind fun _ =>
      Holds.ite (fun _ => Keeps.pure _) fun _ =>
        Holds.ite (fun _ => Keeps.throw _) fun _ =>
          Holds.ite (fun _ => Keeps.throw _) fun _ =>
            hchallenge.bind fun _ => Keeps.pure _
  exact (staysSteady_update fun _ => by rfl).bind fun _ =>
    (staysSteady_transmit _ _).bind fun _ =>
      Holds.forever hround (fun _ hstate => hstate) ()

theorem staysSteady_authenticate : StaysSteady steady authenticate := by
  have hpam : StaysSteady steady (do
      update fun conn => { conn with state := .auth }
      pamHandshake) :=
    (staysSteady_update fun _ => by rfl).bind fun _ => staysSteady_pamHandshake
  intro state hstate
  unfold authenticate
  cases state.own.conn.caps.hasPam with
  | true => exact hpam state hstate
  | false => exact hstate

theorem staysSteady_dispatch : StaysSteady steady dispatch := by
  intro state hstate
  have hrecorded (diagnostic : Diagnostic) :
      (state.own.conn.recorded diagnostic).steady = steady := by
    unfold Connection.recorded
    split <;> exact hstate
  unfold dispatch
  dsimp only
  generalize receiveDispatch _ _ _ _ = reception
  by_cases hfailed : reception.status ≠ .ok
  · rw [dif_pos hfailed]
    exact hrecorded reception.scene.diagnostic
  · rw [dif_neg hfailed]
    exact hrecorded reception.scene.diagnostic

theorem staysSteady_establish : StaysSteady steady (establish world params) := by
  have hextra : StaysSteady steady (dispatchExtra world) := by
    intro state hstate
    unfold dispatchExtra
    cases world.dbopenExtra with
    | true => exact staysSteady_dispatch state hstate
    | false => exact hstate
  have hdrop : StaysSteady steady (dropExtra world.infoExtra) := by
    intro state hstate
    unfold dropExtra
    cases world.infoExtra with
    | true => exact hstate
    | false => exact hstate
  have hinform : StaysSteady steady (inform world) :=
    (staysSteady_update fun _ => by rfl).bind fun _ =>
      (staysSteady_transmit _ _).bind fun _ => (Keeps.readNatural _).bind
        fun _ => (staysSteady_require _).bind fun _ => hdrop
  have hopen : StaysSteady steady (openDatabase world params) :=
    (staysSteady_update fun _ => by rfl).bind fun _ =>
      (staysSteady_transmit _ _).bind fun _ =>
        (staysSteady_update fun _ => by rfl).bind fun _ =>
          staysSteady_dispatch.bind fun _ => hextra.bind fun _ =>
            staysSteady_update fun _ => by rfl
  exact staysSteady_authenticate.bind fun _ => hinform.bind fun _ => hopen

end Libsqli.Handshake
