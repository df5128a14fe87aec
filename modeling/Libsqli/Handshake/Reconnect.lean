import Libsqli.Handshake.Exchange
import Libsqli.Handshake.Settling

namespace Libsqli.Handshake

open Libsqli.Data.Program
open Libsqli.Data.Stream
open Libsqli.Receive

/-! A connection that is connected again. -/

/-- What a call of `sqli_connect` meets. -/
structure Script where
  unread : List UInt8
  sends : Nat → Bool
  allocs : Nat → Bool
  looks : Nat → Bool

def Script.on (script : Script) (conn : Connection) : Incoming Shaking where
  unread := script.unread
  own :=
    { conn := conn
      sends := script.sends
      allocs := script.allocs
      looks := script.looks
      sent := []
      softAccepted := false }

/-- The state of a session. -/
structure Session where
  steady : Steady
  databaseOpen : Bool
  buffered : List Message
  loCreateFphandle : Int
  loCreateDbname : Text 128
  errorContext : String
  errorOpcode : Nat
  report : Option ErrorReport

def Connection.session (conn : Connection) : Session where
  steady := conn.steady
  databaseOpen := conn.databaseOpen
  buffered := conn.buffered
  loCreateFphandle := conn.loCreateFphandle
  loCreateDbname := conn.loCreateDbname
  errorContext := conn.errorContext
  errorOpcode := conn.errorOpcode
  report := conn.report

/-- The replies carry every capability that is set. -/
structure Caps.Replaced (replies : Replies) (caps : Caps) : Prop where
  cap1 : capabilityWord replies.answer.body = none → caps.cap1 = 0
  pam : replies.protocols.length < 6 → caps.hasPam = false
  wide : replies.protocols.length < 8 →
    caps.remove64kLimit = false ∧ caps.extendedDescribe = false
  rows : replies.protocols.length < 9 →
    caps.largeTupleMode = false ∧ caps.longRowId = false

/-- Nothing of an earlier session is left where the handshake does not put
something else. -/
structure NothingKept (world : World) (params : Params) (octets : List UInt8)
    (conn : Connection) : Prop where
  transaction : conn.inTransaction = false
  batch : conn.inBatch = false
  strings : ∀ slot, params slot = none →
    (conn.strings slot).val = [] ∨ Covered world params conn.strings slot
  caps : ∀ replies, repliesOf (Params.isPath params) octets = some replies →
    conn.caps.Replaced replies

variable {world : World} {params : Params} {state after : Incoming Shaking}

/-! The capabilities. -/

variable {replies : Replies} {caps : Caps}

/-- A capability that the replies are too short for is kept. -/
theorem Caps.heard_eq : caps.heard replies =
    { cap1 := (capabilityWord replies.answer.body).getD caps.cap1
      hasPam := if replies.protocols.length < 6 then caps.hasPam
        else replies.protocols.has 5 0x08
      remove64kLimit :=
        if replies.protocols.length < 8 then caps.remove64kLimit
        else replies.protocols.has 7 0x02
      extendedDescribe :=
        if replies.protocols.length < 8 then caps.extendedDescribe
        else replies.protocols.has 7 0x01
      largeTupleMode :=
        if replies.protocols.length < 9 then caps.largeTupleMode
        else replies.protocols.has 8 0x04
      longRowId := if replies.protocols.length < 9 then caps.longRowId
        else replies.protocols.has 8 0x02 } := by
  have hbody : caps.heardBody replies.answer.body = { caps with
      cap1 := (capabilityWord replies.answer.body).getD caps.cap1 } := by
    unfold Caps.heardBody
    cases capabilityWord replies.answer.body <;> rfl
  unfold Caps.heard Caps.heardProtocols
  rw [hbody]
  split_ifs <;> first | rfl | omega

theorem ite_same_iff {kept : Prop} [Decidable kept] {old new heard : α} :
    (if kept then old else heard) = (if kept then new else heard) ↔
      (kept → old = new) := by
  by_cases hkept : kept
  · rw [if_pos hkept, if_pos hkept]
    exact ⟨fun heq _ => heq, fun heq => heq hkept⟩
  · rw [if_neg hkept, if_neg hkept]
    exact ⟨fun _ h => absurd h hkept, fun _ => rfl⟩

theorem getD_same_iff {heard : Option α} {old new : α} :
    heard.getD old = heard.getD new ↔ (heard = none → old = new) := by
  cases heard with
  | none => exact ⟨fun heq _ => heq, fun heq => heq rfl⟩
  | some word => exact ⟨fun _ => nofun, fun _ => rfl⟩

/-- When the replies make of a connection's capabilities what they make of none. -/
theorem Caps.heard_eq_iff :
    caps.heard replies = Caps.unset.heard replies ↔ caps.Replaced replies := by
  rw [Caps.heard_eq, Caps.heard_eq, Caps.mk.injEq]
  simp only [ite_same_iff, getD_same_iff]
  constructor
  · rintro ⟨hcap1, hpam, hlimit, hdescribe, htuple, hrow⟩
    exact ⟨hcap1, hpam, fun hshort => ⟨hlimit hshort, hdescribe hshort⟩,
      fun hshort => ⟨htuple hshort, hrow hshort⟩⟩
  · intro hreplaced
    exact ⟨hreplaced.cap1, hreplaced.pam,
      fun hshort => (hreplaced.wide hshort).1,
      fun hshort => (hreplaced.wide hshort).2,
      fun hshort => (hreplaced.rows hshort).1,
      fun hshort => (hreplaced.rows hshort).2⟩

/-! The exchange. -/

theorem hearProtocols_ok {protocols : Protocols}
    (hrun : hearProtocols protocols state = .ok () after) :
    after.own.conn.steady = { state.own.conn.steady with
      caps := state.own.conn.caps.heardProtocols protocols } := by
  unfold hearProtocols at hrun
  obtain ⟨⟨⟩, heard, hheard, hbehind⟩ := bind_eq_ok.mp hrun
  obtain ⟨trailing, ended, hread, hdemand⟩ := bind_eq_ok.mp hbehind
  rw [(demand_plain _).steady hdemand, (Plain.readNatural _ _).steady hread]
  cases hheard
  rfl

theorem hearProtocols_congr {protocols : Protocols}
    (hcaps : caps.heardProtocols protocols =
      state.own.conn.caps.heardProtocols protocols) :
    hearProtocols protocols (withCaps caps state) =
      hearProtocols protocols state := by
  have hupdate : update (fun conn => { conn with
        caps := conn.caps.heardProtocols protocols }) (withCaps caps state) =
      update (fun conn => { conn with
        caps := conn.caps.heardProtocols protocols }) state := by
    unfold update withCaps
    dsimp only
    rw [hcaps]
  unfold hearProtocols
  rw [bind_apply, hupdate]
  rfl

theorem repliesOf_of_ok {unix : Bool} {octets rest : List UInt8}
    (hread : readReplies unix ⟨octets, ()⟩ = .ok replies ⟨rest, ()⟩) :
    repliesOf unix octets = some replies := by
  unfold repliesOf
  rw [hread]

theorem Plain.unread {program : Step α} {value : α}
    (hplain : Plain program (Pure.pure value))
    (hrun : program state = .ok value after) : after.unread = state.unread :=
  (congrArg Incoming.unread (EStateM.Result.ok.inj (hplain.reads hrun)).2).symm

theorem introduce_ok {answer : Answer}
    (hrun : introduce world state = .ok answer after) :
    readAnswer state.own.conn.strings.isPath ⟨state.unread, ()⟩ =
        .ok answer ⟨after.unread, ()⟩ ∧
      after.own.conn.steady = state.own.conn.steady ∧
      ∀ caps, introduce world (withCaps caps state) =
        .ok answer (withCaps caps after) := by
  rw [introduce_eq] at hrun
  have hplain : Plain (if state.own.conn.strings.isPath then introduceIpc world
      else introduceTcp world) (readAnswer state.own.conn.strings.isPath) :=
    introduceBy_plain _
  refine ⟨hplain.reads hrun, hplain.steady hrun, fun caps => ?_⟩
  rw [introduce_eq]
  exact hplain.ignores caps hrun

/-- What an exchange takes over, and that it does not look at the capabilities
before it has. -/
theorem exchange_ok (hrun : exchange world params state = .ok () after) :
    ∃ replies,
      repliesOf state.own.conn.strings.isPath state.unread = some replies ∧
      after.own.conn.steady = { state.own.conn.steady with
        caps := state.own.conn.caps.heard replies } ∧
      ∀ caps : Caps, caps.heard replies = state.own.conn.caps.heard replies →
        exchange world params (withCaps caps state) = .ok () after := by
  unfold exchange at hrun
  obtain ⟨⟨⟩, opened, hopen, hrun₁⟩ := bind_eq_ok.mp hrun
  obtain ⟨answer, introduced, hintroduce, hrun₂⟩ := bind_eq_ok.mp hrun₁
  obtain ⟨⟨⟩, answered, hanswer, hrun₃⟩ := bind_eq_ok.mp hrun₂
  obtain ⟨protocols, asked, hask, hrun₄⟩ := bind_eq_ok.mp hrun₃
  obtain ⟨⟨⟩, heard, hheard, hestablish⟩ := bind_eq_ok.mp hrun₄
  have hopened : opened.unread = state.unread :=
    openSocket_plain.unread hopen
  have hstrings : opened.own.conn.strings = state.own.conn.strings :=
    congrArg Steady.strings (openSocket_plain.steady hopen)
  obtain ⟨hread, hkept, hignores⟩ := introduce_ok hintroduce
  obtain ⟨hunread, htaken, hanswers⟩ := hearAnswer_ok hanswer
  have hsteady : introduced.own.conn.steady = state.own.conn.steady :=
    hkept.trans (openSocket_plain.steady hopen)
  have hcaps : introduced.own.conn.caps = state.own.conn.caps :=
    congrArg Steady.caps hsteady
  have hasked : asked.own.conn.steady = { state.own.conn.steady with
      caps := state.own.conn.caps.heardBody answer.body } := by
    rw [askProtocols_plain.steady hask, htaken, hsteady, hcaps]
  have hheardBody : asked.own.conn.caps =
      state.own.conn.caps.heardBody answer.body :=
    congrArg Steady.caps hasked
  refine ⟨⟨answer, protocols⟩, ?_, ?_, ?_⟩
  · rw [← hstrings, ← hopened]
    have hbehind := askProtocols_plain.reads hask
    rw [hunread] at hbehind
    exact repliesOf_of_ok (bind_eq_ok.mpr
      ⟨answer, _, hread, bind_eq_ok.mpr ⟨protocols, _, hbehind, rfl⟩⟩)
  · have hfinal : after.own.conn.steady = heard.own.conn.steady := by
      have hkeeps : StaysSteady heard.own.conn.steady
          (establish world params) := staysSteady_establish
      have hholds := hkeeps heard rfl
      rw [hestablish] at hholds
      exact hholds
    rw [hfinal, hearProtocols_ok hheard, hasked, hheardBody]
    rfl
  · intro caps hheardCaps
    unfold exchange
    refine bind_eq_ok.mpr ⟨(), _, openSocket_plain.ignores caps hopen,
      bind_eq_ok.mpr ⟨answer, _, hignores caps,
        bind_eq_ok.mpr ⟨(), _, hanswers caps,
          bind_eq_ok.mpr ⟨protocols, _,
            askProtocols_plain.ignores (caps.heardBody answer.body) hask,
            bind_eq_ok.mpr ⟨(), heard, ?_, hestablish⟩⟩⟩⟩⟩
    rw [hearProtocols_congr, hheard]
    rw [hheardBody]
    exact hheardCaps

/-! A call as a whole. -/

variable {script : Script} {conn before : Connection} {teardown : Status}
  {final : Strings}

theorem precheck_eq_none :
    precheck params conn = none ↔ conn.state = .closed ∧
      params .hostname ≠ none ∧ params .service ≠ none := by
  unfold precheck
  by_cases hstate : conn.state = .closed
  · rw [if_neg (not_not_intro hstate)]
    by_cases hrequired : params .hostname = none ∨ params .service = none
    · rw [if_pos hrequired]
      exact ⟨nofun, fun hmet =>
        absurd hrequired (not_or.mpr ⟨hmet.2.1, hmet.2.2⟩)⟩
    · rw [if_neg hrequired]
      exact ⟨fun _ => ⟨hstate, not_or.mp hrequired⟩, fun _ => rfl⟩
  · rw [if_pos hstate]
    exact ⟨nofun, fun hmet => absurd hmet.1 hstate⟩

theorem shake_ok :
    shake world params state = .ok () after ↔
      (∀ slot, Fits params slot) ∧ ∃ final,
        (state.own.conn.strings.copied params).localized world.localUser =
          some final ∧
        exchange world params { state with own := { state.own with
          conn := state.own.conn.settled world final } } = .ok () after := by
  unfold shake
  rw [bind_eq_ok]
  constructor
  · rintro ⟨⟨⟩, middle, hsettle, hrun⟩
    obtain ⟨hfits, final, hfinal, rfl⟩ := settle_ok.mp hsettle
    exact ⟨hfits, final, hfinal, hrun⟩
  · rintro ⟨hfits, final, hfinal, hrun⟩
    exact ⟨(), _, settle_ok.mpr ⟨hfits, final, hfinal, rfl⟩, hrun⟩

theorem connect_clear (hclear : conn.lifecycle = .clear) :
    connect world params (script.on conn) =
      match precheck params conn.clearError with
      | some message => (.invalidState, script.on
          ((conn.clearError.setErrorContext "connect/precheck" 0).setError
            message))
      | none =>
          match shake world params (script.on conn.clearError) with
          | .ok () after => (.ok, after)
          | .error failure after =>
              (failure.status,
                { after with own := after.own.failed failure }) :=
  if_neg (not_not_intro hclear)

theorem connect_ok :
    connect world params (script.on conn) = (.ok, after) ↔
      conn.lifecycle = .clear ∧ precheck params conn.clearError = none ∧
        shake world params (script.on conn.clearError) = .ok () after := by
  by_cases hclear : conn.lifecycle = .clear
  · rw [connect_clear hclear]
    cases hprecheck : precheck params conn.clearError with
    | some message =>
        exact ⟨fun h => (by cases h), fun hmet => (by cases hmet.2.1)⟩
    | none =>
        cases hrun : shake world params (script.on conn.clearError) with
        | ok value last =>
            constructor
            · intro hreturn
              cases hreturn
              exact ⟨hclear, rfl, rfl⟩
            · intro hmet
              cases hmet.2.2
              rfl
        | error failure last =>
            refine ⟨fun hreturn => ?_, fun hmet => (by cases hmet.2.2)⟩
            exact absurd (congrArg Prod.fst hreturn) failure.failed
  · have hstart : connect world params (script.on conn) =
        (.invalidState, script.on conn) := if_pos hclear
    rw [hstart]
    exact ⟨fun h => (by cases h), fun hmet => absurd hmet.1 hclear⟩

/-- What `sqli_close` leaves of a connection. -/
theorem close_eq (hclosed : (before.close teardown).state = .closed)
    (hclear : (before.close teardown).lifecycle = .clear) :
    ∃ fd, before.close teardown = { Connection.create before.settings with
      socketFd := fd
      strings := before.strings
      decodes := before.decodes
      caps := before.caps
      inTransaction := before.inTransaction
      inBatch := before.inBatch
      buffered := before.buffered } := by
  unfold Connection.close at hclosed hclear ⊢
  by_cases hpinned : before.lifecycle.pinned
  · rw [if_pos hpinned] at hclear
    rw [hclear] at hpinned
    cases hpinned
  · rw [if_neg hpinned] at hclosed hclear ⊢
    by_cases hdiscarded : before.lifecycle.discarded
    · rw [if_pos hdiscarded] at hclosed
      unfold Connection.discard at hclosed
      dsimp only at hclosed
      split at hclosed <;> cases hclosed
    · rw [if_neg hdiscarded] at hclear ⊢
      refine ⟨if 0 ≤ before.socketFd then -1 else before.socketFd, ?_⟩
      unfold Connection.create
      rw [← hclear]
      rfl

theorem exchange_socketFd (fd : Int) :
    exchange world params { state with own := { state.own with
        conn := { state.own.conn with socketFd := fd } } } =
      exchange world params state := by
  have hopen : openSocket world { state with own := { state.own with
      conn := { state.own.conn with socketFd := fd } } } =
        openSocket world state := rfl
  unfold exchange
  rw [bind_apply, bind_apply, hopen]

/-- What a call on a closed connection does, once its strings are settled. -/
theorem connect_ok_iff (hclear : conn.lifecycle = .clear)
    (hclosed : conn.state = .closed) :
    connect world params (script.on conn) = (.ok, after) ↔
      (params .hostname ≠ none ∧ params .service ≠ none ∧
        ∀ slot, Fits params slot) ∧ ∃ final,
        (conn.strings.copied params).localized world.localUser = some final ∧
        exchange world params
          (script.on (conn.clearError.settled world final)) = .ok () after := by
  rw [connect_ok, precheck_eq_none, shake_ok]
  constructor
  · rintro ⟨-, ⟨-, hhostname, hservice⟩, hfits, hrun⟩
    exact ⟨⟨hhostname, hservice, hfits⟩, hrun⟩
  · rintro ⟨⟨hhostname, hservice, hfits⟩, hrun⟩
    exact ⟨hclear, ⟨hclosed, hhostname, hservice⟩, hfits, hrun⟩

/-- Settling the strings, and the exchange on them. -/
theorem exchange_settled_ok (hservice : params .service ≠ none)
    (hfits : ∀ slot, Fits params slot)
    (hfinal : (conn.strings.copied params).localized world.localUser =
      some final)
    (hrun : exchange world params
      (script.on (conn.clearError.settled world final)) = .ok () after) :
    ∃ replies,
      repliesOf (Params.isPath params) script.unread = some replies ∧
      after.own.conn.steady = ⟨final, conn.caps.heard replies,
        conn.inTransaction, conn.inBatch⟩ ∧
      ∀ caps : Caps, caps.heard replies = conn.caps.heard replies →
        exchange world params (withCaps caps
          (script.on (conn.clearError.settled world final))) =
            .ok () after := by
  obtain ⟨replies, hreplies, htaken⟩ := exchange_ok hrun
  have hkept : final .service = conn.strings.copied params .service :=
    localized_apply hfinal nofun nofun
  have hpath : final.isPath = Params.isPath params := by
    unfold Strings.isPath
    rw [hkept]
    exact copied_isPath (hfits .service) hservice
  refine ⟨replies, ?_, htaken⟩
  rw [← hpath]
  exact hreplies

/-- A connection that has been closed gets the session of a new one if and only if
nothing of its earlier sessions is left in it where the handshake does not put
something else. -/
theorem connect_closed_session_iff
    (hclosed : (before.close teardown).state = .closed)
    (hclear : (before.close teardown).lifecycle = .clear)
    (hconnect : connect world params (script.on (before.close teardown)) =
      (.ok, after)) :
    (∃ fresh, connect world params
        (script.on (Connection.create before.settings)) = (.ok, fresh) ∧
      fresh.own.conn.session = after.own.conn.session) ↔
      NothingKept world params script.unread before := by
  obtain ⟨fd, hclose⟩ := close_eq hclosed hclear
  rw [hclose, connect_ok_iff rfl rfl] at hconnect
  obtain ⟨⟨hhostname, hservice, hfits⟩, final, hfinal, hrun⟩ := hconnect
  obtain ⟨replies, hreplies, hsteady, hignores⟩ :=
    exchange_settled_ok hservice hfits hfinal hrun
  have hstrings := localized_empty_iff hfits hservice hfinal
  constructor
  · rintro ⟨fresh, hfresh, hsession⟩
    obtain ⟨-, other, hother, hrunFresh⟩ :=
      (connect_ok_iff rfl rfl).mp hfresh
    obtain ⟨found, hfound, hsteadyFresh, -⟩ :=
      exchange_settled_ok hservice hfits hother hrunFresh
    rw [hreplies] at hfound
    cases hfound
    have hsame : fresh.own.conn.steady = after.own.conn.steady :=
      congrArg Session.steady hsession
    rw [hsteady, hsteadyFresh, Steady.mk.injEq] at hsame
    obtain ⟨rfl, hheard, htransaction, hbatch⟩ := hsame
    refine ⟨htransaction.symm, hbatch.symm, hstrings.mp hother, ?_⟩
    intro found hfound
    rw [hreplies] at hfound
    cases hfound
    exact Caps.heard_eq_iff.mp hheard.symm
  · intro hnothing
    have hheard := Caps.heard_eq_iff.mpr (hnothing.caps replies hreplies)
    have hrunFresh := hignores Caps.unset hheard.symm
    refine ⟨after, (connect_ok_iff rfl rfl).mpr ⟨⟨hhostname, hservice, hfits⟩,
      final, hstrings.mpr hnothing.strings, ?_⟩, rfl⟩
    rw [← exchange_socketFd fd, ← hrunFresh, hnothing.transaction,
      hnothing.batch]
    rfl

/-! A server that says as little as it may. -/

def quietWorld : World where
  localUser := none
  opensDecoder := fun _ _ => false
  opensSocket := fun _ _ => 3
  timesOut := false
  tls := fun _ => (.ok, none)
  encodeConreq := fun strings => slots.flatMap fun slot => (strings slot).val
  encodePreamble := fun strings => slots.flatMap fun slot => (strings slot).val
  infoExtra := false
  dbopenExtra := false
  answer := [.dbopenFlags 0, .eot]

def quietScript : Script where
  unread := [0, 10, 2, 60, 0, 0] ++ [0, 0, 0, 0] ++ [0, 126, 0, 0, 0, 12] ++
    [0, 12]
  sends := fun _ => true
  allocs := fun _ => true
  looks := fun _ => false

def paramsWith (password : Option (List UInt8)) : Params
  | .hostname => some [104]
  | .service => some [57]
  | .password => password
  | _ => none

def initialSettings : Settings where
  strictProtocol := false
  trimTrailingSpaces := true
  autocommit := true
  cursorType := .forwardOnly
  holdability := .closeAtCommit

/-- A connection that was connected with these parameters. -/
def connectedWith (params : Params) : Connection :=
  (connect quietWorld params
    (quietScript.on (Connection.create initialSettings))).2.own.conn

theorem connect_closed_session_iff_quiet :
    (∃ fresh, connect quietWorld (paramsWith none)
        (quietScript.on (Connection.create initialSettings)) = (.ok, fresh) ∧
      fresh.own.conn.session = (connect quietWorld (paramsWith none)
        (quietScript.on ((connectedWith (paramsWith none)).close .ok))
          ).2.own.conn.session) ↔
      NothingKept quietWorld (paramsWith none) quietScript.unread
        (connectedWith (paramsWith none)) := by
  have hclosed :
      ((connectedWith (paramsWith none)).close .ok).state = .closed := rfl
  exact connect_closed_session_iff hclosed rfl (Prod.ext (by decide) rfl)

/-- The password of an earlier session is there again. -/
theorem connect_keeps_password :
    let kept := (connectedWith (paramsWith (some [112, 119]))).close .ok
    let again := connect quietWorld (paramsWith none) (quietScript.on kept)
    kept.state = .closed ∧ kept.lifecycle = .clear ∧ again.1 = .ok ∧
      ¬ ∃ fresh, connect quietWorld (paramsWith none)
          (quietScript.on (Connection.create initialSettings)) = (.ok, fresh) ∧
        fresh.own.conn.session = again.2.own.conn.session := by
  refine ⟨rfl, rfl, by decide, ?_⟩
  rintro ⟨fresh, hfresh, hsession⟩
  obtain rfl := congrArg Prod.snd hfresh
  have hpassword := congrArg
    (fun session => (session.steady.strings .password).val) hsession
  revert hpassword
  decide

end Libsqli.Handshake
