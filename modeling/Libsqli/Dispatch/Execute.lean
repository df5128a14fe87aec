import Libsqli.Dispatch.Refinement
import Libsqli.Receive.Batches
import Libsqli.Receive.Retained

namespace Libsqli.Dispatch

open Libsqli.Data.Bytes
open Libsqli.Data.Program
open Libsqli.Data.Stream
open Libsqli.Octets
open Libsqli.Receive

variable {sizes : Sizes} {malloc : Nat → Bool} {caps : Capabilities}
  {messages rest : List Message} {own : Listener} {unread : List UInt8}

/-! Any calls of the loop on one connection. -/

/-- A call, and what its caller makes of the result before it. -/
structure Call where
  context : Context
  prepare : Result → Result

def Listener.prepared (prepare : Result → Result) (own : Listener) : Listener :=
  { own with result := prepare own.result }

def dispatched (sizes : Sizes) (malloc : Nat → Bool) (caps : Capabilities)
    (call : Call) (state : Incoming Listener) : Status × Incoming Listener :=
  endOf (receiveDispatch sizes malloc caps call.context
    { state with own := state.own.prepared call.prepare })

def receiveCalls (sizes : Sizes) (malloc : Nat → Bool) (caps : Capabilities) :
    List Call → Incoming Listener → List Status × Incoming Listener
  | [], state => ([], state)
  | call :: calls, state =>
      let ended := dispatched sizes malloc caps call state
      let later := receiveCalls sizes malloc caps calls ended.2
      (ended.1 :: later.1, later.2)

def messagesDispatched (caps : Capabilities) (call : Call)
    (messages : List Message) (scene : Scene) : Reception :=
  Receive.receiveDispatch caps call.context messages
    (scene.withResult (call.prepare scene.result))

def messageCalls (caps : Capabilities) :
    List Call → List Message → Scene → List Status × List Message × Scene
  | [], messages, scene => ([], messages, scene)
  | call :: calls, messages, scene =>
      let reception := messagesDispatched caps call messages scene
      let later := messageCalls caps calls reception.messages reception.scene
      (reception.status :: later.1, later.2)

theorem dispatched_mirrors (call : Call)
    (hafforded : ∀ size, malloc size = true)
    (hframed : Framed sizes caps messages) (hready : Ready own) :
    Mirrors caps
      (dispatched sizes malloc caps call ⟨wireBytes caps messages, own⟩)
      fun sights => messagesDispatched caps call messages (own.scene sights) :=
  @receiveDispatch_mirrors sizes malloc caps call.context messages
    (own.prepared call.prepare) hafforded hframed
    ⟨hready.near, hready.allocs⟩

theorem messagesDispatched_suffix (call : Call) (messages : List Message)
    (scene : Scene) :
    (messagesDispatched caps call messages scene).messages <:+ messages :=
  receiveLoop_suffix messages _

theorem Mirrors.elim {ended : Status × Incoming Listener}
    {received : (Nat → Bool) → Reception}
    (hmirrors : Mirrors caps ended received)
    (hsuffix : ∀ sights, (received sights).messages <:+ messages) :
    ∃ status left after, left <:+ messages ∧ Ready after ∧
      ended = (status, ⟨wireBytes caps left, after⟩) ∧
      ∀ later, ∃ sights, received sights = ⟨status, left, after.scene later⟩ := by
  obtain ⟨status, left, after, hafter, hended, hreceived⟩ := hmirrors
  obtain ⟨sights, hsights⟩ := hreceived fun _ => false
  have hleft := hsuffix sights
  rw [hsights] at hleft
  exact ⟨status, left, after, hleft, hafter, hended, hreceived⟩

/-- However the octets come into sight, the calls read the messages that were
sent, each once and whole, and make of them what calls over messages make. -/
theorem receiveCalls_mirrors (calls : List Call)
    (hafforded : ∀ size, malloc size = true)
    (hframed : Framed sizes caps messages) (hready : Ready own) :
    ∃ statuses left after sights,
      left <:+ messages ∧
        receiveCalls sizes malloc caps calls ⟨wireBytes caps messages, own⟩ =
          (statuses, ⟨wireBytes caps left, after⟩) ∧
        messageCalls caps calls messages (own.scene sights) =
          (statuses, left, after.scene fun _ => false) := by
  induction calls generalizing messages own with
  | nil => exact ⟨[], messages, own, fun _ => false, List.suffix_rfl, rfl, rfl⟩
  | cons call calls ih =>
      obtain ⟨status, middle, between, hmiddle, hbetween, hended, hreceived⟩ :=
        (dispatched_mirrors call hafforded hframed hready).elim
          fun sights => messagesDispatched_suffix call messages _
      obtain ⟨statuses, left, after, later, hleft, hoctets, hmessages⟩ :=
        ih (hframed.suffix hmiddle) hbetween
      obtain ⟨sights, hsights⟩ := hreceived later
      refine ⟨status :: statuses, left, after, sights, hleft.trans hmiddle, ?_,
        ?_⟩
      · unfold receiveCalls
        dsimp only
        rw [hended, hoctets]
      · unfold messageCalls
        dsimp only
        rw [hsights]
        dsimp only
        rw [hmessages]

/-- A row and its end; an INSERTDONE and an error follow in the next groups. -/
def threeGroups : List Message :=
  [.describe twoFields, .tuple 0 [1, 2, 3], .done ⟨0, 1, 0, 0⟩, .cost 1 2, .eot,
    .insertdone ⟨1, 7, 0⟩, .eot, .err ⟨-239, -100, [0, 0, 0, 0], [120, 121]⟩,
    .eot]

theorem framed_threeGroups : Framed sizesLp64 extendedCaps threeGroups := by
  refine .cons ⟨twoFields_fits, by decide⟩ trivial ?_
  refine .cons (show 3 ≤ maxTupleBytes by decide) trivial ?_
  refine .cons ⟨by decide, by decide⟩ ⟨by decide, fun hflags => ?_⟩ ?_
  · exact absurd hflags (by decide)
  refine .cons trivial trivial (.cons trivial trivial ?_)
  refine .cons trivial ?_ (.cons trivial trivial ?_)
  · rintro next hnext
    obtain rfl := Option.some.inj hnext
    decide
  refine .cons ⟨fun _ => rfl, by decide⟩ ?_ (.cons trivial trivial .nil)
  rintro flags hflags
  cases hflags

/-- The peeks behind the DONE see what follows, the others nothing. -/
def attentive : Listener :=
  ⟨[⟨0, 2⟩, ⟨0, 2⟩, ⟨0, 2⟩, ⟨1, 0⟩], fun _ => true, blankResult, .clear⟩

theorem ready_attentive : Ready attentive where
  near := by
    unfold Near
    decide
  allocs := rfl

theorem receiveCalls_mirrors_threeGroups :
    ∃ statuses left after sights,
      left <:+ threeGroups ∧
        receiveCalls sizesLp64 (fun _ => true) extendedCaps
            [⟨.fetchRecv, rearm⟩, ⟨.otherRecv, rearm⟩]
            ⟨wireBytes extendedCaps threeGroups, attentive⟩ =
          (statuses, ⟨wireBytes extendedCaps left, after⟩) ∧
        messageCalls extendedCaps
            [⟨.fetchRecv, rearm⟩, ⟨.otherRecv, rearm⟩] threeGroups
            (attentive.scene sights) =
          (statuses, left, after.scene fun _ => false) :=
  receiveCalls_mirrors _ (fun _ => rfl) framed_threeGroups ready_attentive

end Libsqli.Dispatch

namespace Libsqli.Dispatch

open Libsqli.Data.Program
open Libsqli.Data.Stream
open Libsqli.Receive (Context Message Reception Scene Sizes blankResult
  executeGuard extendedCaps extraGroups rearm settledFlags sizesLp64)

/-! `sqli_stmt_receive_execute_result` over octets. -/

/-- Whether an octet is in the read buffer, or a poll finds one. -/
def waiting (state : Incoming Listener) : Bool × Incoming Listener :=
  match state.own.looks with
  | [] => (false, state)
  | look :: looks =>
      (!state.unread.isEmpty && look.seen != 0,
        { state with own := { state.own with looks } })

def rearmed : Call := ⟨.otherRecv, rearm⟩

def thrownAway : Call := ⟨.otherRecv, fun _ => blankResult⟩

section

variable (sizes : Sizes) (malloc : Nat → Bool) (caps : Receive.Capabilities)

def executeLoop : Nat → Incoming Listener → Status × Incoming Listener
  | 0, state =>
      (.protoError, { state with own := { state.own with diagnostic := .local } })
  | guard + 1, state =>
      let ended := dispatched sizes malloc caps rearmed state
      if ended.1 ≠ .ok then ended
      else if settledFlags ended.2.own.result then ended
      else
        let polled := waiting ended.2
        if polled.1 then executeLoop guard polled.2 else (ended.1, polled.2)

def drainExtra : Nat → Incoming Listener → Incoming Listener
  | 0, state => state
  | extra + 1, state =>
      let polled := waiting state
      if polled.1 then
        let ended := dispatched sizes malloc caps thrownAway polled.2
        if ended.1 ≠ .ok then ended.2 else drainExtra extra ended.2
      else polled.2

/-- `sqli_stmt_receive_execute_result` -/
def receiveExecuteResult (state : Incoming Listener) :
    Status × Incoming Listener :=
  let ended := executeLoop sizes malloc caps executeGuard state
  if ended.1 = .ok then
    let tail := drainExtra sizes malloc caps extraGroups ended.2
    (.ok, { tail with own :=
      { tail.own with result := ended.2.own.result, diagnostic := .clear } })
  else
    (ended.1, { ended.2 with own :=
      { ended.2.own with diagnostic := ended.2.own.diagnostic.orLocal } })

end

variable {sizes : Sizes} {malloc : Nat → Bool} {caps : Receive.Capabilities}
  {messages : List Message} {own : Listener}

theorem wireBytes_isEmpty (caps : Receive.Capabilities)
    (messages : List Message) :
    (wireBytes caps messages).isEmpty = messages.isEmpty := by
  cases messages with
  | nil => rfl
  | cons message rest =>
      have hlength := @length_wireBytes_cons caps message rest
      rw [List.isEmpty_eq_false_iff.mpr (List.length_pos_iff.mp (by omega))]
      rfl

/-- A poll over octets is a look over messages. -/
theorem waiting_mirrors (messages : List Message) (hready : Ready own) :
    ∃ arrived after, Ready after ∧ after.result = own.result ∧
      waiting ⟨wireBytes caps messages, own⟩ =
        (arrived, ⟨wireBytes caps messages, after⟩) ∧
      ∀ later, ∃ sights, (own.scene sights).looked = after.scene later ∧
        ((messages = [] ∨ sights 0 = false) ↔ arrived = false) := by
  obtain ⟨looks, allocs, result, diagnostic⟩ := own
  cases looks with
  | nil =>
      refine ⟨false, _, hready, rfl, rfl, fun later =>
        ⟨lookThen false later, rfl, ?_⟩⟩
      simp [lookThen]
  | cons look looks =>
      refine ⟨_, _, hready.of_looks hready.near.tail, rfl, rfl, fun later =>
        ⟨lookThen (look.seen != 0) later, rfl, ?_⟩⟩
      rw [wireBytes_isEmpty]
      cases messages <;> simp [lookThen]

section

variable {scene next : Scene} {status : Status} {left : List Message}
  {guard extra : Nat}

theorem executeLoop_messages
    (hreceived : messagesDispatched caps rearmed messages scene =
      ⟨status, left, next⟩) :
    Receive.executeLoop caps (guard + 1) messages scene =
      if status ≠ .ok then ⟨status, left, next⟩
      else if settledFlags next.result then ⟨status, left, next⟩
      else if left = [] ∨ next.looks 0 = false then ⟨status, left, next.looked⟩
      else Receive.executeLoop caps guard left next.looked := by
  have hdispatched : Receive.receiveDispatch caps .otherRecv messages
      (scene.withResult (rearm scene.result)) = ⟨status, left, next⟩ := hreceived
  rw [Receive.executeLoop, hdispatched]

theorem executeLoop_suffix (guard : Nat) (messages : List Message)
    (scene : Scene) :
    (Receive.executeLoop caps (guard + 1) messages scene).messages <:+
      messages := by
  rw [Receive.executeLoop_eq]
  exact messagesDispatched_suffix rearmed messages scene

theorem drainExtra_messages (harrived : ¬ (messages = [] ∨ scene.looks 0 = false))
    (hreceived : messagesDispatched caps thrownAway messages scene.looked =
      ⟨status, left, next⟩) :
    Receive.drainExtra caps (extra + 1) messages scene =
      if status ≠ .ok then ⟨status, left, next⟩
      else Receive.drainExtra caps extra left next := by
  have hdispatched : Receive.receiveDispatch caps .otherRecv messages
      (scene.looked.withResult blankResult) = ⟨status, left, next⟩ := hreceived
  rw [Receive.drainExtra, if_neg harrived]
  dsimp only
  rw [hdispatched]

end

theorem executeLoop_mirrors (hafforded : ∀ size, malloc size = true)
    (hframed : Framed sizes caps messages) (hready : Ready own) (guard : Nat) :
    Mirrors caps
      (executeLoop sizes malloc caps guard ⟨wireBytes caps messages, own⟩)
      fun sights =>
        Receive.executeLoop caps guard messages (own.scene sights) := by
  induction guard generalizing messages own with
  | zero =>
      exact ⟨.protoError, messages, { own with diagnostic := .local },
        ⟨hready.near, hready.allocs⟩, rfl, fun later => ⟨later, rfl⟩⟩
  | succ guard ih =>
      obtain ⟨status, left, after, hleft, hafter, hended, hreceived⟩ :=
        (dispatched_mirrors rearmed hafforded hframed hready).elim
          fun sights => messagesDispatched_suffix rearmed messages _
      rw [executeLoop, hended]
      dsimp only
      by_cases hstatus : status ≠ .ok
      · rw [if_pos hstatus]
        refine ⟨status, left, after, hafter, rfl, fun later => ?_⟩
        obtain ⟨sights, hsights⟩ := hreceived later
        exact ⟨sights, (executeLoop_messages hsights).trans (if_pos hstatus)⟩
      rw [if_neg hstatus]
      by_cases hsettled : settledFlags after.result = true
      · rw [if_pos hsettled]
        refine ⟨status, left, after, hafter, rfl, fun later => ?_⟩
        obtain ⟨sights, hsights⟩ := hreceived later
        refine ⟨sights, (executeLoop_messages hsights).trans ?_⟩
        rw [if_neg hstatus]
        exact if_pos hsettled
      rw [if_neg hsettled]
      obtain ⟨arrived, polled, hpolled, -, hwaiting, hlooked⟩ :=
        @waiting_mirrors caps after left hafter
      rw [hwaiting]
      cases arrived with
      | false =>
          refine ⟨status, left, polled, hpolled, rfl, fun later => ?_⟩
          obtain ⟨middle, hnext, hlook⟩ := hlooked later
          obtain ⟨sights, hsights⟩ := hreceived middle
          refine ⟨sights, (executeLoop_messages hsights).trans ?_⟩
          rw [if_neg hstatus]
          refine (if_neg hsettled).trans ?_
          rw [← hnext]
          exact if_pos (hlook.mpr rfl)
      | true =>
          obtain ⟨final, last, later, hlater, hlast, hmirrored⟩ :=
            ih (hframed.suffix hleft) hpolled
          refine ⟨final, last, later, hlater, hlast, fun sights => ?_⟩
          obtain ⟨third, hthird⟩ := hmirrored sights
          obtain ⟨middle, hnext, hlook⟩ := hlooked third
          obtain ⟨first, hfirst⟩ := hreceived middle
          refine ⟨first, (executeLoop_messages hfirst).trans ?_⟩
          rw [if_neg hstatus]
          refine (if_neg hsettled).trans ?_
          have harrived : ¬ (left = [] ∨ middle 0 = false) := fun hnone =>
            Bool.noConfusion (hlook.mp hnone)
          refine (if_neg harrived).trans ?_
          rw [hnext]
          exact hthird

/-- The tail, whose receptions are thrown away. -/
theorem drainExtra_mirrors (hafforded : ∀ size, malloc size = true)
    (hframed : Framed sizes caps messages) (hready : Ready own)
    (extra : Nat) :
    ∃ status left after, Ready after ∧
      drainExtra sizes malloc caps extra ⟨wireBytes caps messages, own⟩ =
        ⟨wireBytes caps left, after⟩ ∧
      ∀ later, ∃ sights,
        Receive.drainExtra caps extra messages (own.scene sights) =
          ⟨status, left, after.scene later⟩ := by
  induction extra generalizing messages own with
  | zero =>
      exact ⟨.ok, messages, own, hready, rfl, fun later => ⟨later, rfl⟩⟩
  | succ extra ih =>
      rw [drainExtra]
      obtain ⟨arrived, polled, hpolled, -, hwaiting, hlooked⟩ :=
        @waiting_mirrors caps own messages hready
      rw [hwaiting]
      cases arrived with
      | false =>
          refine ⟨.ok, messages, polled, hpolled, rfl, fun later => ?_⟩
          obtain ⟨sights, hnext, hlook⟩ := hlooked later
          refine ⟨sights, ?_⟩
          rw [← hnext]
          exact if_pos (hlook.mpr rfl)
      | true =>
          have harrived {sights : Nat → Bool}
              (hlook : (messages = [] ∨ sights 0 = false) ↔ true = false) :
              ¬ (messages = [] ∨ (own.scene sights).looks 0 = false) :=
            fun hnone => Bool.noConfusion (hlook.mp hnone)
          obtain ⟨status, left, after, hleft, hafter, hended, hreceived⟩ :=
            (dispatched_mirrors thrownAway hafforded hframed hpolled).elim
              fun sights => messagesDispatched_suffix thrownAway messages _
          dsimp only
          rw [if_pos rfl, hended]
          dsimp only
          by_cases hstatus : status ≠ .ok
          · rw [if_pos hstatus]
            refine ⟨status, left, after, hafter, rfl, fun later => ?_⟩
            obtain ⟨middle, hmiddle⟩ := hreceived later
            obtain ⟨sights, hnext, hlook⟩ := hlooked middle
            rw [← hnext] at hmiddle
            exact ⟨sights, (drainExtra_messages (harrived hlook) hmiddle).trans
              (if_pos hstatus)⟩
          · rw [if_neg hstatus]
            obtain ⟨final, last, behind, hbehind, hlast, hmirrored⟩ :=
              ih (hframed.suffix hleft) hafter
            refine ⟨final, last, behind, hbehind, hlast, fun later => ?_⟩
            obtain ⟨third, hthird⟩ := hmirrored later
            obtain ⟨middle, hmiddle⟩ := hreceived third
            obtain ⟨sights, hnext, hlook⟩ := hlooked middle
            rw [← hnext] at hmiddle
            refine ⟨sights, (drainExtra_messages (harrived hlook) hmiddle).trans
              ?_⟩
            rw [if_neg hstatus]
            exact hthird

/-- The reply to an EXECUTE is made of its octets what is made of its messages. -/
theorem receiveExecuteResult_mirrors (hafforded : ∀ size, malloc size = true)
    (hframed : Framed sizes caps messages) (hready : Ready own) :
    Mirrors caps
      (receiveExecuteResult sizes malloc caps ⟨wireBytes caps messages, own⟩)
      fun sights =>
        Receive.receiveExecuteResult caps messages (own.scene sights) := by
  obtain ⟨status, left, after, hleft, hafter, hended, hreceived⟩ :=
    (executeLoop_mirrors hafforded hframed hready executeGuard).elim
      fun sights => executeLoop_suffix 64 messages _
  unfold receiveExecuteResult
  rw [hended]
  dsimp only
  by_cases hstatus : status = .ok
  · rw [if_pos hstatus]
    obtain ⟨extra, final, last, hlast, hdrained, hmirrored⟩ :=
      drainExtra_mirrors hafforded (hframed.suffix hleft) hafter extraGroups
    rw [hdrained]
    refine ⟨.ok, final, { last with
      result := after.result
      diagnostic := .clear }, ⟨hlast.near, hlast.allocs⟩, rfl, fun later => ?_⟩
    obtain ⟨middle, hmiddle⟩ := hmirrored later
    obtain ⟨sights, hsights⟩ := hreceived middle
    refine ⟨sights, ?_⟩
    unfold Receive.receiveExecuteResult
    dsimp only
    rw [hsights]
    dsimp only
    rw [if_pos hstatus, hmiddle]
    rfl
  · rw [if_neg hstatus]
    refine ⟨status, left, { after with diagnostic := after.diagnostic.orLocal },
      ⟨hafter.near, hafter.allocs⟩, rfl, fun later => ?_⟩
    obtain ⟨sights, hsights⟩ := hreceived later
    refine ⟨sights, ?_⟩
    unfold Receive.receiveExecuteResult
    dsimp only
    rw [hsights]
    exact if_neg hstatus

theorem receiveExecuteResult_mirrors_threeGroups :
    Mirrors extendedCaps
      (receiveExecuteResult sizesLp64 (fun _ => true) extendedCaps
        ⟨wireBytes extendedCaps threeGroups, attentive⟩)
      fun sights => Receive.receiveExecuteResult extendedCaps threeGroups
        (attentive.scene sights) :=
  receiveExecuteResult_mirrors (fun _ => rfl) framed_threeGroups
    ready_attentive

end Libsqli.Dispatch
