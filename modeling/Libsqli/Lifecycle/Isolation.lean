import Libsqli.Lifecycle.PoolSteps

namespace Libsqli.Lease

variable {n : Nat} {s next : State n} {event : Event n}

/-- What holds in every reachable state. -/
structure Invariant (s : State n) : Prop where
  pins : Pinned s.operations s.conns
  pooling : Pooling s

theorem poolCreate_invariant (n : Nat) (transport : Transport) :
    Invariant (poolCreate n transport) where
  pins := by
    refine ⟨fun _ => Operation.create_wellformed, ?_, ?_, ?_, ?_⟩
    · rintro op id ⟨⟩
    · rintro op other id ⟨⟩
    · rintro op id conn ⟨⟩
    · intro id conn hconn hpinned
      by_cases hid : id < n
      · obtain rfl := Option.some.inj ((if_pos hid).symm.trans hconn)
        cases hpinned
      · cases (if_neg hid).symm.trans hconn
  pooling := poolCreate_pooling n transport

theorem Step.invariant (h : Invariant s) (hstep : Step s event next) :
    Invariant next := by
  have hnext := h.pooling.next_unknown
  cases hstep with
  | client hstep =>
      exact ⟨hstep.pinned h.pins hnext, hstep.pooling h.pooling⟩
  | operation hstep =>
      exact ⟨hstep.pinned h.pins, hstep.pooling h.pooling h.pins⟩
  | acquire hstep =>
      exact ⟨hstep.pinned h.pins hnext, hstep.pooling h.pooling⟩
  | release hstep =>
      exact ⟨hstep.pinned h.pins h.pooling.unpinned, hstep.pooling h.pooling⟩
  | destroy hstep =>
      exact ⟨hstep.pinned h.pins, hstep.pooling h.pooling⟩

theorem invariant_of_run {transport : Transport} {events : List (Event n)}
    (hrun : Data.Run Step (poolCreate n transport) events s) : Invariant s :=
  hrun.invariant (poolCreate_invariant n transport)
    fun hholds hstep => hstep.invariant hholds

/-! A discarded connection stays discarded. -/

/-- What a step makes of the connections there were. -/
def KeepsDiscarded (s next : State n) : Prop :=
  s.nextConn ≤ next.nextConn ∧ ∀ {id target}, id < s.nextConn →
    next.conns id = some target → ∃ conn, s.conns id = some conn ∧
      (conn.lifecycle.discarded = true → target.lifecycle.discarded = true)

namespace KeepsDiscarded

theorem of_same (hnext : next.nextConn = s.nextConn)
    (hconns : next.conns = s.conns) : KeepsDiscarded s next := by
  refine ⟨by rw [hnext], ?_⟩
  intro id target _ htarget
  exact ⟨target, hconns ▸ htarget, fun hset => hset⟩

theorem of_update {id : ConnId} {conn target : Conn}
    (hconn : s.conns id = some conn) (hnext : next.nextConn = s.nextConn)
    (hconns : next.conns = Function.update s.conns id (some target))
    (hkept : conn.lifecycle.discarded = true →
      target.lifecycle.discarded = true) :
    KeepsDiscarded s next := by
  refine ⟨by rw [hnext], ?_⟩
  intro other found _ hfound
  rw [hconns] at hfound
  by_cases heq : other = id
  · subst heq
    obtain rfl : target = found := by simpa using hfound
    exact ⟨conn, hconn, hkept⟩
  · exact ⟨found, by simpa [heq] using hfound, fun hset => hset⟩

theorem of_destroyConn {id : ConnId} {conn : Conn}
    (hnext : next.nextConn = s.nextConn)
    (hconns : next.conns = (s.destroyConn id conn).conns) :
    KeepsDiscarded s next := by
  refine ⟨by rw [hnext], ?_⟩
  intro other found _ hfound
  rw [hconns] at hfound
  by_cases heq : other = id
  · subst heq
    unfold State.destroyConn at hfound
    split at hfound
    · exact ⟨found, hfound, fun hset => hset⟩
    · simp at hfound
  · rw [State.destroyConn_conns heq] at hfound
    exact ⟨found, hfound, fun hset => hset⟩

theorem of_new {target : Conn} (hnext : next.nextConn = s.nextConn + 1)
    (hconns : next.conns = Function.update s.conns s.nextConn (some target)) :
    KeepsDiscarded s next := by
  refine ⟨by rw [hnext]; exact Nat.le_succ _, ?_⟩
  intro other found hlt hfound
  rw [hconns, Function.update_of_ne (Nat.ne_of_lt hlt)] at hfound
  exact ⟨found, hfound, fun hset => hset⟩

theorem trans {middle last : State n} (hfirst : KeepsDiscarded s middle)
    (hlast : KeepsDiscarded middle last) : KeepsDiscarded s last := by
  refine ⟨Nat.le_trans hfirst.1 hlast.1, ?_⟩
  intro id target hlt htarget
  obtain ⟨between, hbetween, hafter⟩ :=
    hlast.2 (Nat.lt_of_lt_of_le hlt hfirst.1) htarget
  obtain ⟨conn, hconn, hbefore⟩ := hfirst.2 hlt hbetween
  exact ⟨conn, hconn, fun hset => hafter (hbefore hset)⟩

end KeepsDiscarded

theorem ClientStep.keepsDiscarded (hstep : ClientStep s event next) :
    KeepsDiscarded s next := by
  cases hstep with
  | create => exact .of_new rfl rfl
  | @connect id conn target hshown hconn hchecked =>
      have hsame := conn.admitConnect_lifecycle
      rw [hchecked] at hsame
      exact .of_update hconn rfl rfl fun hset => hsame ▸ hset
  | @connectRefused id conn target status hshown hconn hchecked hrefused =>
      have hsame := conn.admitConnect_lifecycle
      rw [hchecked] at hsame
      exact .of_update hconn rfl rfl fun hset => hsame ▸ hset
  | work state socket sqlcode hshown hconn howned =>
      exact .of_update hconn rfl rfl fun hset => hset
  | destroy hshown hconn hfree =>
      exact .of_destroyConn State.destroyConn_nextConn rfl

theorem OperationStep.keepsDiscarded (hstep : OperationStep s event next) :
    KeepsDiscarded s next := by
  cases hstep with
  | @register op id armed conn target word hfree hshown hconn hregister =>
      obtain ⟨-, hclear, -, -⟩ := Operation.register_eq_some hregister
      refine .of_update hconn rfl rfl ?_
      simp [hclear, Lifecycle.clear]
  | registered | arm | request | interrupt => exact .of_same rfl rfl
  | unpin hhold hconn => exact .of_update hconn rfl rfl fun hset => hset
  | armInterrupt _ _ _ hconn => exact .of_update hconn rfl rfl fun _ => rfl
  | requestInterrupt _ _ hconn => exact .of_update hconn rfl rfl fun _ => rfl
  | executionDiscard _ _ hconn => exact .of_update hconn rfl rfl fun _ => rfl
  | finish status _ _ _ hconn =>
      refine .of_update hconn rfl rfl ?_
      intro hset
      split
      · rfl
      · exact hset
  | dispose outcome _ hconn =>
      refine .of_update hconn rfl rfl ?_
      intro hset
      rw [if_pos hset]
      rfl

theorem AcquireStep.keepsDiscarded (hstep : AcquireStep s event next) :
    KeepsDiscarded s next := by
  cases hstep with
  | take | wait | probeAlive | probeUnusable | keep | dropNone | openFailed
  | fail | hand => exact .of_same rfl rfl
  | probeDead => exact .of_destroyConn (by simp) rfl
  | clear hhold hconn => exact .of_update hconn rfl rfl fun hset => hset
  | drop => exact .of_destroyConn (by simp) rfl
  | openConnected => exact .of_new rfl rfl
  | abandon => exact .of_destroyConn (by simp) rfl

theorem ReleaseStep.keepsDiscarded (hstep : ReleaseStep s event next) :
    KeepsDiscarded s next := by
  have hword : ∀ {conn : Conn} {expected word : Lifecycle},
      conn.lifecycle.compareExchange expected expected.release = some word →
        conn.lifecycle.discarded = true → word.discarded = true := by
    intro conn expected word hexchange hset
    obtain ⟨hsame, rfl⟩ := Lifecycle.compareExchange_eq_some.mp hexchange
    exact hsame ▸ hset
  cases hstep with
  | enter | refuse | stale | swapFailed => exact .of_same rfl rfl
  | swap _ hconn hexchange _ =>
      exact .of_update hconn rfl rfl (hword hexchange)
  | swapDiscarded _ hconn hexchange _ =>
      exact .of_update hconn rfl rfl (hword hexchange)
  | discard _ _ hconn _ => exact .of_update hconn rfl rfl fun _ => rfl
  | discardFailed _ _ hconn _ => exact .of_update hconn rfl rfl fun _ => rfl
  | restore _ hconn => exact .of_update hconn rfl rfl fun hset => hset

theorem DestroyStep.keepsDiscarded (hstep : DestroyStep s event next) :
    KeepsDiscarded s next := by
  cases hstep with
  | refuse | shutdown => exact .of_same rfl rfl
  | @teardown slot id conn outcome _ _ hconn _ =>
      have hmarked : KeepsDiscarded s (s.setConn id (conn.discard outcome).2) :=
        .of_update hconn rfl rfl fun _ => rfl
      exact hmarked.trans (.of_destroyConn (by simp) rfl)
  | teardownFailed outcome _ _ hconn _ =>
      exact .of_update hconn rfl rfl fun _ => rfl

theorem Step.keepsDiscarded (hstep : Step s event next) :
    KeepsDiscarded s next := by
  cases hstep with
  | client hstep => exact hstep.keepsDiscarded
  | operation hstep => exact hstep.keepsDiscarded
  | acquire hstep => exact hstep.keepsDiscarded
  | release hstep => exact hstep.keepsDiscarded
  | destroy hstep => exact hstep.keepsDiscarded

theorem keepsDiscarded_of_run {events : List (Event n)} {last : State n}
    (hrun : Data.Run Step s events last) : KeepsDiscarded s last :=
  hrun.relates (fun _ => .of_same rfl rfl) (fun hfirst hlast =>
    hfirst.trans hlast) fun hstep => hstep.keepsDiscarded

end Libsqli.Lease
