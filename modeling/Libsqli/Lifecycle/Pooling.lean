import Libsqli.Lifecycle.Pins

namespace Libsqli.Lease

variable {n : Nat} {s next : State n}

/-- The release a held mutex belongs to. -/
def PoolHold.release : PoolHold n → Option (Holder × Fin n × ConnId)
  | .releasing holder slot id _ => some (holder, slot, id)
  | .discarding holder slot id => some (holder, slot, id)
  | .restoring holder slot id => some (holder, slot, id)
  | _ => none

theorem PoolHold.slot_of_release {hold : PoolHold n} {holder : Holder}
    {slot : Fin n} {id : ConnId}
    (hrelease : hold.release = some (holder, slot, id)) :
    hold.slot = some slot := by
  cases hold with
  | releasing | discarding | restoring =>
      simp only [release, Option.some.injEq, Prod.mk.injEq] at hrelease
      simp [PoolHold.slot, hrelease.2.1]
  | free | probing | clearing => cases hrelease

/-- The slot's connection, if it has one, lies in the pool. -/
def Rests (s : State n) (slot : Fin n) (Also : Conn → Prop) : Prop :=
  ∀ id, (s.slots slot).conn = some id → ∃ conn, s.conns id = some conn ∧
    conn.lifecycle.released = true ∧ Also conn

/-- Where one slot stands between its leases. -/
inductive SlotCase (s : State n) (slot : Fin n) : Prop where
  | idle :
      (s.slots slot).inUse = false → Rests s slot (fun _ => True) →
        s.leases slot = none → s.reconnects slot = none →
          s.hold.slot ≠ some slot → SlotCase s slot
  | probing {holder : Holder} :
      (s.slots slot).inUse = true → Rests s slot (fun _ => True) →
        s.leases slot = none → s.reconnects slot = none →
          s.hold = .probing holder slot → SlotCase s slot
  | clearing {holder : Holder} {id : ConnId} {conn : Conn} :
      s.slots slot = ⟨some id, true⟩ → s.conns id = some conn →
        conn.lifecycle.released = true → conn.usable = true →
          s.leases slot = none → s.reconnects slot = none →
            s.hold = .clearing holder slot id → SlotCase s slot
  | pending {holder : Holder} :
      (s.slots slot).inUse = true →
        Rests s slot (fun conn => conn.usable = false) →
          s.leases slot = none →
            s.reconnects slot = some (holder, .pending) →
              s.hold.slot ≠ some slot → SlotCase s slot
  | vacant {holder : Holder} {stage : Reconnect} :
      s.slots slot = ⟨none, true⟩ → s.leases slot = none →
        s.reconnects slot = some (holder, stage) →
          stage = .opening ∨ stage = .done false →
            s.hold.slot ≠ some slot → SlotCase s slot
  | opened {holder : Holder} {id : ConnId} {transport : Transport} :
      s.slots slot = ⟨some id, true⟩ →
        s.conns id = some (.connected transport) → s.published id = false →
          s.leases slot = none →
            s.reconnects slot = some (holder, .done true) →
              s.hold.slot ≠ some slot → SlotCase s slot
  | leased {holder : Holder} {id : ConnId} {conn : Conn} :
      s.slots slot = ⟨some id, true⟩ → s.conns id = some conn →
        s.leases slot = some (holder, id) → s.reconnects slot = none →
          (s.hold.slot = some slot →
            s.hold.release = some (holder, slot, id)) →
            (s.hold = .discarding holder slot id →
              conn.lifecycle.released = true) → SlotCase s slot

namespace SlotCase

/-- A slot no step touches stays as it was. -/
theorem frame {slot : Fin n} (h : SlotCase s slot)
    (hslot : next.slots slot = s.slots slot)
    (hlease : next.leases slot = s.leases slot)
    (hreconnect : next.reconnects slot = s.reconnects slot)
    (hhold : next.hold.slot = some slot ∨ s.hold.slot = some slot →
      next.hold = s.hold)
    (hconns : ∀ id, (s.slots slot).conn = some id →
      next.conns id = s.conns id ∧ next.published id = s.published id) :
    SlotCase next slot := by
  have houtside : s.hold.slot ≠ some slot → next.hold.slot ≠ some slot := by
    intro hne heq
    exact hne (hhold (Or.inl heq) ▸ heq)
  have hrests : ∀ {Also}, Rests s slot Also → Rests next slot Also := by
    intro Also hrest id hid
    rw [hslot] at hid
    rw [(hconns id hid).1]
    exact hrest id hid
  cases h with
  | idle huse hrest hnone hquiet hout =>
      exact .idle (by rwa [hslot]) (hrests hrest) (by rwa [hlease])
        (by rwa [hreconnect]) (houtside hout)
  | probing huse hrest hnone hquiet hheld =>
      have hsame := hhold (Or.inr (by rw [hheld]; rfl))
      exact .probing (by rwa [hslot]) (hrests hrest) (by rwa [hlease])
        (by rwa [hreconnect]) (hsame.trans hheld)
  | @clearing holder id conn hcase hconn hreleased husable hnone hquiet hheld =>
      have hsame := hhold (Or.inr (by rw [hheld]; rfl))
      refine .clearing (hslot ▸ hcase) ?_ hreleased husable
        (by rwa [hlease]) (by rwa [hreconnect]) (hsame.trans hheld)
      rw [(hconns id (by rw [hcase])).1, hconn]
  | pending huse hrest hnone hquiet hout =>
      exact .pending (by rwa [hslot]) (hrests hrest) (by rwa [hlease])
        (hreconnect ▸ hquiet) (houtside hout)
  | vacant hcase hnone hquiet hstage hout =>
      exact .vacant (hslot ▸ hcase) (by rwa [hlease]) (hreconnect ▸ hquiet)
        hstage (houtside hout)
  | @opened holder id transport hcase hconn hhidden hnone hquiet hout =>
      obtain ⟨hsame, hshown⟩ := hconns id (by rw [hcase])
      exact .opened (hslot ▸ hcase) (hsame ▸ hconn) (hshown ▸ hhidden)
        (by rwa [hlease]) (hreconnect ▸ hquiet) (houtside hout)
  | @leased holder id conn hcase hconn hheld hquiet hrelease hmarked =>
      have hrecord := (hconns id (by rw [hcase])).1.trans hconn
      refine .leased (hslot ▸ hcase) hrecord (hlease ▸ hheld)
        (by rwa [hreconnect]) ?_ ?_
      · intro hout
        have hsame := hhold (Or.inl hout)
        rw [hsame] at hout ⊢
        exact hrelease hout
      · intro hdiscarding
        have hsame := hhold (Or.inl (by rw [hdiscarding]; rfl))
        exact hmarked (hsame ▸ hdiscarding)

/-- The connection of a slot has not been freed. -/
theorem alive {slot : Fin n} (h : SlotCase s slot) {id : ConnId}
    (hid : (s.slots slot).conn = some id) : ∃ conn, s.conns id = some conn := by
  cases h with
  | idle _ hrest | probing _ hrest | pending _ hrest =>
      obtain ⟨conn, hconn, -⟩ := hrest id hid
      exact ⟨conn, hconn⟩
  | clearing hcase hconn | opened hcase hconn | leased hcase hconn =>
      rw [hcase] at hid
      obtain rfl := Option.some.inj hid
      exact ⟨_, hconn⟩
  | vacant hcase => simp [hcase] at hid

/-- A lease is for the connection of its slot. -/
theorem lease_slot {slot : Fin n} (h : SlotCase s slot) {holder : Holder}
    {id : ConnId} (hlease : s.leases slot = some (holder, id)) :
    s.slots slot = ⟨some id, true⟩ ∧ s.reconnects slot = none ∧
      (s.hold.slot = some slot →
        s.hold.release = some (holder, slot, id)) ∧
      ∀ conn, s.conns id = some conn → s.hold = .discarding holder slot id →
        conn.lifecycle.released = true := by
  cases h with
  | idle _ _ hnone | probing _ _ hnone | pending _ _ hnone =>
      simp [hnone] at hlease
  | clearing _ _ _ _ hnone | vacant _ hnone | opened _ _ _ hnone =>
      simp [hnone] at hlease
  | leased hcase hconn hheld hquiet hrelease hmarked =>
      rw [hlease] at hheld
      obtain ⟨rfl, rfl⟩ := Prod.mk.inj (Option.some.inj hheld)
      refine ⟨hcase, hquiet, hrelease, ?_⟩
      intro other hother
      rw [hconn] at hother
      obtain rfl := Option.some.inj hother
      exact hmarked

/-- A slot whose connection the application or an operation may touch is
leased. -/
theorem leased_of_touched {slot : Fin n} (h : SlotCase s slot) {id : ConnId}
    {conn : Conn} (hid : (s.slots slot).conn = some id)
    (hconn : s.conns id = some conn)
    (hseen : s.published id = true ∨ conn.lifecycle.pinned = true)
    (hgate : conn.lifecycle.released = false ∨
      ∃ holder, s.leases slot = some (holder, id)) :
    ∃ holder, s.leases slot = some (holder, id) := by
  rcases hgate with hgate | hlease
  · have hrested : ∀ {Also}, Rests s slot Also → False := by
      intro Also hrest
      obtain ⟨other, hother, hreleased, -⟩ := hrest id hid
      rw [hconn] at hother
      obtain rfl := Option.some.inj hother
      simp [hgate] at hreleased
    cases h with
    | idle _ hrest | probing _ hrest | pending _ hrest =>
        exact (hrested hrest).elim
    | clearing hcase hother hreleased =>
        rw [hcase] at hid
        obtain rfl := Option.some.inj hid
        rw [hconn] at hother
        obtain rfl := Option.some.inj hother
        simp [hgate] at hreleased
    | vacant hcase => simp [hcase] at hid
    | opened hcase hother hhidden =>
        rw [hcase] at hid
        obtain rfl := Option.some.inj hid
        rw [hconn] at hother
        obtain rfl := Option.some.inj hother
        simp [hhidden, Conn.connected, Lifecycle.clear] at hseen
    | @leased holder _ _ hcase hother hheld =>
        rw [hcase] at hid
        obtain rfl := Option.some.inj hid
        exact ⟨holder, hheld⟩
  · exact hlease

/-- A leased slot says nothing about the record of its connection, except
that a release in progress has marked it. -/
theorem of_leased {slot : Fin n} (h : SlotCase s slot) {holder : Holder}
    {id : ConnId} {conn target : Conn}
    (hlease : s.leases slot = some (holder, id))
    (hconn : s.conns id = some conn)
    (hslot : next.slots slot = s.slots slot)
    (hleases : next.leases slot = s.leases slot)
    (hreconnect : next.reconnects slot = s.reconnects slot)
    (hhold : next.hold = s.hold) (htarget : next.conns id = some target)
    (hsame : target.lifecycle.released = conn.lifecycle.released) :
    SlotCase next slot := by
  obtain ⟨hcase, hquiet, hrelease, hmarked⟩ := h.lease_slot hlease
  refine .leased (hslot ▸ hcase) htarget (hleases ▸ hlease)
    (hreconnect ▸ hquiet) (hhold ▸ hrelease) ?_
  rw [hhold, hsame]
  exact hmarked conn hconn

end SlotCase

end Libsqli.Lease

namespace Libsqli.Lease

variable {n : Nat} {s next : State n} {event : Event n}

/-- The pool's bookkeeping: every slot is in one of its cases, no connection
lies in two slots, and no slot is in use once the pool shuts down. -/
structure Pooling (s : State n) : Prop where
  slots : ∀ slot, SlotCase s slot
  distinct : ∀ {left right id}, (s.slots left).conn = some id →
    (s.slots right).conn = some id → left = right
  fresh : ∀ {id}, s.nextConn ≤ id →
    s.conns id = none ∧ s.published id = false
  shutdown : s.shuttingDown = true → ∀ slot, (s.slots slot).inUse = false
  unpinned : s.hold.Unpinned

theorem poolCreate_pooling (n : Nat) (transport : Transport) :
    Pooling (poolCreate n transport) where
  slots slot := by
    refine .idle rfl ?_ rfl rfl (by simp [poolCreate, PoolHold.slot])
    rintro id ⟨⟩
    exact ⟨_, if_pos slot.isLt, rfl, trivial⟩
  distinct := by
    rintro left right id ⟨⟩ hright
    exact Fin.ext (Option.some.inj hright).symm
  fresh := by
    intro id hid
    exact ⟨if_neg (Nat.not_lt.mpr hid), rfl⟩
  shutdown := by
    rintro ⟨⟩
  unpinned := trivial

theorem State.setConn_self {id : ConnId} {conn : Conn}
    (hconn : s.conns id = some conn) : s.setConn id conn = s := by
  simp [State.setConn, ← hconn]

namespace Pooling

theorem next_unknown (h : Pooling s) : s.conns s.nextConn = none :=
  (h.fresh (Nat.le_refl _)).1

theorem lt_next (h : Pooling s) {id : ConnId} {conn : Conn}
    (hconn : s.conns id = some conn) : id < s.nextConn := by
  by_contra hge
  simp [(h.fresh (Nat.not_lt.mp hge)).1] at hconn

theorem new_ne (h : Pooling s) {id other : ConnId} {conn : Conn}
    (hconn : s.conns id = some conn) (hge : s.nextConn ≤ other) :
    other ≠ id := by
  rintro rfl
  exact absurd (h.lt_next hconn) (Nat.not_lt.mpr hge)

theorem slot_lt_next (h : Pooling s) {slot : Fin n} {id : ConnId}
    (hid : (s.slots slot).conn = some id) : id < s.nextConn := by
  obtain ⟨conn, hconn⟩ := (h.slots slot).alive hid
  exact h.lt_next hconn

/-- Only the operations changed. -/
theorem setOperation (h : Pooling s) (op : OperationId)
    (target : Operation) : Pooling (s.setOperation op target) where
  slots slot := (h.slots slot).frame rfl rfl rfl (fun _ => rfl)
    (fun _ _ => ⟨rfl, rfl⟩)
  distinct := h.distinct
  fresh := h.fresh
  shutdown := h.shutdown
  unpinned := h.unpinned

/-- The application or an operation changed a connection that does not lie in
the pool or is leased. -/
theorem setConn (h : Pooling s) {id : ConnId} {conn : Conn} (target : Conn)
    (hconn : s.conns id = some conn)
    (hseen : s.published id = true ∨ conn.lifecycle.pinned = true)
    (hgate : conn.lifecycle.released = false ∨ s.Owned id)
    (hsame : target.lifecycle.released = conn.lifecycle.released) :
    Pooling (s.setConn id target) where
  slots slot := by
    by_cases hid : (s.slots slot).conn = some id
    · have hheld : conn.lifecycle.released = false ∨
          ∃ holder, s.leases slot = some (holder, id) := by
        rcases hgate with hgate | ⟨lease, holder, hlease⟩ | hfree
        · exact Or.inl hgate
        · have hslot : (s.slots lease).conn = some id := by
            rw [((h.slots lease).lease_slot hlease).1]
          exact Or.inr ⟨holder, h.distinct hslot hid ▸ hlease⟩
        · exact (hfree ⟨slot, hid⟩).elim
      obtain ⟨holder, hlease⟩ :=
        (h.slots slot).leased_of_touched hid hconn hseen hheld
      have hrecord : (s.setConn id target).conns id = some target := by
        simp [State.setConn]
      exact (h.slots slot).of_leased hlease hconn rfl rfl rfl rfl hrecord hsame
    · refine (h.slots slot).frame rfl rfl rfl (fun _ => rfl) ?_
      intro other hother
      have hne : other ≠ id := fun heq => hid (heq ▸ hother)
      exact ⟨Function.update_of_ne hne _ _, rfl⟩
  distinct := h.distinct
  fresh := by
    intro other hother
    have hne := h.new_ne hconn hother
    exact ⟨(Function.update_of_ne hne _ _).trans (h.fresh hother).1,
      (h.fresh hother).2⟩
  shutdown := h.shutdown
  unpinned := h.unpinned

/-- A connection outside the pool appears or disappears. -/
theorem setOutside (h : Pooling s) (id : ConnId) (target : Option Conn)
    (hfree : ¬ s.Pooled id)
    (hnext : ∀ {other}, next.nextConn ≤ other →
      s.nextConn ≤ other ∧ other ≠ id)
    (hconns : next.conns = Function.update s.conns id target)
    (hpublished : ∀ {other}, other ≠ id →
      next.published other = s.published other)
    (hslots : next.slots = s.slots) (hleases : next.leases = s.leases)
    (hreconnects : next.reconnects = s.reconnects)
    (hhold : next.hold = s.hold)
    (hshutting : next.shuttingDown = s.shuttingDown) : Pooling next where
  slots slot := by
    refine (h.slots slot).frame (by rw [hslots]) (by rw [hleases])
      (by rw [hreconnects]) (fun _ => hhold) ?_
    intro other hother
    have hne : other ≠ id := fun heq => hfree ⟨slot, heq ▸ hother⟩
    exact ⟨by rw [hconns, Function.update_of_ne hne], hpublished hne⟩
  distinct := by
    rw [hslots]
    exact h.distinct
  fresh := by
    intro other hother
    obtain ⟨hge, hne⟩ := hnext hother
    rw [hconns, Function.update_of_ne hne, hpublished hne]
    exact h.fresh hge
  shutdown := by
    rw [hslots, hshutting]
    exact h.shutdown
  unpinned := by
    rw [hhold]
    exact h.unpinned

end Pooling

theorem ClientStep.pooling (h : Pooling s) (hstep : ClientStep s event next) :
    Pooling next := by
  cases hstep with
  | create =>
      refine h.setOutside s.nextConn (some .create) ?_ ?_ rfl ?_ rfl rfl rfl
        rfl rfl
      · rintro ⟨slot, hslot⟩
        exact Nat.lt_irrefl _ (h.slot_lt_next hslot)
      · intro other hother
        exact ⟨Nat.le_of_succ_le hother, Nat.ne_of_gt hother⟩
      · intro other hne
        exact Function.update_of_ne hne _ _
  | @connect id conn next hshown hconn hchecked =>
      have hsame : next.lifecycle = conn.lifecycle := by
        have hkept := conn.admitConnect_lifecycle
        rwa [hchecked] at hkept
      have hgate : conn.lifecycle.released = false := by
        rw [(Conn.admitConnect_ok (by rw [hchecked])).1]
        rfl
      exact h.setConn next hconn (Or.inl hshown) (Or.inl hgate)
        (congrArg Lifecycle.released hsame)
  | @connectRefused id conn next status hshown hconn hchecked hrefused =>
      have hsame : next.lifecycle = conn.lifecycle := by
        have hkept := conn.admitConnect_lifecycle
        rwa [hchecked] at hkept
      by_cases hgate : conn.lifecycle = .clear
      · have hreleased : conn.lifecycle.released = false := by
          rw [hgate]
          rfl
        exact h.setConn next hconn (Or.inl hshown) (Or.inl hreleased)
          (congrArg Lifecycle.released hsame)
      · rw [Conn.admitConnect_of_gate hgate] at hchecked
        obtain ⟨rfl, rfl⟩ := Prod.mk.inj hchecked
        rwa [State.setConn_self hconn]
  | work state socket sqlcode hshown hconn howned =>
      exact h.setConn _ hconn (Or.inl hshown) (Or.inr howned) rfl
  | @destroy id conn hshown hconn hfree =>
      unfold State.destroyConn
      split
      · exact h
      · refine h.setOutside id none hfree ?_ rfl (fun _ => rfl)
          rfl rfl rfl rfl rfl
        exact fun hother => ⟨hother, h.new_ne hconn hother⟩

theorem OperationStep.pooling (h : Pooling s)
    (hpins : Pinned s.operations s.conns)
    (hstep : OperationStep s event next) : Pooling next := by
  have htouch : ∀ {op id conn} (target : Conn) (action : Operation),
      (s.operations op).pin = some id → s.conns id = some conn →
        target.lifecycle.released = conn.lifecycle.released →
          Pooling ((s.setConn id target).setOperation op action) := by
    intro op id conn target action hpin hconn hsame
    have hpinned := hpins.pinned_of hpin hconn
    exact (h.setConn target hconn (Or.inr hpinned)
      (Or.inl (hpins.separate hconn hpinned)) hsame).setOperation op action
  cases hstep with
  | register hfree hshown hconn hregister =>
      obtain ⟨-, hclear, rfl, -⟩ := Operation.register_eq_some hregister
      have hgate := congrArg Lifecycle.released hclear
      exact (h.setConn _ hconn (Or.inl hshown) (Or.inl hgate)
        hgate.symm).setOperation _ _
  | registered | arm | request | interrupt => exact h.setOperation _ _
  | unpin hhold hconn =>
      exact htouch _ _ (by simp [Operation.pin, hhold]) hconn rfl
  | @armInterrupt op armed id conn hfree harm hhold hconn =>
      obtain ⟨pinned, hpin, -, -, -, -, hshape⟩ :=
        Operation.arm_spec (hpins.wellformed op) hfree harm
      obtain rfl : id = pinned := by simpa [hhold] using hshape
      exact htouch _ _ hpin hconn rfl
  | @requestInterrupt op id conn hfree hhold hconn =>
      obtain ⟨-, -, -, hshape⟩ :=
        Operation.request_spec (hpins.wellformed op) hfree
      obtain ⟨hpin, -⟩ : (s.operations op).pin = some id ∧ _ := by
        simpa [hhold] using hshape
      exact htouch _ _ hpin hconn rfl
  | @executionDiscard op id conn hactive hbound hconn =>
      have hpin := Operation.pin_of_bound (hpins.wellformed op) hactive hbound
      have hpinned := hpins.pinned_of hpin hconn
      exact h.setConn _ hconn (Or.inr hpinned)
        (Or.inl (hpins.separate hconn hpinned)) rfl
  | finish status hfree hactive hbound hconn =>
      refine htouch _ _ (by simp [Operation.pin, hfree, hactive, hbound]) hconn ?_
      split <;> rfl
  | dispose outcome hhold hconn =>
      refine htouch _ _ (by simp [Operation.pin, hhold]) hconn ?_
      split <;> rfl

end Libsqli.Lease
