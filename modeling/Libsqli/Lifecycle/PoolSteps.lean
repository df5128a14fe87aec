import Libsqli.Lifecycle.Pooling

namespace Libsqli.Lease

variable {n : Nat} {s next : State n} {event : Event n}

/-- The mutex is free or held for this slot. -/
def PoolHold.About (hold : PoolHold n) (slot : Fin n) : Prop :=
  hold.slot = none ∨ hold.slot = some slot

/-- A step of the pool is about one slot: whatever it changes belongs to that
slot or is new. -/
structure Local (s next : State n) (slot : Fin n) : Prop where
  slots : ∀ {other}, other ≠ slot → next.slots other = s.slots other
  leases : ∀ {other}, other ≠ slot → next.leases other = s.leases other
  reconnects : ∀ {other}, other ≠ slot →
    next.reconnects other = s.reconnects other
  hold : next.hold = s.hold ∨ s.hold.About slot ∧ next.hold.About slot
  conns : ∀ {id}, id < s.nextConn → (s.slots slot).conn ≠ some id →
    next.conns id = s.conns id ∧ next.published id = s.published id
  conn : ∀ {id}, (next.slots slot).conn = some id →
    (s.slots slot).conn = some id ∨ s.nextConn ≤ id
  fresh : ∀ {id}, next.nextConn ≤ id → s.nextConn ≤ id ∧
    next.conns id = s.conns id ∧ next.published id = s.published id
  shutdown : next.shuttingDown = true → s.shuttingDown = true ∧
    ((s.slots slot).inUse = false → (next.slots slot).inUse = false)
  unpinned : next.hold.Unpinned

theorem Pooling.of_local (h : Pooling s) (slot : Fin n)
    (hlocal : Local s next slot) (hcase : SlotCase next slot) :
    Pooling next where
  slots other := by
    by_cases hne : other = slot
    · exact hne ▸ hcase
    · have hhold : next.hold.slot = some other ∨ s.hold.slot = some other →
          next.hold = s.hold := by
        intro hother
        rcases hlocal.hold with hsame | ⟨hbefore, hafter⟩
        · exact hsame
        · have hslot : some other = some slot := by
            rcases hother with hother | hother
            · exact hother.symm.trans (hafter.resolve_left (by simp [hother]))
            · exact hother.symm.trans (hbefore.resolve_left (by simp [hother]))
          exact (hne (Option.some.inj hslot)).elim
      refine (h.slots other).frame (hlocal.slots hne) (hlocal.leases hne)
        (hlocal.reconnects hne) hhold ?_
      intro id hid
      refine hlocal.conns (h.slot_lt_next hid) ?_
      intro hsame
      exact hne (h.distinct hid hsame)
  distinct := by
    have hold : ∀ {other id}, (next.slots other).conn = some id →
        (s.slots other).conn = some id ∨ other = slot ∧ s.nextConn ≤ id := by
      intro other id hid
      by_cases hne : other = slot
      · subst hne
        exact (hlocal.conn hid).imp_right fun hge => ⟨rfl, hge⟩
      · rw [hlocal.slots hne] at hid
        exact Or.inl hid
    intro left right id hleft hright
    rcases hold hleft with hleft | ⟨rfl, hge⟩
    · rcases hold hright with hright | ⟨rfl, hge⟩
      · exact h.distinct hleft hright
      · exact absurd (h.slot_lt_next hleft) (Nat.not_lt.mpr hge)
    · rcases hold hright with hright | ⟨rfl, -⟩
      · exact absurd (h.slot_lt_next hright) (Nat.not_lt.mpr hge)
      · rfl
  fresh := by
    intro id hid
    obtain ⟨hge, hconn, hshown⟩ := hlocal.fresh hid
    rw [hconn, hshown]
    exact h.fresh hge
  shutdown := by
    intro hshutting other
    obtain ⟨hbefore, hkept⟩ := hlocal.shutdown hshutting
    by_cases hne : other = slot
    · subst hne
      exact hkept (h.shutdown hbefore other)
    · rw [hlocal.slots hne]
      exact h.shutdown hbefore other
  unpinned := hlocal.unpinned

theorem findAvailable_eq_some {slots : Fin n → Slot} {slot : Fin n}
    (hfound : findAvailable slots = some slot) :
    (slots slot).inUse = false := by
  have hfree := List.find?_some hfound
  simpa using hfree

theorem findConn_eq_some {slots : Fin n → Slot} {id : ConnId} {slot : Fin n}
    (hfound : findConn slots id = some slot) :
    (slots slot).conn = some id := by
  have hconn := List.find?_some hfound
  simpa using hconn

/-! What the mutex holder and the reconnecting acquire know of their slot. -/

namespace SlotCase

variable {slot : Fin n} {holder : Holder} {id : ConnId}

theorem of_free (h : SlotCase s slot) (hfree : (s.slots slot).inUse = false) :
    Rests s slot (fun _ => True) ∧ s.leases slot = none ∧
      s.reconnects slot = none ∧ s.hold.slot ≠ some slot := by
  cases h with
  | idle _ hrest hnone hquiet hout => exact ⟨hrest, hnone, hquiet, hout⟩
  | probing huse | pending huse => simp [hfree] at huse
  | clearing hcase | vacant hcase | opened hcase | leased hcase =>
      simp [hcase] at hfree

theorem of_probing (h : SlotCase s slot)
    (hhold : s.hold = .probing holder slot) :
    (s.slots slot).inUse = true ∧ Rests s slot (fun _ => True) ∧
      s.leases slot = none ∧ s.reconnects slot = none := by
  have hslot : s.hold.slot = some slot := by
    rw [hhold]
    rfl
  cases h with
  | idle _ _ _ _ hout | pending _ _ _ _ hout => exact (hout hslot).elim
  | vacant _ _ _ _ hout | opened _ _ _ _ _ hout => exact (hout hslot).elim
  | probing huse hrest hnone hquiet => exact ⟨huse, hrest, hnone, hquiet⟩
  | clearing _ _ _ _ _ _ hheld => simp [hhold] at hheld
  | leased _ _ _ _ hrelease =>
      have hnot := hrelease hslot
      simp [hhold, PoolHold.release] at hnot

theorem of_clearing (h : SlotCase s slot)
    (hhold : s.hold = .clearing holder slot id) :
    s.slots slot = ⟨some id, true⟩ ∧ s.leases slot = none ∧
      s.reconnects slot = none ∧ ∃ conn, s.conns id = some conn ∧
        conn.lifecycle.released = true ∧ conn.usable = true := by
  have hslot : s.hold.slot = some slot := by
    rw [hhold]
    rfl
  cases h with
  | idle _ _ _ _ hout | pending _ _ _ _ hout => exact (hout hslot).elim
  | vacant _ _ _ _ hout | opened _ _ _ _ _ hout => exact (hout hslot).elim
  | probing _ _ _ _ hheld => simp [hhold] at hheld
  | clearing hcase hconn hreleased husable hnone hquiet hheld =>
      obtain ⟨-, -, rfl⟩ := PoolHold.clearing.inj (hhold.symm.trans hheld)
      exact ⟨hcase, hnone, hquiet, _, hconn, hreleased, husable⟩
  | leased _ _ _ _ hrelease =>
      have hnot := hrelease hslot
      simp [hhold, PoolHold.release] at hnot

theorem of_pending (h : SlotCase s slot)
    (hstage : s.reconnects slot = some (holder, .pending)) :
    (s.slots slot).inUse = true ∧
      Rests s slot (fun conn => conn.usable = false) ∧
      s.leases slot = none ∧ s.hold.slot ≠ some slot := by
  cases h with
  | idle _ _ _ hquiet | probing _ _ _ hquiet => simp [hquiet] at hstage
  | clearing _ _ _ _ _ hquiet | leased _ _ _ hquiet =>
      simp [hquiet] at hstage
  | pending huse hrest hnone _ hout => exact ⟨huse, hrest, hnone, hout⟩
  | vacant _ _ hother hcase =>
      rw [hstage] at hother
      obtain ⟨-, rfl⟩ := Prod.mk.inj (Option.some.inj hother)
      simp at hcase
  | opened _ _ _ _ hother => simp [hstage] at hother

theorem of_vacant (h : SlotCase s slot) {stage : Reconnect}
    (hstage : s.reconnects slot = some (holder, stage))
    (hvacant : stage = .opening ∨ stage = .done false) :
    s.slots slot = ⟨none, true⟩ ∧ s.leases slot = none ∧
      s.hold.slot ≠ some slot := by
  cases h with
  | idle _ _ _ hquiet | probing _ _ _ hquiet => simp [hquiet] at hstage
  | clearing _ _ _ _ _ hquiet | leased _ _ _ hquiet =>
      simp [hquiet] at hstage
  | pending _ _ _ hother =>
      rw [hstage] at hother
      obtain ⟨-, rfl⟩ := Prod.mk.inj (Option.some.inj hother)
      simp at hvacant
  | vacant hcase hnone _ _ hout => exact ⟨hcase, hnone, hout⟩
  | opened _ _ _ _ hother =>
      rw [hstage] at hother
      obtain ⟨-, rfl⟩ := Prod.mk.inj (Option.some.inj hother)
      simp at hvacant

theorem of_opened (h : SlotCase s slot)
    (hstage : s.reconnects slot = some (holder, .done true)) :
    ∃ id transport, s.slots slot = ⟨some id, true⟩ ∧
      s.conns id = some (.connected transport) ∧ s.leases slot = none ∧
      s.hold.slot ≠ some slot := by
  cases h with
  | idle _ _ _ hquiet | probing _ _ _ hquiet => simp [hquiet] at hstage
  | clearing _ _ _ _ _ hquiet | leased _ _ _ hquiet =>
      simp [hquiet] at hstage
  | pending _ _ _ hother => simp [hstage] at hother
  | vacant _ _ hother hcase =>
      rw [hstage] at hother
      obtain ⟨-, rfl⟩ := Prod.mk.inj (Option.some.inj hother)
      simp at hcase
  | opened hcase hconn _ hnone _ hout =>
      exact ⟨_, _, hcase, hconn, hnone, hout⟩

theorem of_release (h : SlotCase s slot)
    (hhold : s.hold.release = some (holder, slot, id)) :
    s.slots slot = ⟨some id, true⟩ ∧ s.leases slot = some (holder, id) ∧
      s.reconnects slot = none := by
  have hslot := PoolHold.slot_of_release hhold
  cases h with
  | idle _ _ _ _ hout | pending _ _ _ _ hout => exact (hout hslot).elim
  | vacant _ _ _ _ hout | opened _ _ _ _ _ hout => exact (hout hslot).elim
  | probing _ _ _ _ hheld | clearing _ _ _ _ _ _ hheld =>
      simp [hheld, PoolHold.release] at hhold
  | leased hcase hconn hlease hquiet hrelease =>
      have hsame := hrelease hslot
      rw [hhold] at hsame
      simp only [Option.some.injEq, Prod.mk.injEq] at hsame
      obtain ⟨rfl, -, rfl⟩ := hsame
      exact ⟨hcase, hlease, hquiet⟩

end SlotCase

namespace State

variable {id : ConnId} {conn : Conn}

@[simp] theorem destroyConn_slots :
    (s.destroyConn id conn).slots = s.slots := by
  unfold destroyConn
  split <;> rfl

@[simp] theorem destroyConn_leases :
    (s.destroyConn id conn).leases = s.leases := by
  unfold destroyConn
  split <;> rfl

@[simp] theorem destroyConn_reconnects :
    (s.destroyConn id conn).reconnects = s.reconnects := by
  unfold destroyConn
  split <;> rfl

@[simp] theorem destroyConn_hold :
    (s.destroyConn id conn).hold = s.hold := by
  unfold destroyConn
  split <;> rfl

@[simp] theorem destroyConn_nextConn :
    (s.destroyConn id conn).nextConn = s.nextConn := by
  unfold destroyConn
  split <;> rfl

@[simp] theorem destroyConn_published :
    (s.destroyConn id conn).published = s.published := by
  unfold destroyConn
  split <;> rfl

@[simp] theorem destroyConn_shuttingDown :
    (s.destroyConn id conn).shuttingDown = s.shuttingDown := by
  unfold destroyConn
  split <;> rfl

theorem destroyConn_conns {other : ConnId} (hne : other ≠ id) :
    (s.destroyConn id conn).conns other = s.conns other := by
  unfold destroyConn
  split
  · rfl
  · exact Function.update_of_ne hne _ _

end State

/-- A connection that lies in the pool, or was never handed out, is freed. -/
theorem local_of_destroyConn (h : Pooling s) {slot : Fin n} {id : ConnId}
    {conn : Conn} (hslot : (s.slots slot).conn = some id)
    (hconn : s.conns id = some conn) :
    (∀ {other}, (s.slots slot).conn ≠ some other →
      (s.destroyConn id conn).conns other = s.conns other) ∧
    ∀ {other}, s.nextConn ≤ other →
      (s.destroyConn id conn).conns other = s.conns other := by
  refine ⟨?_, ?_⟩
  · intro other hne
    exact State.destroyConn_conns fun heq => hne (heq ▸ hslot)
  · intro other hge
    exact State.destroyConn_conns (h.new_ne hconn hge)

/-! The steps of an acquire. -/

namespace Pooling

variable {slot : Fin n} {holder : Holder} {id : ConnId} {conn : Conn}

theorem take (h : Pooling s) (hhold : s.hold = .free)
    (hopen : s.shuttingDown = false)
    (hfound : findAvailable s.slots = some slot) :
    Pooling ((s.setSlot slot (s.slots slot).conn true).setHold
      (.probing holder slot)) := by
  have hfree := findAvailable_eq_some hfound
  obtain ⟨hrest, hnone, hquiet, hout⟩ := (h.slots slot).of_free hfree
  apply h.of_local slot
  · constructor <;> simp +contextual [hhold, PoolHold.About,
      PoolHold.slot, PoolHold.Unpinned, hopen]
  · refine .probing ?_ ?_ hnone hquiet rfl
    · simp
    · simpa [Rests] using hrest

theorem probeAlive (h : Pooling s) (hhold : s.hold = .probing holder slot)
    (hslot : (s.slots slot).conn = some id) (hconn : s.conns id = some conn)
    (husable : conn.usable = true) :
    Pooling (s.setHold (.clearing holder slot id)) := by
  obtain ⟨huse, hrest, hnone, hquiet⟩ := (h.slots slot).of_probing hhold
  obtain ⟨other, hother, hreleased, -⟩ := hrest id hslot
  rw [hconn] at hother
  obtain rfl := Option.some.inj hother
  apply h.of_local slot
  · constructor <;> simp +contextual [hhold, PoolHold.About,
      PoolHold.slot, PoolHold.Unpinned]
  · refine .clearing ?_ hconn hreleased husable hnone hquiet rfl
    exact Slot.ext hslot huse

theorem probeDead (h : Pooling s) (hhold : s.hold = .probing holder slot)
    (hslot : (s.slots slot).conn = some id)
    (hconn : s.conns id = some conn) :
    Pooling ((((s.destroyConn id conn).setSlot slot none true).setHold
      .free).setReconnect slot (some (holder, .pending))) := by
  obtain ⟨huse, hrest, hnone, hquiet⟩ := (h.slots slot).of_probing hhold
  obtain ⟨hkept, hnew⟩ := local_of_destroyConn h hslot hconn
  apply h.of_local slot
  · constructor <;> simp +contextual [hhold, PoolHold.About,
      PoolHold.slot, PoolHold.Unpinned, hkept, hnew, huse]
  · refine .pending ?_ ?_ ?_ (Function.update_self _ _ _) ?_
    · simp
    · simp [Rests]
    · simpa using hnone
    · simp [PoolHold.slot]

theorem probeUnusable (h : Pooling s) (hhold : s.hold = .probing holder slot)
    (hunusable : ∀ id conn, (s.slots slot).conn = some id →
      s.conns id = some conn → conn.usable = false) :
    Pooling ((s.setHold .free).setReconnect slot
      (some (holder, .pending))) := by
  obtain ⟨huse, hrest, hnone, hquiet⟩ := (h.slots slot).of_probing hhold
  apply h.of_local slot
  · constructor <;> simp +contextual [hhold, PoolHold.About,
      PoolHold.slot, PoolHold.Unpinned]
  · refine .pending huse ?_ hnone (Function.update_self _ _ _) ?_
    · intro id hid
      obtain ⟨conn, hconn, hreleased, -⟩ := hrest id hid
      exact ⟨conn, hconn, hreleased, hunusable id conn hid hconn⟩
    · simp [PoolHold.slot]

theorem clear (h : Pooling s) (hhold : s.hold = .clearing holder slot id)
    (hconn : s.conns id = some conn) :
    Pooling (((s.setConn id (conn.withLifecycle
      conn.lifecycle.unrelease)).grant slot holder id).setHold .free) := by
  obtain ⟨hcase, hnone, hquiet, -⟩ := (h.slots slot).of_clearing hhold
  apply h.of_local slot
  · constructor
    case conns =>
      intro other _ hne
      have hother : other ≠ id := fun heq => hne (by rw [hcase, heq])
      simp [hother]
    case fresh =>
      intro other hge
      simpa [h.new_ne hconn hge] using hge
    all_goals simp +contextual [hhold, PoolHold.About, PoolHold.slot,
      PoolHold.Unpinned]
  · refine .leased hcase (Function.update_self _ _ _)
      (Function.update_self _ _ _) hquiet ?_ ?_
    · simp [PoolHold.slot]
    · simp

/-- The reconnect goes on to its next stage. -/
theorem advance (h : Pooling s) {stage : Option (Holder × Reconnect)}
    (hcase : SlotCase (s.setReconnect slot stage) slot) :
    Pooling (s.setReconnect slot stage) := by
  apply h.of_local slot
  · constructor <;> simp +contextual [h.unpinned]
  · exact hcase

/-- A connection that is to be reopened cannot be used. -/
theorem pending_unusable (h : Pooling s)
    (hstage : s.reconnects slot = some (holder, .pending))
    (hslot : (s.slots slot).conn = some id)
    (hconn : s.conns id = some conn) : conn.usable = false := by
  obtain ⟨-, hrest, -⟩ := (h.slots slot).of_pending hstage
  obtain ⟨other, hother, -, hunusable⟩ := hrest id hslot
  rw [hconn] at hother
  obtain rfl := Option.some.inj hother
  exact hunusable

theorem drop (h : Pooling s)
    (hstage : s.reconnects slot = some (holder, .pending))
    (hslot : (s.slots slot).conn = some id)
    (hconn : s.conns id = some conn) :
    Pooling (((s.destroyConn id conn).setSlot slot none
      (s.slots slot).inUse).setReconnect slot (some (holder, .opening))) := by
  obtain ⟨huse, -, hnone, hout⟩ := (h.slots slot).of_pending hstage
  obtain ⟨hkept, hnew⟩ := local_of_destroyConn h hslot hconn
  apply h.of_local slot
  · constructor <;> simp +contextual [hkept, hnew, h.unpinned]
  · refine .vacant ?_ ?_ (Function.update_self _ _ _) (Or.inl rfl) ?_
    · simpa using huse
    · simpa using hnone
    · simpa using hout

theorem openConnected (h : Pooling s) (transport : Transport)
    (hstage : s.reconnects slot = some (holder, .opening)) :
    Pooling { ((s.setConn s.nextConn (.connected transport)).setSlot slot
        (some s.nextConn) (s.slots slot).inUse).setReconnect slot
          (some (holder, .done true)) with
      nextConn := s.nextConn + 1 } := by
  obtain ⟨hcase, hnone, hout⟩ := (h.slots slot).of_vacant hstage (Or.inl rfl)
  apply h.of_local slot
  · constructor
    case conns =>
      intro other hlt _
      simp [Nat.ne_of_lt hlt]
    case fresh =>
      intro other hge
      have hlt : s.nextConn < other := hge
      simpa [Nat.ne_of_gt hlt] using Nat.le_of_lt hlt
    all_goals simp +contextual [h.unpinned]
  · refine .opened ?_ (Function.update_self _ _ _)
      (h.fresh (Nat.le_refl _)).2 hnone (Function.update_self _ _ _) hout
    simp [hcase]

theorem abandon (h : Pooling s)
    (hstage : s.reconnects slot = some (holder, .done true))
    (hslot : (s.slots slot).conn = some id)
    (hconn : s.conns id = some conn) :
    Pooling (((s.destroyConn id conn).setSlot slot none false).setReconnect
      slot none) := by
  obtain ⟨-, -, hcase, -, hnone, hout⟩ := (h.slots slot).of_opened hstage
  obtain ⟨hkept, hnew⟩ := local_of_destroyConn h hslot hconn
  apply h.of_local slot
  · constructor <;> simp +contextual [hkept, hnew, h.unpinned]
  · refine .idle ?_ ?_ ?_ ?_ ?_
    · simp
    · simp [Rests]
    · simpa using hnone
    · simp
    · simpa using hout

theorem fail (h : Pooling s)
    (hstage : s.reconnects slot = some (holder, .done false)) :
    Pooling ((s.setSlot slot (s.slots slot).conn false).setReconnect
      slot none) := by
  obtain ⟨hcase, hnone, hout⟩ := (h.slots slot).of_vacant hstage (Or.inr rfl)
  apply h.of_local slot
  · constructor <;> simp +contextual [h.unpinned]
  · refine .idle ?_ ?_ hnone ?_ hout
    · simp
    · simp [Rests, hcase]
    · simp

theorem hand (h : Pooling s)
    (hstage : s.reconnects slot = some (holder, .done true))
    (hslot : (s.slots slot).conn = some id) :
    Pooling ((s.grant slot holder id).setReconnect slot none) := by
  obtain ⟨found, transport, hcase, hconn, hnone, hout⟩ :=
    (h.slots slot).of_opened hstage
  obtain rfl : found = id := by simpa [hcase] using hslot
  apply h.of_local slot
  · constructor
    case conns =>
      intro other _ hne
      have hother : other ≠ found := fun heq => hne (by rw [hcase, heq])
      simp [hother]
    case fresh =>
      intro other hge
      simpa [h.new_ne hconn hge] using hge
    all_goals simp +contextual [h.unpinned]
  · refine .leased hcase hconn (Function.update_self _ _ _) ?_ ?_ ?_
    · simp
    · exact fun hslot => (hout hslot).elim
    · intro hdiscarding
      have hheld : s.hold = .discarding holder slot found := hdiscarding
      exact (hout (by rw [hheld]; rfl)).elim

end Pooling

theorem AcquireStep.pooling (h : Pooling s)
    (hstep : AcquireStep s event next) : Pooling next := by
  cases hstep with
  | take hhold hopen hfound => exact h.take hhold hopen hfound
  | wait => exact h
  | probeAlive hhold hslot hconn husable =>
      exact h.probeAlive hhold hslot hconn husable
  | probeDead hhold hslot hconn => exact h.probeDead hhold hslot hconn
  | probeUnusable hhold hunusable => exact h.probeUnusable hhold hunusable
  | clear hhold hconn => exact h.clear hhold hconn
  | keep hstage hslot hconn husable =>
      rw [h.pending_unusable hstage hslot hconn] at husable
      cases husable
  | drop hstage hslot hconn => exact h.drop hstage hslot hconn
  | @dropNone _ slot hstage hslot =>
      obtain ⟨huse, -, hnone, hout⟩ := (h.slots slot).of_pending hstage
      exact h.advance (.vacant (Slot.ext hslot huse) hnone
        (Function.update_self _ _ _) (Or.inl rfl) hout)
  | @openFailed _ slot hstage =>
      obtain ⟨hcase, hnone, hout⟩ :=
        (h.slots slot).of_vacant hstage (Or.inl rfl)
      exact h.advance (.vacant hcase hnone (Function.update_self _ _ _)
        (Or.inr rfl) hout)
  | openConnected transport hstage => exact h.openConnected transport hstage
  | abandon _ hstage _ hslot hconn => exact h.abandon hstage hslot hconn
  | fail _ hstage => exact h.fail hstage
  | hand _ hstage _ hslot => exact h.hand hstage hslot

/-- The holder of the mutex changes the connection it is releasing and moves
on, or gives the mutex back. -/
theorem Pooling.moveRelease (h : Pooling s) {slot : Fin n} {holder : Holder}
    {id : ConnId} {conn : Conn} (target : Conn) {hold : PoolHold n}
    (hhold : s.hold.release = some (holder, slot, id))
    (hconn : s.conns id = some conn) (hunpinned : hold.Unpinned)
    (hafter : hold = .free ∨ hold.release = some (holder, slot, id))
    (hmarked : hold = .discarding holder slot id →
      target.lifecycle.released = true) :
    Pooling ((s.setConn id target).setHold hold) := by
  obtain ⟨hcase, hlease, hquiet⟩ := (h.slots slot).of_release hhold
  apply h.of_local slot
  · constructor
    case hold =>
      refine Or.inr ⟨Or.inr (PoolHold.slot_of_release hhold), ?_⟩
      rcases hafter with rfl | hafter
      · exact Or.inl rfl
      · exact Or.inr (PoolHold.slot_of_release hafter)
    case conns =>
      intro other _ hne
      have hother : other ≠ id := fun heq => hne (by rw [hcase, heq])
      simp [hother]
    case fresh =>
      intro other hge
      simpa [h.new_ne hconn hge] using hge
    all_goals simp +contextual [hunpinned]
  · refine .leased hcase (Function.update_self _ _ _) hlease hquiet ?_ hmarked
    intro hslot
    rcases hafter with rfl | hafter
    · cases hslot
    · exact hafter

/-- The lease ends and the connection lies in the pool. -/
theorem Pooling.endLease (h : Pooling s) {slot : Fin n} {holder : Holder}
    {id : ConnId} {conn : Conn} (target : Conn)
    (hhold : s.hold.release = some (holder, slot, id))
    (hconn : s.conns id = some conn)
    (hreleased : target.lifecycle.released = true) :
    Pooling ((((s.setConn id target).setSlot slot (s.slots slot).conn
      false).revoke slot).setHold .free) := by
  obtain ⟨hcase, hlease, hquiet⟩ := (h.slots slot).of_release hhold
  apply h.of_local slot
  · constructor
    case hold =>
      exact Or.inr ⟨Or.inr (PoolHold.slot_of_release hhold), Or.inl rfl⟩
    case conns =>
      intro other _ hne
      have hother : other ≠ id := fun heq => hne (by rw [hcase, heq])
      simp [hother]
    case fresh =>
      intro other hge
      simpa [h.new_ne hconn hge] using hge
    all_goals simp +contextual [PoolHold.Unpinned]
  · refine .idle ?_ ?_ ?_ hquiet ?_
    · simp
    · simpa [Rests, hcase] using hreleased
    · simp
    · simp [PoolHold.slot]

theorem ReleaseStep.pooling (h : Pooling s)
    (hstep : ReleaseStep s event next) : Pooling next := by
  have hword : ∀ {word expected stored : Lifecycle},
      word.compareExchange expected expected.release = some stored →
        stored.released = true := by
    intro word expected stored hexchange
    obtain ⟨-, rfl⟩ := Lifecycle.compareExchange_eq_some.mp hexchange
    rfl
  cases hstep with
  | @enter holder lease slot id conn hhold hlease hfound hconn huse hclear =>
      have hslot := findConn_eq_some hfound
      obtain ⟨hcase, hquiet, -⟩ := (h.slots lease).lease_slot hlease
      obtain rfl := h.distinct (by rw [hcase]) hslot
      apply h.of_local lease
      · constructor <;> simp +contextual [hhold, PoolHold.About,
          PoolHold.slot, PoolHold.Unpinned, hclear]
      · exact .leased hcase hconn hlease hquiet (fun _ => rfl) (by simp)
  | refuse | stale => exact h
  | @swapFailed holder slot id conn expected hhold hconn hexchange =>
      have hrelease : s.hold.release = some (holder, slot, id) := by
        rw [hhold]
        rfl
      have hmoved : Pooling ((s.setConn id conn).setHold .free) :=
        h.moveRelease conn hrelease hconn trivial (Or.inl rfl) (by simp)
      rwa [State.setConn_self hconn] at hmoved
  | @swap holder slot id conn expected word hhold hconn hexchange hkept =>
      exact h.endLease _ (by rw [hhold]; rfl) hconn (hword hexchange)
  | @swapDiscarded holder slot id conn expected word hhold hconn hexchange =>
      exact h.moveRelease _ (by rw [hhold]; rfl) hconn trivial (Or.inr rfl)
        fun _ => hword hexchange
  | @discard holder slot id conn outcome hhold hconn hok =>
      have hrelease : s.hold.release = some (holder, slot, id) := by
        rw [hhold]
        rfl
      obtain ⟨-, hlease, -⟩ := (h.slots slot).of_release hrelease
      obtain ⟨-, -, -, hmarked⟩ := (h.slots slot).lease_slot hlease
      exact h.endLease _ hrelease hconn (hmarked conn hconn hhold)
  | @discardFailed holder slot id conn outcome hhold hconn hfailed =>
      exact h.moveRelease _ (by rw [hhold]; rfl) hconn trivial (Or.inr rfl)
        (by simp)
  | @restore holder slot id conn hhold hconn =>
      exact h.moveRelease _ (by rw [hhold]; rfl) hconn trivial (Or.inl rfl)
        (by simp)

theorem DestroyStep.pooling (h : Pooling s)
    (hstep : DestroyStep s event next) : Pooling next := by
  cases hstep with
  | refuse => exact h
  | shutdown hhold hfree =>
      refine ⟨?_, h.distinct, h.fresh, fun _ => hfree, h.unpinned⟩
      exact fun slot => (h.slots slot).frame rfl rfl rfl (fun _ => rfl)
        fun _ _ => ⟨rfl, rfl⟩
  | @teardown slot id conn outcome hshutting hslot hconn hok =>
      obtain ⟨hrest, hnone, hquiet, hout⟩ :=
        (h.slots slot).of_free (h.shutdown hshutting slot)
      apply h.of_local slot
      · constructor
        case conns =>
          intro other _ hne
          have hother : other ≠ id := fun heq => hne (by rw [hslot, heq])
          simp [State.destroyConn_conns hother, hother]
        case fresh =>
          intro other hge
          have hbound : s.nextConn ≤ other := by simpa using hge
          have hother := h.new_ne hconn hbound
          simp [State.destroyConn_conns hother, hother, hbound]
        all_goals simp +contextual [h.unpinned]
      · refine .idle ?_ ?_ ?_ ?_ ?_
        · simp
        · simp [Rests]
        · simpa using hnone
        · simpa using hquiet
        · simpa using hout
  | @teardownFailed slot id conn outcome hshutting hslot hconn hfailed =>
      obtain ⟨hrest, hnone, hquiet, hout⟩ :=
        (h.slots slot).of_free (h.shutdown hshutting slot)
      obtain ⟨found, hfound, hreleased, -⟩ := hrest id hslot
      rw [hconn] at hfound
      obtain rfl := Option.some.inj hfound
      apply h.of_local slot
      · constructor
        case conns =>
          intro other _ hne
          have hother : other ≠ id := fun heq => hne (by rw [hslot, heq])
          simp [hother]
        case fresh =>
          intro other hge
          simpa [h.new_ne hconn hge] using hge
        all_goals simp +contextual [h.unpinned]
      · refine .idle (h.shutdown hshutting slot) ?_ hnone hquiet hout
        simpa [Rests, hslot] using hreleased

end Libsqli.Lease
