import Libsqli.Lifecycle.Cancellation
import Mathlib.Data.Fintype.Basic
import Mathlib.Data.Fintype.Card

namespace Libsqli.Lease

variable {n : Nat} {s next : State n} {event : Event n}

/-- The acquire call that has taken a slot and not yet returned. -/
def PoolHold.acquiring : PoolHold n → Fin n → Bool
  | .probing _ other, slot => other = slot
  | .clearing _ other _, slot => other = slot
  | _, _ => false

def Acquiring (s : State n) (slot : Fin n) : Bool :=
  (s.reconnects slot).isSome || s.hold.acquiring slot

theorem PoolHold.acquiring_slot {hold : PoolHold n} {slot : Fin n}
    (hacquiring : hold.acquiring slot = true) : hold.slot = some slot := by
  cases hold with
  | probing holder other | clearing holder other id =>
      obtain rfl : other = slot := by simpa [acquiring] using hacquiring
      rfl
  | free | releasing | discarding | restoring => cases hacquiring

namespace SlotCase

variable {slot : Fin n}

theorem inUse_iff (h : SlotCase s slot) :
    (s.slots slot).inUse = true ↔
      (s.leases slot).isSome = true ∨ Acquiring s slot = true := by
  cases h with
  | idle huse _ hnone hquiet hout =>
      have hidle : s.hold.acquiring slot ≠ true := fun hset =>
        hout (PoolHold.acquiring_slot hset)
      simp [huse, hnone, Acquiring, hquiet, hidle]
  | probing huse _ _ _ hheld => simp [huse, Acquiring, hheld, PoolHold.acquiring]
  | clearing hcase _ _ _ _ _ hheld =>
      simp [hcase, Acquiring, hheld, PoolHold.acquiring]
  | pending huse _ _ hstage => simp [huse, Acquiring, hstage]
  | vacant hcase _ hstage => simp [hcase, Acquiring, hstage]
  | opened hcase _ _ _ hstage => simp [hcase, Acquiring, hstage]
  | leased hcase _ hlease => simp [hcase, hlease]

theorem not_both (h : SlotCase s slot) (hlease : (s.leases slot).isSome = true) :
    Acquiring s slot = false := by
  cases h with
  | idle _ _ hnone | probing _ _ hnone | pending _ _ hnone =>
      simp [hnone] at hlease
  | clearing _ _ _ _ hnone | vacant _ hnone | opened _ _ _ hnone =>
      simp [hnone] at hlease
  | leased _ _ _ hquiet hrelease =>
      have hidle : s.hold.acquiring slot ≠ true := by
        intro hset
        have hheld := hrelease (PoolHold.acquiring_slot hset)
        cases hhold : s.hold with
        | probing | clearing => simp [hhold, PoolHold.release] at hheld
        | free | releasing | discarding | restoring =>
            simp [hhold, PoolHold.acquiring] at hset
      simp [Acquiring, hquiet, hidle]

end SlotCase

/-! The slots in use are the leases and the acquires under way. -/

theorem Pooling.card_inUse (h : Pooling s) :
    (Finset.univ.filter fun slot => (s.slots slot).inUse = true).card =
      (Finset.univ.filter fun slot => (s.leases slot).isSome = true).card +
        (Finset.univ.filter fun slot => Acquiring s slot = true).card := by
  have hunion : (Finset.univ.filter fun slot => (s.slots slot).inUse = true) =
      (Finset.univ.filter fun slot => (s.leases slot).isSome = true) ∪
        (Finset.univ.filter fun slot => Acquiring s slot = true) := by
    ext slot
    simp [(h.slots slot).inUse_iff]
  rw [hunion, Finset.card_union_of_disjoint]
  rw [Finset.disjoint_filter]
  intro slot _ hlease hacquiring
  simp [(h.slots slot).not_both hlease] at hacquiring

/-- A lease goes out with a hand-out of its slot and ends with a return. -/
theorem Step.lease_kept (h : Invariant s) (hstep : Step s event next)
    {slot : Fin n} {holder : Holder} {id : ConnId}
    (hlease : s.leases slot = some (holder, id)) :
    next.leases slot = some (holder, id) ∨
      event = .returned slot holder id := by
  have hgranted : ∀ {other : Fin n} {owner : Holder} {found : ConnId},
      s.leases other = none →
        Function.update s.leases other (some (owner, found)) slot =
          some (holder, id) := by
    intro other owner found hnone
    have hne : slot ≠ other := by
      rintro rfl
      simp [hnone] at hlease
    rwa [Function.update_of_ne hne]
  have hrevoked : ∀ {other : Fin n} {holding : Holder} {found : ConnId},
      s.hold.release = some (holding, other, found) →
        Function.update s.leases other none slot = some (holder, id) ∨
          (Event.returned other holding found : Event n) =
            .returned slot holder id := by
    intro other holding found hhold
    by_cases heq : slot = other
    · subst heq
      obtain ⟨-, hheld, -⟩ := (h.pooling.slots slot).of_release hhold
      rw [hlease] at hheld
      obtain ⟨rfl, rfl⟩ := Prod.mk.inj (Option.some.inj hheld)
      exact Or.inr rfl
    · exact Or.inl (by rwa [Function.update_of_ne heq])
  cases hstep with
  | client hstep =>
      cases hstep with
      | create | connect | connectRefused | work => exact Or.inl hlease
      | destroy => exact Or.inl (by rwa [State.destroyConn_leases])
  | operation hstep => cases hstep <;> exact Or.inl hlease
  | acquire hstep =>
      cases hstep with
      | take | wait | probeAlive | probeUnusable | keep => exact Or.inl hlease
      | dropNone | openFailed | openConnected | fail => exact Or.inl hlease
      | probeDead | drop | abandon => exact Or.inl (by simpa using hlease)
      | clear hhold hconn =>
          obtain ⟨-, hnone, -⟩ := (h.pooling.slots _).of_clearing hhold
          exact Or.inl (hgranted hnone)
      | hand hhold hstage hopen hslot =>
          obtain ⟨-, -, -, -, hnone, -⟩ := (h.pooling.slots _).of_opened hstage
          exact Or.inl (hgranted hnone)
  | release hstep =>
      cases hstep with
      | enter | refuse | stale | swapFailed => exact Or.inl hlease
      | swapDiscarded | discardFailed | restore => exact Or.inl hlease
      | swap hhold => exact hrevoked (by rw [hhold]; rfl)
      | discard outcome hhold => exact hrevoked (by rw [hhold]; rfl)
  | destroy hstep =>
      cases hstep with
      | refuse | shutdown | teardownFailed => exact Or.inl hlease
      | teardown => exact Or.inl (by simpa using hlease)

theorem handOut_lease {slot : Fin n} {holder : Holder} {id : ConnId}
    (hstep : Step s (.handOut slot holder id) next) :
    next.leases slot = some (holder, id) := by
  cases hstep with
  | client hstep => cases hstep
  | operation hstep => cases hstep
  | acquire hstep => cases hstep <;> exact Function.update_self _ _ _
  | release hstep => cases hstep
  | destroy hstep => cases hstep

/-- A slot whose reconnect failed can be acquired again. -/
theorem reconnectFailed_inv (h : Invariant s) {slot : Fin n}
    (hstep : Step s (.reconnectFailed slot) next) :
    next.slots slot = ⟨none, false⟩ ∧ Acquiring next slot = false ∧
      ∃ other, findAvailable next.slots = some other := by
  cases hstep with
  | client hstep => cases hstep
  | operation hstep => cases hstep
  | acquire hstep =>
      cases hstep with
      | fail hhold hstage =>
          obtain ⟨hcase, -, -⟩ :=
            (h.pooling.slots slot).of_vacant hstage (Or.inr rfl)
          refine ⟨by simp [hcase], ?_, ?_⟩
          · simp [Acquiring, hhold, PoolHold.acquiring]
          · rw [← Option.isSome_iff_exists, findAvailable, List.find?_isSome]
            exact ⟨slot, List.mem_finRange slot, by simp⟩
  | release hstep => cases hstep
  | destroy hstep => cases hstep

/-- A release that is refused changes no slot and no lease. -/
theorem refused_inv (h : Invariant s) {slot : Fin n} {holder : Holder}
    {id : ConnId} (hstep : Step s (.refused slot holder id) next) :
    s.leases slot = some (holder, id) ∧ next.leases = s.leases ∧
      next.slots = s.slots ∧ s.slots slot = ⟨some id, true⟩ := by
  have hheld : s.hold.release = some (holder, slot, id) →
      s.leases slot = some (holder, id) ∧ s.slots slot = ⟨some id, true⟩ := by
    intro hhold
    obtain ⟨hcase, hlease, -⟩ := (h.pooling.slots slot).of_release hhold
    exact ⟨hlease, hcase⟩
  cases hstep with
  | client hstep => cases hstep
  | operation hstep => cases hstep
  | acquire hstep => cases hstep
  | release hstep =>
      cases hstep with
      | @refuse _ lease _ _ conn hhold hlease hfound hconn hreason =>
          obtain ⟨hcase, -⟩ := (h.pooling.slots lease).lease_slot hlease
          obtain rfl := h.pooling.distinct (by rw [hcase])
            (findConn_eq_some hfound)
          exact ⟨hlease, rfl, rfl, hcase⟩
      | swapFailed hhold =>
          obtain ⟨hlease, hcase⟩ := hheld (by rw [hhold]; rfl)
          exact ⟨hlease, rfl, rfl, hcase⟩
      | restore hhold =>
          obtain ⟨hlease, hcase⟩ := hheld (by rw [hhold]; rfl)
          exact ⟨hlease, rfl, rfl, hcase⟩
  | destroy hstep => cases hstep

theorem destroy_inv (hstep : Step s .destroy next) (slot : Fin n) :
    (s.slots slot).inUse = false := by
  cases hstep with
  | client hstep => cases hstep
  | operation hstep => cases hstep
  | acquire hstep => cases hstep
  | release hstep => cases hstep
  | destroy hstep =>
      cases hstep with
      | shutdown hhold hfree => exact hfree slot

theorem destroyRefused_inv (hstep : Step s .destroyRefused next) :
    next = s := by
  cases hstep with
  | client hstep => cases hstep
  | operation hstep => cases hstep
  | acquire hstep => cases hstep
  | release hstep => cases hstep
  | destroy hstep =>
      cases hstep with
      | refuse => rfl

theorem leases_exclusive {transport : Transport} {events : List (Event n)}
    (hrun : Data.Run Step (poolCreate n transport) events s) :
    (∀ slot other holder rival id, s.leases slot = some (holder, id) →
      s.leases other = some (rival, id) → slot = other ∧ holder = rival) ∧
    (∀ slot holder id next, Step s (.handOut slot holder id) next →
      next.leases slot = some (holder, id) ∧
      ∃ conn transport, next.conns id = some conn ∧
        conn.lifecycle = .clear ∧ conn.state = .ready ∧
        conn.socket = some transport) ∧
    (∀ event next slot holder id, Step s event next →
      s.leases slot = some (holder, id) →
        next.leases slot = some (holder, id) ∨
          event = .returned slot holder id) ∧
    ((∀ slot, (s.slots slot).inUse = true ↔
      (s.leases slot).isSome = true ∨ Acquiring s slot = true) ∧
      (Finset.univ.filter fun slot => (s.leases slot).isSome = true).card +
        (Finset.univ.filter fun slot => Acquiring s slot = true).card =
        (Finset.univ.filter fun slot => (s.slots slot).inUse = true).card ∧
      (s.hold = .free → ∀ slot,
        Acquiring s slot = (s.reconnects slot).isSome) ∧
      (Finset.univ.filter fun slot => (s.leases slot).isSome = true).card +
        (Finset.univ.filter fun slot => Acquiring s slot = true).card ≤ n) ∧
    (∀ slot next, Step s (.reconnectFailed slot) next →
      next.slots slot = ⟨none, false⟩ ∧ Acquiring next slot = false ∧
      ∃ other, findAvailable next.slots = some other) ∧
    (∀ slot holder id next, Step s (.refused slot holder id) next →
      s.leases slot = some (holder, id) ∧ next.leases = s.leases ∧
        next.slots = s.slots ∧ s.slots slot = ⟨some id, true⟩) ∧
    ∀ slot, (s.slots slot).inUse = true →
      (∀ next, ¬ Step s .destroy next) ∧
      (s.hold = .free → Step s .destroyRefused s) ∧
      ∀ next, Step s .destroyRefused next → next = s := by
  have h := invariant_of_run hrun
  have hcount := h.pooling.card_inUse
  refine ⟨?_, ?_, ?_, ⟨?_, hcount.symm, ?_, ?_⟩, ?_, ?_, ?_⟩
  · intro slot other holder rival id hslot hother
    obtain ⟨hcase, -⟩ := (h.pooling.slots slot).lease_slot hslot
    obtain ⟨hrival, -⟩ := (h.pooling.slots other).lease_slot hother
    obtain rfl := h.pooling.distinct (by rw [hcase]) (by rw [hrival])
    rw [hslot] at hother
    exact ⟨rfl, (Prod.mk.inj (Option.some.inj hother)).1⟩
  · intro slot holder id next hstep
    obtain ⟨conn, target, -, htarget, -, -, rfl, hready, found, hopen⟩ :=
      handOut_inv h hstep
    exact ⟨handOut_lease hstep, _, found, htarget, rfl, hready, hopen⟩
  · exact fun event next slot holder id hstep hlease =>
      hstep.lease_kept h hlease
  · exact fun slot => (h.pooling.slots slot).inUse_iff
  · intro hfree slot
    simp [Acquiring, hfree, PoolHold.acquiring]
  · rw [← hcount]
    exact (Finset.card_filter_le _ _).trans (by simp)
  · exact fun slot next hstep => reconnectFailed_inv h hstep
  · exact fun slot holder id next hstep => refused_inv h hstep
  · intro slot huse
    refine ⟨?_, ?_, fun next hstep => destroyRefused_inv hstep⟩
    · intro next hstep
      simp [destroy_inv hstep slot] at huse
    · exact fun hfree => .destroy (.refuse hfree huse)

/-- In a pool of two connections the first is leased, and while its holder
registers an operation on it a release is refused. -/
theorem leases_exclusive_pinned :
    ∃ s : State 2, Step s (.refused 0 7 0) s ∧ s.leases 0 = some (7, 0) ∧
      (s.slots 0).inUse = true ∧ (∀ next, ¬ Step s .destroy next) := by
  obtain ⟨s, events, hrun, hlease, hhold, hconn⟩ :
      ∃ (s : State 2) (events : List (Event 2)),
        Data.Run Step (poolCreate 2 .tcp) events s ∧
          s.leases 0 = some (7, 0) ∧ s.hold = .free ∧
            ∃ conn, findConn s.slots 0 = some 0 ∧ s.conns 0 = some conn ∧
              conn.lifecycle.pinned = true := by
    have htake := Data.Run.nil.snoc (Step.acquire
      (@AcquireStep.take 2 (poolCreate 2 .tcp) 7 0 rfl rfl (by decide)))
    have hprobe := htake.snoc (.acquire (.probeAlive rfl rfl rfl rfl))
    have hclear := hprobe.snoc (.acquire (.clear rfl rfl))
    have hregister := hclear.snoc (.operation
      (@OperationStep.register _ _ 0 0 false _ _ _ rfl rfl rfl rfl))
    exact ⟨_, _, hregister, rfl, rfl, _, by decide, rfl, rfl⟩
  obtain ⟨conn, hfound, hconn, hpinned⟩ := hconn
  have hrefused : Step s (.refused 0 7 0) s :=
    .release (.refuse hhold hlease hfound hconn (Or.inr hpinned))
  obtain ⟨-, -, -, -, -, hrefusal, hdestroy⟩ := leases_exclusive hrun
  obtain ⟨-, -, -, hcase⟩ := hrefusal 0 7 0 s hrefused
  have huse : (s.slots 0).inUse = true := by rw [hcase]
  exact ⟨s, hrefused, hlease, huse, (hdestroy 0 huse).1⟩

end Libsqli.Lease
