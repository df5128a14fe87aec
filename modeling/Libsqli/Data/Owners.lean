import Mathlib.Algebra.Order.BigOperators.Group.Finset
import Mathlib.Data.Fintype.Basic
import Mathlib.Tactic.Common

namespace Libsqli.Data

/-! A quantity spread over finitely many owners. -/

variable {ι τ : Type*} [Fintype ι] {amount : τ → Nat}
  {owners : ι → τ}

def total (amount : τ → Nat) (owners : ι → τ) : Nat :=
  ∑ owner, amount (owners owner)

theorem share_le_total (amount : τ → Nat) (owners : ι → τ) (owner : ι) :
    amount (owners owner) ≤ total amount owners := by
  unfold total
  exact Finset.single_le_sum (fun other _ => Nat.zero_le
    (amount (owners other))) (Finset.mem_univ owner)

theorem total_eq_zero (hnone : ∀ owner, amount (owners owner) = 0) :
    total amount owners = 0 :=
  Finset.sum_eq_zero fun owner _ => hnone owner

theorem exists_of_total_pos (hsome : 0 < total amount owners) :
    ∃ owner, 0 < amount (owners owner) := by
  by_contra hnone
  have hzero := total_eq_zero fun owner =>
    Nat.eq_zero_of_not_pos fun hpos => hnone ⟨owner, hpos⟩
  omega

/-- When one owner changes, so does its share. -/
theorem total_update [DecidableEq ι] (amount : τ → Nat) (owners : ι → τ)
    (owner : ι) (next : τ) :
    total amount (Function.update owners owner next) +
        amount (owners owner) =
      total amount owners + amount next := by
  unfold total
  rw [← Finset.add_sum_erase _ _ (Finset.mem_univ owner),
    ← Finset.add_sum_erase Finset.univ _ (Finset.mem_univ owner),
    Function.update_self]
  have hothers : ∑ other ∈ Finset.univ.erase owner,
        amount (Function.update owners owner next other) =
      ∑ other ∈ Finset.univ.erase owner, amount (owners other) :=
    Finset.sum_congr rfl fun other hother => by
      rw [Function.update_of_ne (Finset.ne_of_mem_erase hother)]
  rw [hothers]
  omega

end Libsqli.Data
