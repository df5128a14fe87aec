import Mathlib.Data.List.Basic
import Mathlib.Tactic.Common

namespace Libsqli.Data.Blocks

/-! Blocks of memory that an allocator gives, and what pointers into one show. -/

variable {α : Type}

/-- A block of `count` elements that starts as the old one. -/
def resized (old : List α) (fresh : Nat → α) (count : Nat) : List α :=
  (List.range count).map fun index => old.getD index (fresh index)

def overwritten (old : List α) (offset : Nat) (new : List α) : List α :=
  old.take offset ++ new ++ old.drop (offset + new.length)

variable {old new : List α} {fresh : Nat → α} {count offset index : Nat}

@[simp] theorem length_resized : (resized old fresh count).length = count := by
  simp [resized]

theorem getElem?_resized (hold : index < old.length) (hcount : index < count) :
    (resized old fresh count)[index]? = old[index]? := by
  simp [resized, List.getElem?_range hcount, hold]

theorem take_resized (hold : offset ≤ old.length) (hcount : offset ≤ count) :
    (resized old fresh count).take offset = old.take offset := by
  apply List.ext_getElem?
  intro index
  rw [List.getElem?_take, List.getElem?_take]
  by_cases hindex : index < offset
  · rw [if_pos hindex, if_pos hindex]
    exact getElem?_resized (by omega) (by omega)
  · rw [if_neg hindex, if_neg hindex]

theorem length_overwritten (hold : offset + new.length ≤ old.length) :
    (overwritten old offset new).length = old.length := by
  simp only [overwritten, List.length_append, List.length_take,
    List.length_drop]
  omega

theorem take_overwritten (hold : offset ≤ old.length) :
    (overwritten old offset new).take offset = old.take offset := by
  have hlength : (old.take offset).length = offset :=
    List.length_take_of_le hold
  rw [overwritten, List.append_assoc]
  exact List.take_left' hlength

theorem take_drop_overwritten (hold : offset ≤ old.length) :
    ((overwritten old offset new).drop offset).take new.length = new := by
  have hlength : (old.take offset).length = offset :=
    List.length_take_of_le hold
  rw [overwritten, List.append_assoc, List.drop_left' hlength]
  exact List.take_left

theorem overwritten_overwritten {more : List α}
    (hold : offset + new.length ≤ old.length) :
    overwritten (overwritten old offset new) (offset + new.length) more =
      overwritten old offset (new ++ more) := by
  have hlength : (old.take offset ++ new).length = offset + new.length := by
    rw [List.length_append, List.length_take_of_le (by omega)]
  have htake : (overwritten old offset new).take (offset + new.length) =
      old.take offset ++ new := by
    rw [overwritten]
    exact List.take_left' hlength
  have hdrop : (overwritten old offset new).drop
      (offset + new.length + more.length) =
        old.drop (offset + (new ++ more).length) := by
    rw [overwritten, ← List.drop_drop, List.drop_left' hlength,
      List.drop_drop, List.length_append, Nat.add_assoc]
  rw [overwritten, htake, hdrop, overwritten, List.append_assoc (old.take offset)]

/-- Octets from an address on. -/
structure Block where
  base : Int
  octets : List UInt8
  deriving DecidableEq

/-- What is seen through a pointer into the block. -/
def Block.read (block : Block) (pointer : Int) (length : Nat) : List UInt8 :=
  (block.octets.drop (pointer - block.base).toNat).take length

/-- A pointer to the payload, which lies among the first `used` octets. -/
structure Denotes (block : Block) (used : Nat) (pointer : Int)
    (payload : List UInt8) : Prop where
  base_le : block.base ≤ pointer
  le_used : pointer + payload.length ≤ block.base + used
  read_eq : block.read pointer payload.length = payload

variable {block other : Block} {used more : Nat} {pointer : Int}
  {payload written : List UInt8}

theorem Denotes.mono (hdenotes : Denotes block used pointer payload)
    (hmore : used ≤ more) : Denotes block more pointer payload :=
  ⟨hdenotes.base_le, by have hused := hdenotes.le_used; omega,
    hdenotes.read_eq⟩

/-- The octets in use may be copied to another address. -/
theorem Denotes.moved (hdenotes : Denotes block used pointer payload)
    (hsame : other.octets.take used = block.octets.take used) :
    Denotes other used (pointer + (other.base - block.base)) payload := by
  obtain ⟨hbase, hused, hread⟩ := hdenotes
  refine ⟨by omega, by omega, ?_⟩
  have hoffset : (pointer + (other.base - block.base) - other.base).toNat =
      (pointer - block.base).toNat := by
    omega
  have hend : (pointer - block.base).toNat + payload.length ≤ used := by omega
  have hfront : other.octets.take
        ((pointer - block.base).toNat + payload.length) =
      block.octets.take ((pointer - block.base).toNat + payload.length) := by
    have htake := congrArg
      (List.take ((pointer - block.base).toNat + payload.length)) hsame
    simpa only [List.take_take, Nat.min_eq_left hend] using htake
  unfold Block.read at hread ⊢
  rw [hoffset, List.take_drop, hfront, ← List.take_drop]
  exact hread

def Block.overwrite (block : Block) (offset : Nat) (written : List UInt8) :
    Block :=
  { block with octets := overwritten block.octets offset written }

/-- Octets behind those in use may be written. -/
theorem Denotes.overwrite (hdenotes : Denotes block used pointer payload)
    (hold : used ≤ block.octets.length) :
    Denotes (block.overwrite used written) used pointer payload := by
  have hsame : (block.overwrite used written).octets.take used =
      block.octets.take used := take_overwritten hold
  have hmoved := hdenotes.moved hsame
  simpa [Block.overwrite] using hmoved

theorem denotes_overwrite (hold : used ≤ block.octets.length) :
    Denotes (block.overwrite used payload)
      (used + payload.length) (block.base + used) payload := by
  refine ⟨?_, ?_, ?_⟩
  · dsimp only [Block.overwrite]
    omega
  · dsimp only [Block.overwrite]
    omega
  · have hoffset : (block.base + (used : Int) - block.base).toNat = used := by
      omega
    dsimp only [Block.read, Block.overwrite]
    rw [hoffset]
    exact take_drop_overwritten hold

/-! Capacities that double. -/

/-- The first capacity that is enough, or none below `limit`. -/
def doubledTo (limit capacity needed : Nat) : Option Nat :=
  if h : capacity < needed ∧ 0 < capacity then
    if limit / 2 < capacity then none
    else doubledTo limit (capacity * 2) needed
  else some capacity
termination_by needed - capacity

theorem doubledTo_le {limit capacity needed enough : Nat}
    (hpos : 0 < capacity)
    (h : doubledTo limit capacity needed = some enough) : needed ≤ enough := by
  fun_induction doubledTo limit capacity needed with
  | case1 capacity hmore hlimit => cases h
  | case2 capacity hmore hlimit ih => exact ih (by omega) h
  | case3 capacity henough =>
      cases h
      omega

end Libsqli.Data.Blocks
