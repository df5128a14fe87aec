import Libsqli.Data.Bytes
import Mathlib.Tactic.Common

namespace Libsqli.Data.Memory

/-! Programs that read a memory, with the addresses that they have read. -/

variable {β α γ : Type}

def Reads (β α : Type) : Type := (Nat → β) → α × List Nat

instance : Monad (Reads β) where
  pure value := fun _ => (value, [])
  bind first next := fun memory =>
    ((next (first memory).1 memory).1,
      (first memory).2 ++ (next (first memory).1 memory).2)

def read (address : Nat) : Reads β β := fun memory => (memory address, [address])

/-- A memory with a list at its start and anything behind it. -/
def Holding (held : List β) (memory : Nat → β) : Prop :=
  ∀ address (hinside : address < held.length), memory address = held[address]

/-- Whatever stands behind the list, what the program gives meets the condition,
and it reads nothing of that. -/
def Reading (held : List β) (program : Reads β α) (post : α → Prop) : Prop :=
  ∀ memory, Holding held memory → post (program memory).1 ∧
    ∀ address ∈ (program memory).2, address < held.length

abbrev Yields (held : List β) (program : Reads β α) (value : α) : Prop :=
  Reading held program (· = value)

variable {held : List β} {program : Reads β α} {post : α → Prop}
  {value other : α}

theorem reading_pure (hpost : post value) : Reading held (pure value) post :=
  fun _ _ => ⟨hpost, nofun⟩

theorem yields_read {address : Nat} (hinside : address < held.length) :
    Yields held (read address) held[address] := by
  intro memory hmemory
  refine ⟨hmemory address hinside, ?_⟩
  intro found member
  rw [List.mem_singleton.mp member]
  exact hinside

theorem Reading.bind {next : α → Reads β γ} {last : γ → Prop}
    (hfirst : Reading held program post)
    (hnext : ∀ value, post value → Reading held (next value) last) :
    Reading held (program >>= next) last := by
  intro memory hmemory
  obtain ⟨hvalue, hinside⟩ := hfirst memory hmemory
  obtain ⟨hlast, hrest⟩ := hnext _ hvalue memory hmemory
  refine ⟨hlast, fun address member => ?_⟩
  rcases List.mem_append.mp member with member | member
  · exact hinside address member
  · exact hrest address member

theorem Yields.bind {next : α → Reads β γ} {last : γ → Prop}
    (hfirst : Yields held program value)
    (hnext : Reading held (next value) last) :
    Reading held (program >>= next) last :=
  Reading.bind hfirst fun _ hvalue => hvalue ▸ hnext

theorem Yields.congr (hyields : Yields held program value)
    (hvalue : value = other) : Yields held program other :=
  hvalue ▸ hyields

/-- Successive elements. -/
def readMany (start : Nat) : Nat → Reads β (List β)
  | 0 => pure []
  | count + 1 => do
      let first ← read start
      let rest ← readMany (start + 1) count
      pure (first :: rest)

theorem yields_readMany {start count : Nat}
    (hinside : start + count ≤ held.length) :
    Yields held (readMany start count) ((held.drop start).take count) := by
  induction count generalizing start with
  | zero => exact reading_pure (List.take_zero).symm
  | succ count ih =>
      have hstart : start < held.length := by omega
      refine (yields_read hstart).bind
        ((ih (by omega)).bind (reading_pure ?_))
      rw [List.drop_eq_getElem_cons hstart, List.take_succ_cons]

/-- Compares successive elements up to the first that differs. -/
def agreesFrom [BEq β] (start : Nat) : List β → Reads β Bool
  | [] => pure true
  | expected :: rest => do
      let found ← read start
      if found == expected then agreesFrom (start + 1) rest else pure false

theorem yields_agreesFrom [BEq β] {start : Nat} {expected : List β}
    (hinside : start + expected.length ≤ held.length) :
    Yields held (agreesFrom start expected)
      ((held.drop start).take expected.length == expected) := by
  induction expected generalizing start with
  | nil => exact reading_pure rfl
  | cons first rest ih =>
      rw [List.length_cons] at hinside ⊢
      have hstart : start < held.length := by omega
      have hrest := @ih (start + 1) (by omega)
      refine (yields_read hstart).bind ?_
      rw [List.drop_eq_getElem_cons hstart, List.take_succ_cons,
        List.cons_beq_cons]
      cases held[start] == first with
      | true => exact hrest
      | false => exact reading_pure rfl

end Libsqli.Data.Memory
