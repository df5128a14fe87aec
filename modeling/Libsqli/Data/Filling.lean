import Libsqli.Data.Program

namespace Libsqli.Data.Filling

open Libsqli.Data.Program

/-! Octets that are stored one behind the other into a buffer. -/

/-- A buffer of `size` octets and those stored so far. -/
structure Buffer where
  size : Nat
  octets : List UInt8
  deriving DecidableEq

/-- A store behind the end, or a program that gives up. -/
inductive Stop where
  | overrun
  | refused
  deriving DecidableEq

abbrev Filler := EStateM Stop Buffer

def Buffer.append (buffer : Buffer) (bytes : List UInt8) : Buffer :=
  { buffer with octets := buffer.octets ++ bytes }

@[simp] theorem Buffer.append_octets (buffer : Buffer) (bytes : List UInt8) :
    (buffer.append bytes).octets = buffer.octets ++ bytes := rfl

@[simp] theorem Buffer.append_size (buffer : Buffer) (bytes : List UInt8) :
    (buffer.append bytes).size = buffer.size := rfl

theorem Buffer.append_append (buffer : Buffer) (front back : List UInt8) :
    (buffer.append front).append back = buffer.append (front ++ back) := by
  simp [Buffer.append]

def store (bytes : List UInt8) : Filler Unit := fun buffer =>
  if buffer.octets.length + bytes.length ≤ buffer.size then
    .ok () (buffer.append bytes)
  else .error .overrun buffer

/-- Gives up unless there is room for more than `count` octets. -/
def demand (count : Nat) : Filler Unit := fun buffer =>
  if buffer.size ≤ buffer.octets.length + count then .error .refused buffer
  else .ok () buffer

def position : Filler Nat := fun buffer => .ok buffer.octets.length buffer

/-- Octets in the place of others that were stored before. -/
def patch (start : Nat) (bytes : List UInt8) : Filler Unit := fun buffer =>
  if start + bytes.length ≤ buffer.size then
    .ok () { buffer with octets := buffer.octets.take start ++
      (bytes ++ buffer.octets.drop (start + bytes.length)) }
  else .error .overrun buffer

variable {program : Filler α} {bytes front back : List UInt8} {buffer : Buffer}
  {value : α}

theorem patch_apply {old : List UInt8} (hoctets : buffer.octets = front ++ (old ++ back))
    (hlength : bytes.length = old.length)
    (hsize : buffer.octets.length ≤ buffer.size) :
    patch front.length bytes buffer =
      .ok () { buffer with octets := front ++ (bytes ++ back) } := by
  have hroom : front.length + bytes.length ≤ buffer.size := by
    rw [hoctets] at hsize
    simp only [List.length_append] at hsize
    omega
  rw [patch, if_pos hroom, hoctets, List.take_left, hlength,
    List.drop_append, List.drop_eq_nil_of_le (Nat.le_add_right _ _),
    List.nil_append, Nat.add_sub_cancel_left, List.drop_left]

/-! Programs that store certain octets wherever there is room for them. -/

structure Emits (program : Filler α) (bytes : List UInt8) (value : α) :
    Prop where
  fits : ∀ {buffer}, buffer.octets.length + bytes.length ≤ buffer.size →
    program buffer = .ok value (buffer.append bytes)
  overruns : ∀ {buffer}, buffer.octets.length ≤ buffer.size →
    buffer.size < buffer.octets.length + bytes.length →
    ∃ after, program buffer = .error .overrun after

theorem Emits.store (bytes : List UInt8) : Emits (store bytes) bytes () where
  fits := fun hroom => if_pos hroom
  overruns := fun _ hroom => ⟨_, if_neg (Nat.not_le.mpr hroom)⟩

theorem Emits.pure (value : α) : Emits (Pure.pure value) [] value where
  fits := fun {buffer} _ => by
    simp [Buffer.append]
  overruns := fun hsize hroom => by
    simp only [List.length_nil] at hroom
    omega

theorem Emits.bind {first : Filler α} {next : α → Filler β} {result : β}
    (hfirst : Emits first front value) (hnext : Emits (next value) back result) :
    Emits (first >>= next) (front ++ back) result where
  fits := fun {buffer} hroom => by
    rw [List.length_append] at hroom
    rw [bind_apply, hfirst.fits (by omega)]
    dsimp only
    rw [hnext.fits (by simp; omega), Buffer.append_append]
  overruns := fun {buffer} hsize hroom => by
    rw [List.length_append] at hroom
    rw [bind_apply]
    by_cases hfront : buffer.octets.length + front.length ≤ buffer.size
    · rw [hfirst.fits hfront]
      exact hnext.overruns (by simpa using hfront) (by simp; omega)
    · obtain ⟨after, hrun⟩ := hfirst.overruns hsize (Nat.not_le.mp hfront)
      rw [hrun]
      exact ⟨after, rfl⟩

/-! Programs that store certain octets, or give up before the end is reached. -/

def Guards (program : Filler α) (bytes : List UInt8) (value : α) : Prop :=
  ∀ buffer, buffer.octets.length ≤ buffer.size →
    (program buffer = .ok value (buffer.append bytes) ∧
      buffer.octets.length + bytes.length ≤ buffer.size) ∨
    ∃ after, program buffer = .error .refused after

theorem Guards.pure (value : α) : Guards (Pure.pure value) [] value :=
  fun buffer hsize => .inl ⟨by simp [Buffer.append], hsize⟩

theorem Guards.throw (bytes : List UInt8) (value : α) :
    Guards (throw .refused) bytes value :=
  fun buffer _ => .inr ⟨buffer, rfl⟩

theorem Guards.bind {first : Filler α} {next : α → Filler β} {result : β}
    (hfirst : Guards first front value)
    (hnext : Guards (next value) back result) :
    Guards (first >>= next) (front ++ back) result := by
  intro buffer hsize
  rw [bind_apply]
  rcases hfirst buffer hsize with ⟨hrun, hroom⟩ | ⟨after, hrun⟩
  · have happended : (buffer.append front).octets.length =
        buffer.octets.length + front.length := List.length_append
    rw [hrun, ← Buffer.append_append, List.length_append, ← Nat.add_assoc,
      ← happended]
    exact hnext _ (happended ▸ hroom)
  · rw [hrun]
    exact .inr ⟨after, rfl⟩

/-- A demand allows for one octet more than it names. -/
theorem Guards.demand {count : Nat} (hprogram : Emits program bytes value)
    (hcount : bytes.length ≤ count + 1) :
    Guards (do demand count; program) bytes value := by
  intro buffer hsize
  rw [bind_apply, Filling.demand]
  by_cases hfull : buffer.size ≤ buffer.octets.length + count
  · rw [if_pos hfull]
    exact .inr ⟨buffer, rfl⟩
  · rw [if_neg hfull]
    have hroom : buffer.octets.length + bytes.length ≤ buffer.size := by omega
    exact .inl ⟨hprogram.fits hroom, hroom⟩

theorem Guards.demandThen {count : Nat} {next : α → Filler β} {result : β}
    (hprogram : Emits program bytes value) (hcount : bytes.length ≤ count + 1)
    (hnext : Guards (next value) back result) :
    Guards (do
      Filling.demand count
      let found ← program
      next found) (bytes ++ back) result := by
  have hguards := (Guards.demand hprogram hcount).bind hnext
  rwa [bind_assoc] at hguards

/-! A program that fills a buffer of its own. -/

def onBuffer (size : Nat) (program : Filler Unit) : Filler (List UInt8) :=
  fun buffer =>
    match program ⟨size, []⟩ with
    | .ok _ other => .ok other.octets buffer
    | .error stop _ => .error stop buffer

theorem Guards.onBuffer {size : Nat} {program : Filler Unit}
    (hprogram : Guards program bytes ()) :
    Guards (onBuffer size program) [] bytes := by
  intro buffer hsize
  unfold Filling.onBuffer
  rcases hprogram ⟨size, []⟩ (Nat.zero_le _) with ⟨hrun, -⟩ | ⟨after, hrun⟩
  · rw [hrun]
    exact .inl ⟨by simp [Buffer.append], hsize⟩
  · rw [hrun]
    exact .inr ⟨buffer, rfl⟩

end Libsqli.Data.Filling
