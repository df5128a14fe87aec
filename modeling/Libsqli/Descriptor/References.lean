import Libsqli.Data.Owners
import Libsqli.Data.Transition

namespace Libsqli.Snapshots

open Libsqli.Data

/-! `sqli_descriptor.c`: the references to descriptors, shared by threads. -/

/-- A change of a result's descriptor: which result, and what goes in. -/
structure Change (ρ : Type) where
  result : ρ
  installed : Option Nat

/-- How far a thread is in a call. -/
inductive Task (ρ : Type) where
  | idle
  -- in the loop of `sqli_descriptor_retain`; through a result, or a handle
  | retain (source : Option ρ) (id : Nat) (seen : UInt64)
  -- before the `atomic_fetch_sub` of `sqli_descriptor_release`
  | release (change : Option (Change ρ)) (id : Nat)
  -- behind it, with the last reference given up
  | free (change : Option (Change ρ)) (id : Nat)

/-- A thread of the application; `handles` are the references it owns. -/
structure Thread (ρ : Type) where
  handles : List Nat
  task : Task ρ

/-- The descriptors are numbered in the order of their allocation; `frees` counts
how often each was freed. -/
structure State (ι ρ : Type) where
  references : Nat → UInt64
  frees : Nat → Nat
  next : Nat
  -- `result->descriptor`, taken out while it is being replaced
  descriptors : ρ → Option Nat
  threads : ι → Thread ρ

namespace Task

variable {ρ : Type}

def change : Task ρ → Option (Change ρ)
  | idle | retain _ _ _ => none
  | release change _ | free change _ => change

end Task

section Steps

variable {ι ρ : Type} [DecidableEq ι] [DecidableEq ρ]

namespace State

def setThread (s : State ι ρ) (i : ι) (thread : Thread ρ) : State ι ρ :=
  { s with threads := Function.update s.threads i thread }

def setTask (s : State ι ρ) (i : ι) (task : Task ρ) : State ι ρ :=
  s.setThread i ⟨(s.threads i).handles, task⟩

def setDescriptor (s : State ι ρ) (r : ρ) (id : Option Nat) :
    State ι ρ :=
  { s with descriptors := Function.update s.descriptors r id }

def setReferences (s : State ι ρ) (id : Nat) (count : UInt64) :
    State ι ρ :=
  { s with references := Function.update s.references id count }

/-- The call that changed a result's descriptor is over. -/
def settle (s : State ι ρ) : Option (Change ρ) → State ι ρ
  | none => s
  | some change => s.setDescriptor change.result change.installed

def Acquiring (s : State ι ρ) (r : ρ) : Prop :=
  ∃ i id seen, (s.threads i).task = .retain (some r) id seen

def Changing (s : State ι ρ) (r : ρ) : Prop :=
  ∃ i change, (s.threads i).task.change = some change ∧ change.result = r

/-- The synchronization that the callers of a change of the result owe. -/
def Quiet (s : State ι ρ) (r : ρ) : Prop := ¬ s.Acquiring r ∧ ¬ s.Changing r

end State

/-- One step of a thread; each touches the memory that the threads share at most
once. -/
inductive Step (s : State ι ρ) (i : ι) : State ι ρ → Prop where
  -- `sqli_descriptor_create`
  | create (hidle : (s.threads i).task = .idle) :
      Step s i ({ s.setReferences s.next 1 with next := s.next + 1 }.setThread i
        ⟨s.next :: (s.threads i).handles, .idle⟩)
  | retain {id : Nat} (hidle : (s.threads i).task = .idle)
      (hheld : id ∈ (s.threads i).handles) :
      Step s i (s.setTask i (.retain none id (s.references id)))
  -- `sqli_result_get_descriptor`
  | acquire {r : ρ} {id : Nat} (hidle : (s.threads i).task = .idle)
      (hpublished : s.descriptors r = some id) (hquiet : ¬ s.Changing r) :
      Step s i (s.setTask i (.retain (some r) id (s.references id)))
  -- the exchange fails, perhaps spuriously, and loads the count
  | retry {source : Option ρ} {id : Nat} {seen : UInt64}
      (htask : (s.threads i).task = .retain source id seen) :
      Step s i (s.setTask i (.retain source id (s.references id)))
  -- `SQLI_LIMIT_EXCEEDED`
  | full {source : Option ρ} {id : Nat} {seen : UInt64}
      (htask : (s.threads i).task = .retain source id seen)
      (hseen : seen = .ofNat (2 ^ 64 - 1)) : Step s i (s.setTask i .idle)
  | retained {source : Option ρ} {id : Nat} {seen : UInt64}
      (htask : (s.threads i).task = .retain source id seen)
      (hseen : seen ≠ .ofNat (2 ^ 64 - 1)) (hsame : s.references id = seen) :
      Step s i ((s.setReferences id (seen + 1)).setThread i
        ⟨id :: (s.threads i).handles, .idle⟩)
  | release {id : Nat} (hidle : (s.threads i).task = .idle)
      (hheld : id ∈ (s.threads i).handles) :
      Step s i (s.setThread i
        ⟨(s.threads i).handles.erase id, .release none id⟩)
  -- `replace_descriptor` of a result without one
  | install {r : ρ} {id : Nat} (hidle : (s.threads i).task = .idle)
      (hheld : id ∈ (s.threads i).handles) (hquiet : s.Quiet r)
      (hempty : s.descriptors r = none) :
      Step s i ((s.setDescriptor r (some id)).setThread i
        ⟨(s.threads i).handles.erase id, .idle⟩)
  -- `replace_descriptor`
  | replace {r : ρ} {id old : Nat}
      (hidle : (s.threads i).task = .idle)
      (hheld : id ∈ (s.threads i).handles) (hquiet : s.Quiet r)
      (hold : s.descriptors r = some old) :
      Step s i ((s.setDescriptor r none).setThread i
        ⟨(s.threads i).handles.erase id, .release (some ⟨r, some id⟩) old⟩)
  -- `sqli_result_cleanup`
  | cleanup {r : ρ} {old : Nat} (hidle : (s.threads i).task = .idle)
      (hquiet : s.Quiet r) (hold : s.descriptors r = some old) :
      Step s i ((s.setDescriptor r none).setTask i
        (.release (some ⟨r, none⟩) old))
  | subtract {change : Option (Change ρ)} {id : Nat}
      (htask : (s.threads i).task = .release change id)
      (hmore : s.references id ≠ 1) :
      Step s i (((s.setReferences id (s.references id - 1)).settle
        change).setTask i .idle)
  | subtractLast {change : Option (Change ρ)} {id : Nat}
      (htask : (s.threads i).task = .release change id)
      (hlast : s.references id = 1) :
      Step s i ((s.setReferences id 0).setTask i (.free change id))
  | free {change : Option (Change ρ)} {id : Nat}
      (htask : (s.threads i).task = .free change id) :
      Step s i ((({ s with
        frees := Function.update s.frees id (s.frees id + 1) }).settle
          change).setTask i .idle)
  -- the application hands a reference from one thread to another
  | give {j : ι} {id : Nat} (hidle : (s.threads i).task = .idle)
      (hheld : id ∈ (s.threads i).handles) (hother : j ≠ i) :
      Step s i ((s.setThread i ⟨(s.threads i).handles.erase id, .idle⟩).setThread
        j ⟨id :: (s.threads j).handles, (s.threads j).task⟩)

end Steps

/-- Before the first DESCRIBE. -/
def start (ι ρ : Type) : State ι ρ where
  references := fun _ => 0
  frees := fun _ => 0
  next := 0
  descriptors := fun _ => none
  threads := fun _ => ⟨[], .idle⟩

/-! What the counts stand for. -/

variable {ι ρ : Type}

def held (id : Nat) (place : Option Nat) : Nat :=
  if place = some id then 1 else 0

/-- What goes in at the end of a change is owned by the call until then. -/
def Change.owned (id : Nat) : Option (Change ρ) → Nat
  | none => 0
  | some change => held id change.installed

def Task.owned (id : Nat) : Task ρ → Nat
  | .idle | .retain _ _ _ => 0
  | .release change given => held id (some given) + Change.owned id change
  | .free change _ => Change.owned id change

def Task.freeing (id : Nat) : Task ρ → Nat
  | .free _ given => held id (some given)
  | _ => 0

def Thread.owned (id : Nat) (thread : Thread ρ) : Nat :=
  thread.handles.count id + thread.task.owned id

def Thread.freeing (id : Nat) (thread : Thread ρ) : Nat :=
  thread.task.freeing id

section Finite

variable [Fintype ι]

/-- The threads that are about to free a descriptor. -/
def State.freeing (s : State ι ρ) (id : Nat) : Nat :=
  total (Thread.freeing id) s.threads

theorem State.freeing_setThread [DecidableEq ι] (s : State ι ρ) (id : Nat)
    (i : ι) (thread : Thread ρ) :
    (s.setThread i thread).freeing id + (s.threads i).freeing id =
      s.freeing id + thread.freeing id :=
  total_update (Thread.freeing id) s.threads i thread

variable [Fintype ρ]

namespace State

/-- The references to a descriptor that threads and results own. -/
def owned (s : State ι ρ) (id : Nat) : Nat :=
  total (Thread.owned id) s.threads + total (held id) s.descriptors

variable (s : State ι ρ) (id : Nat)

theorem owned_setThread [DecidableEq ι] (i : ι) (thread : Thread ρ) :
    (s.setThread i thread).owned id + (s.threads i).owned id =
      s.owned id + thread.owned id := by
  have hthreads := total_update (Thread.owned id) s.threads i thread
  change total (Thread.owned id) (Function.update s.threads i thread) +
    total (held id) s.descriptors + _ = total (Thread.owned id) s.threads +
      total (held id) s.descriptors + _
  omega

theorem owned_setDescriptor [DecidableEq ρ] (r : ρ) (place : Option Nat) :
    (s.setDescriptor r place).owned id + held id (s.descriptors r) =
      s.owned id + held id place := by
  have hresults := total_update (held id) s.descriptors r place
  change total (Thread.owned id) s.threads +
    total (held id) (Function.update s.descriptors r place) + _ =
      total (Thread.owned id) s.threads + total (held id) s.descriptors + _
  omega

theorem owned_of_handle {i : ι} (hheld : id ∈ (s.threads i).handles) :
    0 < s.owned id := by
  have hle := share_le_total (Thread.owned id) s.threads i
  have hcount := List.count_pos_iff.mpr hheld
  unfold Thread.owned at hle
  unfold owned
  unfold Thread.owned
  omega

theorem owned_of_descriptor {r : ρ} (hplace : s.descriptors r = some id) :
    0 < s.owned id := by
  have hle := share_le_total (held id) s.descriptors r
  rw [hplace] at hle
  unfold owned
  have hone : held id (some id) = 1 := if_pos rfl
  omega

theorem owned_of_task {i : ι} (htask : 0 < (s.threads i).task.owned id) :
    0 < s.owned id := by
  have hle := share_le_total (Thread.owned id) s.threads i
  unfold Thread.owned at hle
  unfold owned
  unfold Thread.owned
  omega

end State

/-- The life of a descriptor. -/
inductive Life (s : State ι ρ) (id : Nat) : Prop where
  | unborn (hid : s.next ≤ id) (hfrees : s.frees id = 0)
      (howned : s.owned id = 0) (hfreeing : s.freeing id = 0) : Life s id
  | live (hid : id < s.next) (hfrees : s.frees id = 0)
      (hcount : (s.references id).toNat = s.owned id)
      (howned : 0 < s.owned id) (hfreeing : s.freeing id = 0) : Life s id
  | ending (hid : id < s.next) (hfrees : s.frees id = 0)
      (howned : s.owned id = 0) (hfreeing : s.freeing id = 1) : Life s id
  | gone (hid : id < s.next) (hfrees : s.frees id = 1)
      (howned : s.owned id = 0) (hfreeing : s.freeing id = 0) : Life s id

/-- Where a retained descriptor is reached through. -/
def Reached (s : State ι ρ) (i : ι) (id : Nat) : Option ρ → Prop
  | none => id ∈ (s.threads i).handles
  | some r => s.descriptors r = some id

structure Sound (s : State ι ρ) : Prop where
  life : ∀ id, Life s id
  reached {i : ι} {source : Option ρ} {id : Nat} {seen : UInt64}
    (htask : (s.threads i).task = .retain source id seen) :
      Reached s i id source
  empty {i : ι} {change : Change ρ}
    (htask : (s.threads i).task.change = some change) :
      s.descriptors change.result = none
  exclusive {i j : ι} {change other : Change ρ}
    (htask : (s.threads i).task.change = some change)
    (hother : (s.threads j).task.change = some other)
    (hresult : change.result = other.result) : i = j

/-- A step that leaves a descriptor's count and owners leaves its life. -/
theorem Life.congr {s next : State ι ρ} {id : Nat}
    (hlife : Life s id) (hnext : next.next = s.next)
    (hfrees : next.frees id = s.frees id)
    (hcount : next.references id = s.references id)
    (howned : next.owned id = s.owned id)
    (hfreeing : next.freeing id = s.freeing id) : Life next id := by
  cases hlife with
  | unborn hid hf ho hg =>
      exact .unborn (by omega) (by omega) (by omega) (by omega)
  | live hid hf hc ho hg =>
      exact .live (by omega) (by omega) (by rw [hcount, howned]; exact hc)
        (by omega) (by omega)
  | ending hid hf ho hg =>
      exact .ending (by omega) (by omega) (by omega) (by omega)
  | gone hid hf ho hg =>
      exact .gone (by omega) (by omega) (by omega) (by omega)

theorem Life.counted {s : State ι ρ} {id : Nat} (hlife : Life s id)
    (howned : 0 < s.owned id) : id < s.next ∧ s.frees id = 0 ∧
      (s.references id).toNat = s.owned id ∧ s.freeing id = 0 := by
  cases hlife with
  | live hid hf hc ho hg => exact ⟨hid, hf, hc, hg⟩
  | unborn hid hf ho hg => omega
  | ending hid hf ho hg => omega
  | gone hid hf ho hg => omega

end Finite

end Libsqli.Snapshots
