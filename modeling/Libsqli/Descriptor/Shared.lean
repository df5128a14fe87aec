import Libsqli.Descriptor.References

namespace Libsqli.Snapshots

open Libsqli.Data

/-! No interleaving of the calls frees a descriptor that is still referred to. -/

variable {ι ρ : Type} {s next : State ι ρ} {i j : ι} {r : ρ} {id : Nat}
  {change : Option (Change ρ)}

theorem held_some (id given : Nat) :
    held id (some given) = if given = id then 1 else 0 := by
  unfold held
  by_cases hsame : given = id
  · rw [if_pos hsame, if_pos (by rw [hsame])]
  · rw [if_neg hsame, if_neg fun h => hsame (Option.some.inj h)]

theorem count_cons_held (id given : Nat) (handles : List Nat) :
    (given :: handles).count id = handles.count id + held id (some given) := by
  rw [held_some, List.count_cons]
  simp only [beq_iff_eq]

theorem count_erase_held {given : Nat} {handles : List Nat}
    (hheld : given ∈ handles) (id : Nat) :
    (handles.erase given).count id + held id (some given) =
      handles.count id := by
  have hcount := (List.perm_cons_erase hheld).count_eq id
  rw [count_cons_held] at hcount
  exact hcount.symm

theorem Thread.owned_eq (thread : Thread ρ) (id : Nat) :
    thread.owned id = thread.handles.count id + thread.task.owned id := rfl

theorem owned_idle {thread : Thread ρ} (hidle : thread.task = .idle) (id : Nat) :
    thread.owned id = thread.handles.count id := by
  rw [Thread.owned_eq, hidle]
  rfl

theorem freeing_idle {thread : Thread ρ} (hidle : thread.task = .idle)
    (id : Nat) : thread.freeing id = 0 := by
  unfold Thread.freeing
  rw [hidle]
  rfl

theorem eq_of_held {id : Nat} {place : Option Nat} (hheld : 0 < held id place) :
    place = some id := by
  unfold held at hheld
  split at hheld
  · next hsame => exact hsame
  · omega

theorem exists_change {id : Nat} (howned : 0 < Change.owned id change) :
    ∃ own, change = some own ∧ own.installed = some id := by
  cases change with
  | none => exact absurd howned (Nat.lt_irrefl 0)
  | some own => exact ⟨own, rfl, eq_of_held howned⟩

/-- What a step of one thread has to meet for the others. -/
structure Apart (s : State ι ρ) (i : ι) (next : State ι ρ) : Prop where
  others (j : ι) (hother : j ≠ i) :
    (next.threads j).task = (s.threads j).task ∧
      (s.threads j).handles ⊆ (next.threads j).handles
  descriptors (r : ρ) : next.descriptors r = s.descriptors r ∨ s.Quiet r ∨
    ∃ change, (s.threads i).task.change = some change ∧ change.result = r
  reached {source : Option ρ} {id : Nat} {seen : UInt64}
    (htask : (next.threads i).task = .retain source id seen) :
      Reached next i id source
  changing {change : Change ρ}
    (htask : (next.threads i).task.change = some change) :
      next.descriptors change.result = none ∧
        ((s.threads i).task.change = some change ∨ s.Quiet change.result)

/-- Something still leads to the descriptor: a handle, a result, or a call that
has yet to touch it. -/
def InUse (s : State ι ρ) (id : Nat) : Prop :=
  (∃ i, id ∈ (s.threads i).handles) ∨ (∃ r, s.descriptors r = some id) ∨
    (∃ i source seen, (s.threads i).task = .retain source id seen) ∨
    (∃ i change, (s.threads i).task = .release change id) ∨
    (∃ i change, (s.threads i).task = .free change id) ∨
    ∃ i change, (s.threads i).task.change = some change ∧
      change.installed = some id

theorem threads_settle [DecidableEq ρ] : (s.settle change).threads = s.threads := by
  cases change <;> rfl

theorem fields_settle [DecidableEq ρ] : (s.settle change).next = s.next ∧
    (s.settle change).frees = s.frees ∧
      (s.settle change).references = s.references := by
  cases change <;> exact ⟨rfl, rfl, rfl⟩

section Steps

variable [DecidableEq ι]

@[simp] theorem setThread_self (s : State ι ρ) (i : ι) (thread : Thread ρ) :
    (s.setThread i thread).threads i = thread := by
  simp [State.setThread]

theorem setThread_other (s : State ι ρ) (thread : Thread ρ) (hother : j ≠ i) :
    (s.setThread i thread).threads j = s.threads j := by
  simp [State.setThread, Function.update_of_ne hother]

/-- A step that changes no more than its thread. -/
theorem apart_setThread {thread : Thread ρ} (hnext : next.threads =
      (s.setThread i thread).threads)
    (hdescriptors : next.descriptors = s.descriptors)
    (hreached : ∀ source id seen, thread.task = .retain source id seen →
      Reached next i id source)
    (hchanging : thread.task.change = none) : Apart s i next where
  others j hother := by
    rw [hnext, setThread_other s thread hother]
    exact ⟨rfl, List.Subset.refl _⟩
  descriptors r := .inl (congrFun hdescriptors r)
  reached {source id seen} htask := by
    rw [hnext, setThread_self] at htask
    exact hreached source id seen htask
  changing {change} htask := by
    rw [hnext, setThread_self, hchanging] at htask
    cases htask

variable [DecidableEq ρ]

/-- The end of a call that changed a result's descriptor. -/
theorem apart_settled {middle : State ι ρ} (hthreads : middle.threads =
      s.threads) (hdescriptors : middle.descriptors = s.descriptors)
    (hchange : (s.threads i).task.change = change) :
    Apart s i ((middle.settle change).setTask i .idle) where
  others j hother := by
    rw [State.setTask, setThread_other _ _ hother, threads_settle, hthreads]
    exact ⟨rfl, List.Subset.refl _⟩
  descriptors r := by
    cases change with
    | none => exact .inl (congrFun hdescriptors r)
    | some own =>
        by_cases hresult : r = own.result
        · exact .inr (.inr ⟨own, hchange, hresult.symm⟩)
        · refine .inl ?_
          change Function.update middle.descriptors own.result own.installed
            r = _
          rw [Function.update_of_ne hresult, hdescriptors]
  reached {source id seen} htask := by
    rw [State.setTask, setThread_self] at htask
    cases htask
  changing {own} htask := by
    rw [State.setTask, setThread_self] at htask
    cases htask

end Steps

section Finite

variable [Fintype ι]

theorem freeing_settle [DecidableEq ρ] (id : Nat) :
    (s.settle change).freeing id = s.freeing id := by
  cases change <;> rfl

theorem inUse_of_freeing {id : Nat} (hfreeing : 0 < s.freeing id) :
    InUse s id := by
  obtain ⟨i, hthread⟩ := exists_of_total_pos hfreeing
  unfold Thread.freeing at hthread
  cases hrun : (s.threads i).task with
  | free change given =>
      rw [hrun] at hthread
      cases eq_of_held hthread
      exact .inr (.inr (.inr (.inr (.inl ⟨i, change, hrun⟩))))
  | idle =>
      rw [hrun] at hthread
      exact absurd hthread (Nat.lt_irrefl 0)
  | retain source given seen =>
      rw [hrun] at hthread
      exact absurd hthread (Nat.lt_irrefl 0)
  | release change given =>
      rw [hrun] at hthread
      exact absurd hthread (Nat.lt_irrefl 0)

variable [Fintype ρ]

theorem Life.balanced (hlife : ∀ id, Life s id) (hnext : next.next = s.next)
    (hfrees : next.frees = s.frees) (hcount : next.references = s.references)
    (howned : ∀ id, next.owned id = s.owned id)
    (hfreeing : ∀ id, next.freeing id = s.freeing id) (id : Nat) :
    Life next id :=
  (hlife id).congr hnext (congrFun hfrees id) (congrFun hcount id) (howned id)
    (hfreeing id)

/-- What a call owns for a result goes over to the result. -/
theorem owned_settle [DecidableEq ρ] (hempty : ∀ own, change = some own →
      s.descriptors own.result = none) (id : Nat) :
    (s.settle change).owned id = s.owned id + Change.owned id change := by
  cases change with
  | none => rfl
  | some own =>
      have hplaced := s.owned_setDescriptor id own.result own.installed
      rw [hempty own rfl] at hplaced
      exact hplaced

/-- A thread about to free a descriptor is the only one that knows it. -/
theorem Life.ends {id : Nat} (hlife : Life s id) (hfreeing : 0 < s.freeing id) :
    id < s.next ∧ s.frees id = 0 ∧ s.owned id = 0 ∧ s.freeing id = 1 := by
  cases hlife with
  | ending hid hf ho hg => exact ⟨hid, hf, ho, hg⟩
  | unborn hid hf ho hg => omega
  | live hid hf hc ho hg => omega
  | gone hid hf ho hg => omega

theorem start_sound : Sound (start ι ρ) := by
  have hthreads (id : Nat) : total (Thread.owned id) (start ι ρ).threads = 0 :=
    total_eq_zero fun _ => rfl
  have hresults (id : Nat) : total (held id) (start ι ρ).descriptors = 0 :=
    total_eq_zero fun _ => rfl
  refine ⟨fun id => .unborn (Nat.zero_le _) rfl ?_ ?_, ?_, ?_, ?_⟩
  · unfold State.owned
    rw [hthreads, hresults]
  · exact total_eq_zero fun _ => rfl
  · intro i source id seen htask
    cases htask
  · intro i change htask
    cases htask
  · intro i j change other htask
    cases htask

theorem Sound.inUse {id : Nat} (hsound : Sound s) (huse : InUse s id) :
    0 < s.owned id ∨ 0 < s.freeing id := by
  have hone : held id (some id) = 1 := if_pos rfl
  rcases huse with ⟨i, hheld⟩ | ⟨r, hplace⟩ | ⟨i, source, seen, htask⟩ |
    ⟨i, change, htask⟩ | ⟨i, change, htask⟩ | ⟨i, change, htask, hin⟩
  · exact .inl (s.owned_of_handle id hheld)
  · exact .inl (s.owned_of_descriptor id hplace)
  · have hreached := hsound.reached htask
    cases source with
    | none => exact .inl (s.owned_of_handle id hreached)
    | some r => exact .inl (s.owned_of_descriptor id hreached)
  · refine .inl (@State.owned_of_task ι ρ _ _ s id i ?_)
    rw [htask]
    change 0 < held id (some id) + _
    omega
  · refine .inr ?_
    have hle := share_le_total (Thread.freeing id) s.threads i
    unfold Thread.freeing at hle
    rw [htask] at hle
    change held id (some id) ≤ _ at hle
    unfold State.freeing Thread.freeing
    omega
  · refine .inl (@State.owned_of_task ι ρ _ _ s id i ?_)
    cases hrun : (s.threads i).task with
    | idle =>
        rw [hrun] at htask
        cases htask
    | retain source given seen =>
        rw [hrun] at htask
        cases htask
    | release own given =>
        rw [hrun] at htask
        cases (show own = some change from htask)
        change 0 < _ + held id change.installed
        rw [hin]
        omega
    | free own given =>
        rw [hrun] at htask
        cases (show own = some change from htask)
        change 0 < held id change.installed
        rw [hin]
        omega

theorem inUse_of_owned {id : Nat} (howned : 0 < s.owned id) : InUse s id := by
  unfold State.owned at howned
  rcases Nat.add_pos_iff_pos_or_pos.mp howned with hthreads | hresults
  · obtain ⟨i, hthread⟩ := exists_of_total_pos hthreads
    rcases Nat.add_pos_iff_pos_or_pos.mp hthread with hhandle | htask
    · exact .inl ⟨i, List.count_pos_iff.mp hhandle⟩
    · cases hrun : (s.threads i).task with
      | idle =>
          rw [hrun] at htask
          exact absurd htask (Nat.lt_irrefl 0)
      | retain source given seen =>
          rw [hrun] at htask
          exact absurd htask (Nat.lt_irrefl 0)
      | release change given =>
          rw [hrun] at htask
          rcases Nat.add_pos_iff_pos_or_pos.mp htask with hgiven | hchange
          · cases eq_of_held hgiven
            exact .inr (.inr (.inr (.inl ⟨i, change, hrun⟩)))
          · obtain ⟨own, rfl, hin⟩ := exists_change hchange
            exact .inr (.inr (.inr (.inr (.inr ⟨i, own, by rw [hrun]; rfl, hin⟩))))
      | free change given =>
          rw [hrun] at htask
          obtain ⟨own, rfl, hin⟩ := exists_change htask
          exact .inr (.inr (.inr (.inr (.inr ⟨i, own, by rw [hrun]; rfl, hin⟩))))
  · obtain ⟨r, hplace⟩ := exists_of_total_pos hresults
    exact .inr (.inl ⟨r, eq_of_held hplace⟩)

/-! What the steps keep. -/

variable [DecidableEq ι]

theorem Sound.apart (hsound : Sound s) (hlife : ∀ id, Life next id)
    (hapart : Apart s i next) : Sound next where
  life := hlife
  reached {j source id seen} htask := by
    by_cases hother : j = i
    · subst hother
      exact hapart.reached htask
    · obtain ⟨hsame, hsub⟩ := hapart.others j hother
      rw [hsame] at htask
      have hreached := hsound.reached htask
      cases source with
      | none => exact hsub hreached
      | some r =>
          change s.descriptors r = some id at hreached
          change next.descriptors r = some id
          rcases hapart.descriptors r with hkept | hquiet |
            ⟨change, hchange, rfl⟩
          · rw [hkept]
            exact hreached
          · exact absurd ⟨j, id, seen, htask⟩ hquiet.1
          · rw [hsound.empty hchange] at hreached
            cases hreached
  empty {j change} htask := by
    by_cases hother : j = i
    · subst hother
      exact (hapart.changing htask).1
    · rw [(hapart.others j hother).1] at htask
      rcases hapart.descriptors change.result with hkept | hquiet |
        ⟨own, hown, hresult⟩
      · rw [hkept]
        exact hsound.empty htask
      · exact absurd ⟨j, change, htask, rfl⟩ hquiet.2
      · exact absurd (hsound.exclusive htask hown hresult.symm) hother
  exclusive {j k change other} htask hchange hresult := by
    by_cases hleft : j = i
    · by_cases hright : k = i
      · rw [hleft, hright]
      · subst hleft
        rw [(hapart.others k hright).1] at hchange
        rcases (hapart.changing htask).2 with hown | hquiet
        · exact hsound.exclusive hown hchange hresult
        · exact absurd ⟨k, other, hchange, hresult.symm⟩ hquiet.2
    · rw [(hapart.others j hleft).1] at htask
      by_cases hright : k = i
      · subst hright
        rcases (hapart.changing hchange).2 with hown | hquiet
        · exact hsound.exclusive htask hown hresult
        · exact absurd ⟨j, change, htask, hresult⟩ hquiet.2
      · rw [(hapart.others k hright).1] at hchange
        exact hsound.exclusive htask hchange hresult

/-- A thread that keeps what it owns. -/
theorem Life.setThread {thread : Thread ρ} (hlife : ∀ id, Life s id)
    (howned : ∀ id, thread.owned id = (s.threads i).owned id)
    (hfreeing : ∀ id, thread.freeing id = (s.threads i).freeing id) :
    ∀ id, Life (s.setThread i thread) id := by
  refine Life.balanced hlife rfl rfl rfl (fun id => ?_) fun id => ?_
  · have := s.owned_setThread id i thread
    have := howned id
    omega
  · have := s.freeing_setThread id i thread
    have := hfreeing id
    omega

theorem Sound.setTask {task : Task ρ} (hsound : Sound s)
    (howned : ∀ id, task.owned id = (s.threads i).task.owned id)
    (hfreeing : ∀ id, task.freeing id = (s.threads i).task.freeing id)
    (hreached : ∀ source id seen, task = .retain source id seen →
      Reached s i id source)
    (hchanging : task.change = none) : Sound (s.setTask i task) := by
  refine hsound.apart (Life.setThread hsound.life (fun id => ?_) hfreeing)
    (apart_setThread rfl rfl (fun source id seen htask => ?_) hchanging)
  · rw [Thread.owned_eq, Thread.owned_eq, howned]
  · have hsame := hreached source id seen htask
    cases source with
    | none =>
        change id ∈ ((s.setTask i task).threads i).handles
        rw [State.setTask, setThread_self]
        exact hsame
    | some r => exact hsame

/-! Each step keeps the invariant. -/

theorem create_sound (hsound : Sound s)
    (hidle : (s.threads i).task = .idle) :
    Sound ({ s.setReferences s.next 1 with next := s.next + 1 }.setThread i
      ⟨s.next :: (s.threads i).handles, .idle⟩) := by
  refine hsound.apart (fun id => ?_)
    (apart_setThread rfl rfl (fun source id seen htask => ?_) rfl)
  · have howned := State.owned_setThread
      { s.setReferences s.next 1 with next := s.next + 1 } id i
      ⟨s.next :: (s.threads i).handles, .idle⟩
    have hfreeing := State.freeing_setThread
      { s.setReferences s.next 1 with next := s.next + 1 } id i
      ⟨s.next :: (s.threads i).handles, .idle⟩
    change _ + (s.threads i).owned id = s.owned id + _ at howned
    change _ + (s.threads i).freeing id = s.freeing id + 0 at hfreeing
    rw [owned_idle hidle, owned_idle rfl, count_cons_held] at howned
    rw [freeing_idle hidle] at hfreeing
    by_cases hid : id = s.next
    · subst hid
      have hone : held s.next (some s.next) = 1 := if_pos rfl
      have hcount : (Function.update s.references s.next 1) s.next = 1 :=
        Function.update_self _ _ _
      cases hsound.life s.next with
      | unborn hid hf ho hg =>
          refine .live (Nat.lt_succ_self _) hf ?_ (by omega) (by omega)
          change (Function.update s.references s.next 1 s.next).toNat = _
          rw [hcount]
          change 1 = _
          omega
      | live hid hf hc ho hg => exact absurd hid (Nat.lt_irrefl _)
      | ending hid hf ho hg => exact absurd hid (Nat.lt_irrefl _)
      | gone hid hf ho hg => exact absurd hid (Nat.lt_irrefl _)
    · have hnone : held id (some s.next) = 0 :=
        if_neg fun h => hid (Option.some.inj h).symm
      have hcount : (Function.update s.references s.next 1) id =
          s.references id := Function.update_of_ne hid _ _
      cases hsound.life id with
      | unborn hle hf ho hg =>
          refine .unborn ?_ hf (by omega) (by omega)
          change s.next + 1 ≤ id
          omega
      | live hlt hf hc ho hg =>
          refine .live (Nat.lt_succ_of_lt hlt) hf ?_ (by omega) (by omega)
          change (Function.update s.references s.next 1 id).toNat = _
          rw [hcount]
          omega
      | ending hlt hf ho hg =>
          exact .ending (Nat.lt_succ_of_lt hlt) hf (by omega) (by omega)
      | gone hlt hf ho hg =>
          exact .gone (Nat.lt_succ_of_lt hlt) hf (by omega) (by omega)
  · cases htask

theorem retained_sound {source : Option ρ} {id : Nat} {seen : UInt64}
    (hsound : Sound s) (htask : (s.threads i).task = .retain source id seen)
    (hseen : seen ≠ .ofNat (2 ^ 64 - 1)) (hsame : s.references id = seen) :
    Sound ((s.setReferences id (seen + 1)).setThread i
      ⟨id :: (s.threads i).handles, .idle⟩) := by
  have hreached : 0 < s.owned id := by
    have hsource := hsound.reached htask
    cases source with
    | none => exact s.owned_of_handle id hsource
    | some r => exact s.owned_of_descriptor id hsource
  obtain ⟨hid, hfrees, hcount, hnofree⟩ := (hsound.life id).counted hreached
  have hroom : (seen + 1).toNat = seen.toNat + 1 := by
    have hne : seen.toNat ≠ 2 ^ 64 - 1 := fun h =>
      hseen (UInt64.toNat_inj.mp (h.trans rfl))
    have hlt := seen.toNat_lt
    rw [UInt64.toNat_add]
    change (seen.toNat + 1) % 2 ^ 64 = _
    exact Nat.mod_eq_of_lt (by omega)
  refine hsound.apart (fun other => ?_)
    (apart_setThread rfl rfl (fun source id seen htask => ?_) rfl)
  · have howned := State.owned_setThread (s.setReferences id (seen + 1)) other
      i ⟨id :: (s.threads i).handles, .idle⟩
    have hfreeing := State.freeing_setThread (s.setReferences id (seen + 1))
      other i ⟨id :: (s.threads i).handles, .idle⟩
    change _ + (s.threads i).owned other = s.owned other + _ at howned
    change _ + (s.threads i).freeing other = s.freeing other + 0 at hfreeing
    rw [Thread.owned_eq, htask, owned_idle rfl, count_cons_held] at howned
    change _ + (_ + 0) = _ at howned
    unfold Thread.freeing at hfreeing
    rw [htask] at hfreeing
    change _ + 0 = _ at hfreeing
    by_cases hother : other = id
    · subst hother
      have hone : held other (some other) = 1 := if_pos rfl
      refine .live hid hfrees ?_ (by omega) (by omega)
      change (Function.update s.references other (seen + 1) other).toNat = _
      rw [hsame] at hcount
      rw [Function.update_self, hroom]
      omega
    · have hnone : held other (some id) = 0 :=
        if_neg fun h => hother (Option.some.inj h).symm
      exact (hsound.life other).congr rfl rfl
        (Function.update_of_ne hother _ _) (by omega) (by omega)
  · cases htask

theorem release_sound {id : Nat} (hsound : Sound s)
    (hidle : (s.threads i).task = .idle) (hheld : id ∈ (s.threads i).handles) :
    Sound (s.setThread i ⟨(s.threads i).handles.erase id, .release none id⟩) := by
  refine hsound.apart (Life.setThread hsound.life (fun other => ?_)
    fun other => ?_)
    (apart_setThread rfl rfl (fun source id seen htask => ?_) rfl)
  · have hcount := count_erase_held hheld other
    rw [owned_idle hidle]
    exact hcount
  · rw [freeing_idle hidle]
    rfl
  · cases htask

theorem subtractLast_sound {id : Nat} (hsound : Sound s)
    (htask : (s.threads i).task = .release change id)
    (hlast : s.references id = 1) :
    Sound ((s.setReferences id 0).setTask i (.free change id)) := by
  have hgiven : 0 < (s.threads i).task.owned id := by
    have hone : held id (some id) = 1 := if_pos rfl
    rw [htask]
    change 0 < held id (some id) + _
    omega
  obtain ⟨hid, hfrees, hcount, hnofree⟩ :=
    (hsound.life id).counted (s.owned_of_task id hgiven)
  rw [hlast] at hcount
  change 1 = _ at hcount
  refine hsound.apart (fun other => ?_) (show Apart s i _ from
    ⟨fun j hother => ?_, fun r => .inl rfl, fun hretain => ?_,
      fun {own} hown => ?_⟩)
  · have howned := State.owned_setThread (s.setReferences id 0) other i
      ⟨(s.threads i).handles, .free change id⟩
    have hfreeing := State.freeing_setThread (s.setReferences id 0) other i
      ⟨(s.threads i).handles, .free change id⟩
    change _ + (s.threads i).owned other = s.owned other +
      ((s.threads i).handles.count other + Change.owned other change) at howned
    change _ + (s.threads i).freeing other =
      s.freeing other + held other (some id) at hfreeing
    rw [Thread.owned_eq, htask] at howned
    unfold Thread.freeing at hfreeing
    rw [htask] at hfreeing
    change _ + (_ + (held other (some id) + Change.owned other change)) = _
      at howned
    change _ + 0 = _ at hfreeing
    unfold State.setTask
    change Life ((s.setReferences id 0).setThread i
      ⟨(s.threads i).handles, .free change id⟩) other
    by_cases hother : other = id
    · subst hother
      have hgave : held other (some other) = 1 := if_pos rfl
      exact .ending hid hfrees (by omega) (by omega)
    · have hnone : held other (some id) = 0 :=
        if_neg fun h => hother (Option.some.inj h).symm
      exact (hsound.life other).congr rfl rfl
        (Function.update_of_ne hother _ _) (by omega) (by omega)
  · rw [State.setTask, setThread_other _ _ hother]
    exact ⟨rfl, List.Subset.refl _⟩
  · rw [State.setTask, setThread_self] at hretain
    cases hretain
  · rw [State.setTask, setThread_self] at hown
    have hsame : (s.threads i).task.change = some own := by
      rw [htask]
      exact hown
    exact ⟨hsound.empty hsame, .inl hsame⟩

theorem give_sound {id : Nat} (hsound : Sound s)
    (hidle : (s.threads i).task = .idle) (hheld : id ∈ (s.threads i).handles)
    (hother : j ≠ i) :
    Sound ((s.setThread i ⟨(s.threads i).handles.erase id, .idle⟩).setThread
      j ⟨id :: (s.threads j).handles, (s.threads j).task⟩) := by
  have hthread (k : ι) : ((s.setThread i ⟨(s.threads i).handles.erase id,
      .idle⟩).setThread j ⟨id :: (s.threads j).handles,
        (s.threads j).task⟩).threads k = if k = j then
          ⟨id :: (s.threads j).handles, (s.threads j).task⟩
        else if k = i then ⟨(s.threads i).handles.erase id, .idle⟩
        else s.threads k := by
    by_cases hj : k = j
    · subst hj
      rw [setThread_self, if_pos rfl]
    · rw [setThread_other _ _ hj, if_neg hj]
      by_cases hi : k = i
      · subst hi
        rw [setThread_self, if_pos rfl]
      · rw [setThread_other _ _ hi, if_neg hi]
  refine hsound.apart (Life.balanced hsound.life rfl rfl rfl (fun given => ?_)
    fun given => ?_) (show Apart s i _ from
      ⟨fun k hk => ?_, fun r => .inl rfl, fun htask => ?_, fun htask => ?_⟩)
  · have hfirst := s.owned_setThread given i
      ⟨(s.threads i).handles.erase id, .idle⟩
    have hsecond := State.owned_setThread
      (s.setThread i ⟨(s.threads i).handles.erase id, .idle⟩) given j
      ⟨id :: (s.threads j).handles, (s.threads j).task⟩
    have hcount := count_erase_held hheld given
    have hmore := count_cons_held given id (s.threads j).handles
    rw [setThread_other _ _ hother] at hsecond
    rw [owned_idle hidle] at hfirst
    change _ = _ + (((s.threads i).handles.erase id).count given + 0)
      at hfirst
    change _ + (s.threads j).owned given = _ +
      ((id :: (s.threads j).handles).count given +
        (s.threads j).task.owned given) at hsecond
    rw [Thread.owned_eq] at hsecond
    omega
  · have hfirst := s.freeing_setThread given i
      ⟨(s.threads i).handles.erase id, .idle⟩
    have hsecond := State.freeing_setThread
      (s.setThread i ⟨(s.threads i).handles.erase id, .idle⟩) given j
      ⟨id :: (s.threads j).handles, (s.threads j).task⟩
    rw [setThread_other _ _ hother] at hsecond
    rw [freeing_idle hidle] at hfirst
    change _ = _ + 0 at hfirst
    change _ = _ + (s.threads j).freeing given at hsecond
    omega
  · rw [hthread]
    by_cases hj : k = j
    · subst hj
      rw [if_pos rfl]
      exact ⟨rfl, List.subset_cons_self _ _⟩
    · rw [if_neg hj, if_neg hk]
      exact ⟨rfl, List.Subset.refl _⟩
  · rw [hthread, if_neg hother.symm, if_pos rfl] at htask
    cases htask
  · rw [hthread, if_neg hother.symm, if_pos rfl] at htask
    cases htask

variable [DecidableEq ρ]

theorem install_sound {id : Nat} (hsound : Sound s)
    (hidle : (s.threads i).task = .idle) (hheld : id ∈ (s.threads i).handles)
    (hquiet : s.Quiet r) (hempty : s.descriptors r = none) :
    Sound ((s.setDescriptor r (some id)).setThread i
      ⟨(s.threads i).handles.erase id, .idle⟩) := by
  refine hsound.apart (Life.balanced hsound.life rfl rfl rfl (fun other => ?_)
    fun other => ?_) (show Apart s i _ from
      ⟨fun j hother => ?_, fun other => ?_, fun htask => ?_, fun htask => ?_⟩)
  · have howned := State.owned_setThread (s.setDescriptor r (some id)) other i
      ⟨(s.threads i).handles.erase id, .idle⟩
    have hplaced := s.owned_setDescriptor other r (some id)
    have hcount := count_erase_held hheld other
    change _ + (s.threads i).owned other =
      _ + (((s.threads i).handles.erase id).count other + 0) at howned
    rw [owned_idle hidle] at howned
    rw [hempty] at hplaced
    change _ + 0 = _ at hplaced
    omega
  · have hfreeing := State.freeing_setThread (s.setDescriptor r (some id))
      other i ⟨(s.threads i).handles.erase id, .idle⟩
    change _ + (s.threads i).freeing other = s.freeing other + 0 at hfreeing
    rw [freeing_idle hidle] at hfreeing
    omega
  · rw [setThread_other _ _ hother]
    exact ⟨rfl, List.Subset.refl _⟩
  · by_cases hresult : other = r
    · subst hresult
      exact .inr (.inl hquiet)
    · exact .inl (Function.update_of_ne hresult _ _)
  · rw [setThread_self] at htask
    cases htask
  · rw [setThread_self] at htask
    cases htask

/-- A descriptor is taken out of a result, to be released. -/
theorem takeOut_sound {handles : List Nat} {own : Change ρ} {old : Nat}
    (hsound : Sound s) (hidle : (s.threads i).task = .idle)
    (hquiet : s.Quiet own.result) (hold : s.descriptors own.result = some old)
    (hhandles : ∀ id, handles.count id + held id own.installed =
      (s.threads i).handles.count id) :
    Sound ((s.setDescriptor own.result none).setThread i
      ⟨handles, .release (some own) old⟩) := by
  refine hsound.apart (Life.balanced hsound.life rfl rfl rfl (fun other => ?_)
    fun other => ?_) (show Apart s i _ from
      ⟨fun j hother => ?_, fun other => ?_, fun htask => ?_, fun htask => ?_⟩)
  · have howned := State.owned_setThread (s.setDescriptor own.result none)
      other i ⟨handles, .release (some own) old⟩
    have hplaced := s.owned_setDescriptor other own.result none
    have hcount := hhandles other
    change _ + (s.threads i).owned other = _ + (handles.count other +
      (held other (some old) + held other own.installed)) at howned
    rw [owned_idle hidle] at howned
    rw [hold] at hplaced
    change _ = _ + 0 at hplaced
    omega
  · have hfreeing := State.freeing_setThread (s.setDescriptor own.result none)
      other i ⟨handles, .release (some own) old⟩
    change _ + (s.threads i).freeing other = s.freeing other + 0 at hfreeing
    rw [freeing_idle hidle] at hfreeing
    omega
  · rw [setThread_other _ _ hother]
    exact ⟨rfl, List.Subset.refl _⟩
  · by_cases hresult : other = own.result
    · subst hresult
      exact .inr (.inl hquiet)
    · exact .inl (Function.update_of_ne hresult _ _)
  · rw [setThread_self] at htask
    cases htask
  · rw [setThread_self] at htask
    cases htask
    exact ⟨Function.update_self _ _ _, .inr hquiet⟩

theorem subtract_sound {id : Nat} (hsound : Sound s)
    (htask : (s.threads i).task = .release change id)
    (hmore : s.references id ≠ 1) :
    Sound (((s.setReferences id (s.references id - 1)).settle change).setTask i
      .idle) := by
  have hchange : (s.threads i).task.change = change := by
    rw [htask]
    rfl
  have hgiven : 0 < (s.threads i).task.owned id := by
    have hone : held id (some id) = 1 := if_pos rfl
    rw [htask]
    change 0 < held id (some id) + _
    omega
  obtain ⟨hid, hfrees, hcount, hnofree⟩ :=
    (hsound.life id).counted (s.owned_of_task id hgiven)
  have hpos := s.owned_of_task id hgiven
  have hone : (s.references id).toNat ≠ 1 := fun h =>
    hmore (UInt64.toNat_inj.mp (h.trans rfl))
  have hless : (s.references id - 1).toNat = (s.references id).toNat - 1 := by
    have hle : (1 : UInt64) ≤ s.references id := by
      rw [UInt64.le_iff_toNat_le]
      change 1 ≤ _
      omega
    exact UInt64.toNat_sub_of_le _ _ hle
  have hfields := @fields_settle ι ρ
    (s.setReferences id (s.references id - 1)) change _
  have howned (other : Nat) :
      (((s.setReferences id (s.references id - 1)).settle change).setTask i
        .idle).owned other + held other (some id) = s.owned other := by
    have hset := State.owned_setThread
      ((s.setReferences id (s.references id - 1)).settle change) other i
      ⟨(s.threads i).handles, .idle⟩
    have hsettled := @owned_settle ι ρ
      (s.setReferences id (s.references id - 1)) change _ _ _
      (fun own hown => hsound.empty (hchange.trans hown)) other
    rw [threads_settle] at hset
    change _ + (s.threads i).owned other =
      _ + ((s.threads i).handles.count other + 0) at hset
    rw [Thread.owned_eq, htask] at hset
    change _ + (_ + (held other (some id) + Change.owned other change)) = _
      at hset
    change _ = s.owned other + _ at hsettled
    unfold State.setTask
    rw [threads_settle]
    change (State.setThread _ i ⟨(s.threads i).handles, .idle⟩).owned other +
      _ = _
    omega
  have hfreeing (other : Nat) :
      (((s.setReferences id (s.references id - 1)).settle change).setTask i
        .idle).freeing other = s.freeing other := by
    have hset := State.freeing_setThread
      ((s.setReferences id (s.references id - 1)).settle change) other i
      ⟨(s.threads i).handles, .idle⟩
    rw [threads_settle, freeing_settle] at hset
    change _ + (s.threads i).freeing other = s.freeing other + 0 at hset
    unfold Thread.freeing at hset
    rw [htask] at hset
    change _ + 0 = _ at hset
    unfold State.setTask
    rw [threads_settle]
    change (State.setThread _ i ⟨(s.threads i).handles, .idle⟩).freeing other =
      _
    omega
  refine hsound.apart (fun other => ?_) (apart_settled rfl rfl hchange)
  have hshare := howned other
  by_cases hother : other = id
  · subst hother
    have hgave : held other (some other) = 1 := if_pos rfl
    refine .live ?_ ?_ ?_ (by omega) ?_
    · change _ < (State.settle _ change).next
      rw [hfields.1]
      exact hid
    · change (State.settle _ change).frees other = 0
      rw [hfields.2.1]
      exact hfrees
    · change ((State.settle _ change).references other).toNat = _
      rw [hfields.2.2]
      change (Function.update s.references other _ other).toNat = _
      rw [Function.update_self, hless]
      omega
    · rw [hfreeing]
      exact hnofree
  · have hnone : held other (some id) = 0 :=
      if_neg fun h => hother (Option.some.inj h).symm
    refine (hsound.life other).congr hfields.1 (congrFun hfields.2.1 other) ?_
      (by omega) (hfreeing other)
    change (State.settle _ change).references other = _
    rw [hfields.2.2]
    exact Function.update_of_ne hother _ _

theorem free_sound {id : Nat} (hsound : Sound s)
    (htask : (s.threads i).task = .free change id) :
    Sound ((({ s with
      frees := Function.update s.frees id (s.frees id + 1) }).settle
        change).setTask i .idle) := by
  have hchange : (s.threads i).task.change = change := by
    rw [htask]
    rfl
  have hending : 0 < s.freeing id := by
    have hle := share_le_total (Thread.freeing id) s.threads i
    unfold Thread.freeing at hle
    rw [htask] at hle
    have hone : Task.freeing id (.free change id) = 1 := if_pos rfl
    unfold State.freeing Thread.freeing
    omega
  obtain ⟨hid, hfrees, hnone, hsole⟩ := (hsound.life id).ends hending
  generalize hfreed : ({ s with
    frees := Function.update s.frees id (s.frees id + 1) } : State ι ρ) = freed
  have hthreads : freed.threads = s.threads := by rw [← hfreed]
  have hdescriptors : freed.descriptors = s.descriptors := by rw [← hfreed]
  have hfields := @fields_settle ι ρ freed change _
  have howned (other : Nat) :
      ((freed.settle change).setTask i .idle).owned other = s.owned other := by
    have hset := State.owned_setThread (freed.settle change) other i
      ⟨(s.threads i).handles, .idle⟩
    have hsettled := @owned_settle ι ρ freed change _ _ _
      (fun own hown => by
        rw [hdescriptors]
        exact hsound.empty (hchange.trans hown)) other
    have hsame : freed.owned other = s.owned other := by rw [← hfreed]; rfl
    rw [threads_settle, hthreads] at hset
    change _ + (s.threads i).owned other =
      _ + ((s.threads i).handles.count other + 0) at hset
    rw [Thread.owned_eq, htask] at hset
    change _ + (_ + Change.owned other change) = _ at hset
    unfold State.setTask
    rw [threads_settle, hthreads]
    change (State.setThread _ i ⟨(s.threads i).handles, .idle⟩).owned other =
      _
    omega
  have hfreeing (other : Nat) :
      ((freed.settle change).setTask i .idle).freeing other +
        held other (some id) = s.freeing other := by
    have hset := State.freeing_setThread (freed.settle change) other i
      ⟨(s.threads i).handles, .idle⟩
    have hsame : freed.freeing other = s.freeing other := by rw [← hfreed]; rfl
    rw [threads_settle, freeing_settle, hthreads, hsame] at hset
    change _ + (s.threads i).freeing other = s.freeing other + 0 at hset
    unfold Thread.freeing at hset
    rw [htask] at hset
    change _ + held other (some id) = _ at hset
    unfold State.setTask
    rw [threads_settle, hthreads]
    change (State.setThread _ i ⟨(s.threads i).handles, .idle⟩).freeing other +
      _ = _
    omega
  refine hsound.apart (fun other => ?_)
    (apart_settled hthreads hdescriptors hchange)
  have hshare := howned other
  have hending := hfreeing other
  have hnext : (freed.settle change).next = s.next := by
    rw [hfields.1, ← hfreed]
  have hcount : (freed.settle change).references = s.references := by
    rw [hfields.2.2, ← hfreed]
  have hfrees' : (freed.settle change).frees =
      Function.update s.frees id (s.frees id + 1) := by
    rw [hfields.2.1, ← hfreed]
  by_cases hother : other = id
  · subst hother
    have hgave : held other (some other) = 1 := if_pos rfl
    refine .gone ?_ ?_ (by omega) (by omega)
    · change _ < (freed.settle change).next
      rw [hnext]
      exact hid
    · change (freed.settle change).frees other = 1
      rw [hfrees', Function.update_self, hfrees]
  · have hnone : held other (some id) = 0 :=
      if_neg fun h => hother (Option.some.inj h).symm
    refine (hsound.life other).congr hnext ?_ (congrFun hcount other)
      (by omega) (by omega)
    change (freed.settle change).frees other = _
    rw [hfrees']
    exact Function.update_of_ne hother _ _

theorem step_sound (hsound : Sound s) (hstep : Step s i next) : Sound next := by
  cases hstep with
  | create hidle => exact create_sound hsound hidle
  | @retain id hidle hheld =>
      refine hsound.setTask (fun other => ?_) (fun other => ?_)
        (fun source given seen htask => ?_) rfl
      · rw [hidle]
        rfl
      · rw [hidle]
        rfl
      · cases htask
        exact hheld
  | @acquire r id hidle hpublished hquiet =>
      refine hsound.setTask (fun other => ?_) (fun other => ?_)
        (fun source given seen htask => ?_) rfl
      · rw [hidle]
        rfl
      · rw [hidle]
        rfl
      · cases htask
        exact hpublished
  | @retry source id seen htask =>
      refine hsound.setTask (fun other => ?_) (fun other => ?_)
        (fun source given seen hretain => ?_) rfl
      · rw [htask]
        rfl
      · rw [htask]
        rfl
      · cases hretain
        exact hsound.reached htask
  | full htask hseen =>
      refine hsound.setTask (fun other => ?_) (fun other => ?_)
        (fun source given seen hretain => ?_) rfl
      · rw [htask]
        rfl
      · rw [htask]
        rfl
      · cases hretain
  | retained htask hseen hsame => exact retained_sound hsound htask hseen hsame
  | release hidle hheld => exact release_sound hsound hidle hheld
  | install hidle hheld hquiet hempty =>
      exact install_sound hsound hidle hheld hquiet hempty
  | @replace r id old hidle hheld hquiet hold =>
      exact @takeOut_sound ι ρ s i _ _ _ _ _ ⟨r, some id⟩ old hsound hidle
        hquiet hold (count_erase_held hheld)
  | @cleanup r old hidle hquiet hold =>
      exact @takeOut_sound ι ρ s i _ _ _ _ _ ⟨r, none⟩ old hsound hidle
        hquiet hold fun id => rfl
  | subtract htask hmore => exact subtract_sound hsound htask hmore
  | subtractLast htask hlast => exact subtractLast_sound hsound htask hlast
  | free htask => exact free_sound hsound htask
  | give hidle hheld hother => exact give_sound hsound hidle hheld hother

/-- However the threads' steps interleave, a descriptor is allocated and not freed
exactly as long as anything leads to it; none is freed twice, and the count is that
of the references until the last is given up. -/
theorem descriptors_counted {schedule : List ι}
    (hrun : Run Step (start ι ρ) schedule s) (id : Nat) :
    (InUse s id ↔ id < s.next ∧ s.frees id = 0) ∧ s.frees id ≤ 1 ∧
      (0 < s.owned id → (s.references id).toNat = s.owned id) := by
  have hsound : Sound s := hrun.invariant start_sound fun hsound hstep =>
    step_sound hsound hstep
  refine ⟨⟨fun huse => ?_, fun ⟨hid, hunfreed⟩ => ?_⟩, ?_,
    fun howned => ((hsound.life id).counted howned).2.2.1⟩
  · have hsome := hsound.inUse huse
    cases hsound.life id with
    | live hid hf hc ho hg => exact ⟨hid, hf⟩
    | ending hid hf ho hg => exact ⟨hid, hf⟩
    | unborn hid hf ho hg => omega
    | gone hid hf ho hg => omega
  · cases hsound.life id with
    | live hlt hf hc ho hg => exact inUse_of_owned ho
    | ending hlt hf ho hg => exact inUse_of_freeing (by omega)
    | unborn hle hf ho hg => omega
    | gone hlt hf ho hg => omega
  · cases hsound.life id with
    | unborn hid hf ho hg => omega
    | live hid hf hc ho hg => omega
    | ending hid hf ho hg => omega
    | gone hid hf ho hg => omega

end Finite

/-! A snapshot that outlives its result. -/

def published : State Bool Unit :=
  ((({ (start Bool Unit).setReferences 0 1 with next := 1 }.setThread false
    ⟨[0], .idle⟩).setDescriptor () (some 0)).setThread false ⟨[], .idle⟩)

def acquired : State Bool Unit :=
  ((published.setTask true (.retain (some ()) 0 1)).setReferences 0 2).setThread
    true ⟨[0], .idle⟩

def destroyed : State Bool Unit :=
  ((((acquired.setDescriptor () none).setTask false
    (.release (some ⟨(), none⟩) 0)).setReferences 0 1).settle
      (some ⟨(), none⟩)).setTask false .idle

theorem published_run :
    Run Step (start Bool Unit) [false, false] published := by
  have hcreate : Run Step (start Bool Unit) ([] ++ [false]) _ :=
    .snoc .nil (.create rfl)
  refine .snoc hcreate (@Step.install Bool Unit _ _ _ false () 0 rfl
    List.mem_cons_self ⟨?_, ?_⟩ rfl)
  · rintro ⟨i, id, seen, htask⟩
    cases i <;> cases htask
  · rintro ⟨i, change, htask, -⟩
    cases i <;> cases htask

theorem destroyed_run :
    ∃ schedule, Run Step (start Bool Unit) schedule destroyed := by
  have hquiet : ¬ published.Changing () := by
    rintro ⟨i, change, htask, -⟩
    cases i <;> cases htask
  have hacquire := Run.snoc published_run
    (@Step.acquire Bool Unit _ _ published true () 0 rfl rfl hquiet)
  have hretained : Run Step (start Bool Unit) _ acquired :=
    .snoc hacquire (@Step.retained Bool Unit _ _ _ true (some ()) 0 1 rfl
      (by decide) rfl)
  have hcalm : acquired.Quiet () := by
    constructor
    · rintro ⟨i, id, seen, htask⟩
      cases i <;> cases htask
    · rintro ⟨i, change, htask, -⟩
      cases i <;> cases htask
  have hcleanup := Run.snoc hretained
    (@Step.cleanup Bool Unit _ _ acquired false () 0 rfl hcalm rfl)
  exact ⟨_, .snoc hcleanup (@Step.subtract Bool Unit _ _ _ false
    (some ⟨(), none⟩) 0 rfl (by decide))⟩

theorem descriptors_counted_destroyed :
    InUse destroyed 0 ∧ destroyed.descriptors () = none ∧
      ((InUse destroyed 0 ↔ 0 < destroyed.next ∧ destroyed.frees 0 = 0) ∧
        destroyed.frees 0 ≤ 1 ∧ (0 < destroyed.owned 0 →
          (destroyed.references 0).toNat = destroyed.owned 0)) := by
  obtain ⟨schedule, hrun⟩ := destroyed_run
  exact ⟨.inl ⟨true, List.mem_cons_self⟩, rfl, descriptors_counted hrun 0⟩

end Libsqli.Snapshots
