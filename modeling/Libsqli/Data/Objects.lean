import Mathlib.Data.List.Basic

namespace Libsqli.Data.Objects

/-! Objects that calls reach through a handle. -/

variable {Object Outcome : Type*} {objects : List Object} {index : Nat}
  {call : Object → Outcome × Object} {missing : Outcome}

/-- A call on the object of a handle; `missing` is the outcome without one. -/
def onObject (missing : Outcome) (objects : List Object) (index : Nat)
    (call : Object → Outcome × Object) : Outcome × List Object :=
  match objects[index]? with
  | none => (missing, objects)
  | some object => ((call object).1, objects.set index (call object).2)

theorem onObject_some (hobject : objects[index]? = some object) :
    onObject missing objects index call =
      ((call object).1, objects.set index (call object).2) := by
  rw [onObject, hobject]

theorem onObject_none (hobject : objects[index]? = none) :
    onObject missing objects index call = (missing, objects) := by
  rw [onObject, hobject]

/-- A call that leaves its object alone leaves every object alone. -/
theorem onObject_unchanged (failed : Outcome → Prop)
    (hcall : ∀ object ∈ objects, failed (call object).1 →
      (call object).2 = object)
    (hfailed : failed (onObject missing objects index call).1) :
    (onObject missing objects index call).2 = objects := by
  cases hobject : objects[index]? with
  | none => rw [onObject_none hobject]
  | some object =>
      rw [onObject_some hobject] at hfailed ⊢
      rw [hcall object (List.mem_of_getElem? hobject) hfailed]
      obtain ⟨hindex, rfl⟩ := List.getElem?_eq_some_iff.mp hobject
      exact List.set_getElem_self hindex

/-- A property that a call keeps of its object, it keeps of all. -/
theorem onObject_forall {Holds : Object → Prop}
    (hobjects : ∀ object ∈ objects, Holds object)
    (hcall : ∀ object ∈ objects, Holds (call object).2) :
    ∀ object ∈ (onObject missing objects index call).2, Holds object := by
  intro object member
  cases hobject : objects[index]? with
  | none =>
      rw [onObject_none hobject] at member
      exact hobjects object member
  | some found =>
      rw [onObject_some hobject] at member
      rcases List.mem_or_eq_of_mem_set member with member | rfl
      · exact hobjects object member
      · exact hcall found (List.mem_of_getElem? hobject)

/-- What every call on an object of the list yields, and a call without one. -/
theorem onObject_outcome {Yields : Outcome → Prop}
    (hcall : ∀ object ∈ objects, Yields (call object).1)
    (hmissing : Yields missing) :
    Yields (onObject missing objects index call).1 := by
  cases hobject : objects[index]? with
  | none => rwa [onObject_none hobject]
  | some object =>
      rw [onObject_some hobject]
      exact hcall object (List.mem_of_getElem? hobject)

end Libsqli.Data.Objects
