import Mathlib.Tactic.Common

namespace Libsqli.Data

/-! Runs of a labelled transition relation. -/

variable {State Event : Type*}

/-- The events of a run, in order, from its first state to its last. -/
inductive Run (step : State → Event → State → Prop) (first : State) :
    List Event → State → Prop where
  | nil : Run step first [] first
  | snoc {last next : State} {events : List Event} {event : Event} :
      Run step first events last → step last event next →
        Run step first (events ++ [event]) next

namespace Run

variable {step : State → Event → State → Prop}

/-- What holds at first and is kept by every step holds at the end. -/
theorem invariant {Holds : State → Prop} {first last : State}
    {events : List Event} (hrun : Run step first events last)
    (hfirst : Holds first)
    (hstep : ∀ {state event next}, Holds state → step state event next →
      Holds next) : Holds last := by
  induction hrun with
  | nil => exact hfirst
  | snoc _ hlast ih => exact hstep ih hlast

/-- A relation every step stands in relates the two ends of a run. -/
theorem relates {Related : State → State → Prop} {first last : State}
    {events : List Event} (hrun : Run step first events last)
    (hrefl : ∀ state, Related state state)
    (htrans : ∀ {left middle right}, Related left middle →
      Related middle right → Related left right)
    (hstep : ∀ {state event next}, step state event next →
      Related state next) : Related first last := by
  induction hrun with
  | nil => exact hrefl first
  | snoc _ hlast ih => exact htrans ih (hstep hlast)

/-- A state component that changes exactly at the counted events, and never from
`true`, bounds their number by one. -/
theorem countP_le_one (flag : State → Bool) (counted : Event → Bool)
    {Holds : State → Prop} {first last : State} {events : List Event}
    (hrun : Run step first events last) (hfirst : Holds first)
    (hclear : flag first = false)
    (hkeeps : ∀ {state event next}, Holds state → step state event next →
      Holds next)
    (hcounted : ∀ {state event next}, Holds state → step state event next →
      counted event = true → flag state = false ∧ flag next = true)
    (hother : ∀ {state event next}, Holds state → step state event next →
      counted event = false → flag next = flag state) :
    events.countP counted ≤ 1 := by
  have hcount : Holds last ∧
      events.countP counted = if flag last then 1 else 0 := by
    induction hrun with
    | nil => exact ⟨hfirst, by simp [hclear]⟩
    | @snoc last next events event _ hlast ih =>
        obtain ⟨hholds, hcount⟩ := ih
        refine ⟨hkeeps hholds hlast, ?_⟩
        cases hevent : counted event with
        | true =>
            obtain ⟨hbefore, hafter⟩ := hcounted hholds hlast hevent
            simp [hcount, hevent, hbefore, hafter]
        | false =>
            have hsame := hother hholds hlast hevent
            simp [hcount, hevent, hsame]
  rw [hcount.2]
  split <;> decide

end Run

end Libsqli.Data
