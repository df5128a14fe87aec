import Mathlib.Tactic.Common

namespace Libsqli.Data.Program

/-! Programs over a state that may stop with an error; the state survives. -/

variable {ε σ α β : Type}

theorem bind_apply (first : EStateM ε σ α) (next : α → EStateM ε σ β)
    (state : σ) :
    (first >>= next) state =
      match first state with
      | .ok value after => next value after
      | .error error after => .error error after := rfl

theorem bind_eq_ok {first : EStateM ε σ α} {next : α → EStateM ε σ β}
    {state after : σ} {result : β} :
    (first >>= next) state = .ok result after ↔
      ∃ value middle, first state = .ok value middle ∧
        next value middle = .ok result after := by
  rw [bind_apply]
  cases first state with
  | ok value middle => simp
  | error error middle => simp

@[simp] theorem pure_apply (value : α) (state : σ) :
    (pure value : EStateM ε σ α) state = .ok value state := rfl

/-- The state a run ends in, however it ends. -/
def stateOf : EStateM.Result ε σ α → σ
  | .ok _ state => state
  | .error _ state => state

/-! What a program does from every state that meets a condition. -/

/-- From a state with `pre`, a program that returns leaves `post`, and one that
stops leaves `fails`. -/
def Holds (pre : σ → Prop) (program : EStateM ε σ α) (post : α → σ → Prop)
    (fails : ε → σ → Prop) : Prop :=
  ∀ state, pre state →
    match program state with
    | .ok value after => post value after
    | .error error after => fails error after

variable {pre : σ → Prop} {post : α → σ → Prop} {fails : ε → σ → Prop}

theorem Holds.pure {value : α} (h : ∀ state, pre state → post value state) :
    Holds pre (Pure.pure value) post fails := h

theorem Holds.bind {first : EStateM ε σ α} {next : α → EStateM ε σ β}
    {middle : α → σ → Prop} {last : β → σ → Prop}
    (hfirst : Holds pre first middle fails)
    (hnext : ∀ value, Holds (middle value) (next value) last fails) :
    Holds pre (first >>= next) last fails := by
  intro state hpre
  have hmiddle := hfirst state hpre
  rw [bind_apply]
  cases hrun : first state with
  | ok value after =>
      rw [hrun] at hmiddle
      exact hnext value after hmiddle
  | error error after =>
      rw [hrun] at hmiddle
      exact hmiddle

theorem Holds.ite {condition : Prop} [Decidable condition]
    {yes no : EStateM ε σ α}
    (hyes : condition → Holds pre yes post fails)
    (hno : ¬ condition → Holds pre no post fails) :
    Holds pre (if condition then yes else no) post fails := by
  split
  · next h => exact hyes h
  · next h => exact hno h

/-- A branch on the state. -/
theorem Holds.branch {condition : σ → Prop} [DecidablePred condition]
    {yes no : EStateM ε σ α}
    (hyes : Holds (fun state => pre state ∧ condition state) yes post fails)
    (hno : Holds (fun state => pre state ∧ ¬ condition state) no post fails) :
    Holds pre (fun state => if condition state then yes state else no state)
      post fails := by
  intro state hpre
  dsimp only
  by_cases h : condition state
  · rw [if_pos h]
    exact hyes state ⟨hpre, h⟩
  · rw [if_neg h]
    exact hno state ⟨hpre, h⟩

theorem Holds.mono {program : EStateM ε σ α} {stronger : σ → Prop}
    {weaker : α → σ → Prop} {failing : ε → σ → Prop}
    (hprogram : Holds pre program post fails)
    (hpre : ∀ state, stronger state → pre state)
    (hpost : ∀ value state, post value state → weaker value state)
    (hfails : ∀ error state, fails error state → failing error state) :
    Holds stronger program weaker failing := by
  intro state hstate
  have hrun := hprogram state (hpre state hstate)
  cases hresult : program state with
  | ok value after =>
      rw [hresult] at hrun
      exact hpost value after hrun
  | error error after =>
      rw [hresult] at hrun
      exact hfails error after hrun

theorem Holds.and {program : EStateM ε σ α} {other : σ → Prop}
    {last : α → σ → Prop} {failing : ε → σ → Prop}
    (hfirst : Holds pre program post fails)
    (hsecond : Holds other program last failing) :
    Holds (fun state => pre state ∧ other state) program
      (fun value state => post value state ∧ last value state)
      fun error state => fails error state ∧ failing error state := by
  rintro state ⟨hpre, hother⟩
  have hleft := hfirst state hpre
  have hright := hsecond state hother
  cases hrun : program state with
  | ok value after =>
      rw [hrun] at hleft hright
      exact ⟨hleft, hright⟩
  | error error after =>
      rw [hrun] at hleft hright
      exact ⟨hleft, hright⟩

/-- A program that keeps a condition, whether it returns or stops. -/
abbrev Upholds (fixed : σ → Prop) (program : EStateM ε σ α) : Prop :=
  Holds fixed program (fun _ => fixed) fun _ => fixed

/-! What a program does alike from two states. -/

variable {related : σ → σ → Prop}

/-- Two runs come to the same end; if they return, their states are related. -/
def Match (related : σ → σ → Prop) :
    EStateM.Result ε σ α → EStateM.Result ε σ α → Prop
  | .ok left state, .ok right other => left = right ∧ related state other
  | .error left _, .error right _ => left = right
  | _, _ => False

theorem Match.mono {weaker : σ → σ → Prop} {first second : EStateM.Result ε σ α}
    (hmatch : Match related first second)
    (hweaker : ∀ state other, related state other → weaker state other) :
    Match weaker first second := by
  cases first with
  | ok value state =>
      cases second with
      | ok found other => exact ⟨hmatch.1, hweaker state other hmatch.2⟩
      | error found other => cases hmatch
  | error error state =>
      cases second with
      | ok found other => cases hmatch
      | error found other => exact hmatch

/-- From related states, runs that match. -/
def Relates (before after : σ → σ → Prop) (program : EStateM ε σ α) : Prop :=
  ∀ state other, before state other →
    Match after (program state) (program other)

abbrev Respects (related : σ → σ → Prop) (program : EStateM ε σ α) : Prop :=
  Relates related related program

variable {before after middle : σ → σ → Prop}

theorem Relates.pure (value : α) (h : ∀ state other, before state other →
    after state other) :
    Relates before after (Pure.pure value : EStateM ε σ α) :=
  fun state other hstates => ⟨rfl, h state other hstates⟩

theorem Relates.ite {condition : Prop} [Decidable condition]
    {yes no : EStateM ε σ α} (hyes : Relates before after yes)
    (hno : Relates before after no) :
    Relates before after (if condition then yes else no) := by
  split
  · exact hyes
  · exact hno

theorem Match.bind {first : EStateM ε σ α} {next : α → EStateM ε σ β}
    {state other : σ} (hfirst : Match middle (first state) (first other))
    (hnext : ∀ value, Relates middle after (next value)) :
    Match after ((first >>= next) state) ((first >>= next) other) := by
  rw [bind_apply, bind_apply]
  cases hleft : first state with
  | ok value behind =>
      cases hright : first other with
      | ok found last =>
          rw [hleft, hright] at hfirst
          obtain ⟨rfl, hbehind⟩ := hfirst
          exact hnext value behind last hbehind
      | error found last =>
          rw [hleft, hright] at hfirst
          cases hfirst
  | error error behind =>
      cases hright : first other with
      | ok found last =>
          rw [hleft, hright] at hfirst
          cases hfirst
      | error found last =>
          rw [hleft, hright] at hfirst
          exact hfirst

theorem Relates.bind {first : EStateM ε σ α} {next : α → EStateM ε σ β}
    (hfirst : Relates before middle first)
    (hnext : ∀ value, Relates middle after (next value)) :
    Relates before after (first >>= next) :=
  fun state other hstates => (hfirst state other hstates).bind hnext

end Libsqli.Data.Program
