import Libsqli.Data.Bytes
import Libsqli.Data.Program

namespace Libsqli.Data.Stream

open Libsqli.Data.Bytes
open Libsqli.Data.Program

/-! Programs that take octets off what has arrived. -/

variable {ε σ α β : Type} {failure : ε}

/-- The octets that are not yet read, and what else a program works on. -/
structure Incoming (σ : Type) where
  unread : List UInt8
  own : σ
  deriving DecidableEq

abbrev Reading (ε σ α : Type) := EStateM ε (Incoming σ) α

/-- A read that wants more than there is takes what there is and fails. -/
def readExact (failure : ε) (count : Nat) : Reading ε σ (List UInt8) :=
  fun state =>
    if count ≤ state.unread.length then
      .ok (state.unread.take count)
        { state with unread := state.unread.drop count }
    else .error failure { state with unread := [] }

def readNatural (failure : ε) (width : Nat) : Reading ε σ Nat :=
  natOfBytes <$> readExact failure width

/-- A round gives the value that the next one starts with, or the result. -/
def rounds (failure : ε) (round : β → Reading ε σ (β ⊕ α)) :
    Nat → β → Reading ε σ α
  | 0, _ => throw failure
  | fuel + 1, value => do
      match ← round value with
      | .inl next => rounds failure round fuel next
      | .inr result => return result

/-- Rounds until there is a result: more of them than there are octets. -/
def forever (failure : ε) (round : β → Reading ε σ (β ⊕ α)) (value : β) :
    Reading ε σ α :=
  fun state => rounds failure round (state.unread.length + 1) value state

theorem readExact_short {count : Nat} {state : Incoming σ}
    (hshort : state.unread.length < count) :
    readExact failure count state = .error failure ⟨[], state.own⟩ :=
  if_neg (Nat.not_le.mpr hshort)

theorem map_apply (convert : α → β) (program : Reading ε σ α)
    (state : Incoming σ) :
    (convert <$> program) state =
      match program state with
      | .ok value after => .ok (convert value) after
      | .error error after => .error error after := by
  change EStateM.map convert program state = _
  unfold EStateM.map
  cases program state <;> rfl

/-! The least number of octets that a program takes if it returns. -/

structure Drops (count : Nat) (program : Reading ε σ α) : Prop where
  /-- What is left is an end of what there was. -/
  suffix : ∀ state, (stateOf (program state)).unread <:+ state.unread
  length_le : ∀ {state value after}, program state = .ok value after →
    after.unread.length + count ≤ state.unread.length

variable {count fewer : Nat} {program : Reading ε σ α}
  {round : β → Reading ε σ (β ⊕ α)} {state : Incoming σ}

theorem Drops.mono (hdrops : Drops count program) (hle : fewer ≤ count) :
    Drops fewer program :=
  ⟨hdrops.suffix, fun hrun => by
    have hlength := hdrops.length_le hrun
    omega⟩

theorem Drops.free (hdrops : Drops count program) : Drops 0 program :=
  hdrops.mono (Nat.zero_le _)

theorem Drops.pure (value : α) : Drops 0 (Pure.pure value : Reading ε σ α) :=
  ⟨fun _ => List.suffix_rfl, fun hrun => by
    cases hrun
    exact Nat.le_refl _⟩

theorem Drops.throw (error : ε) (count : Nat) :
    Drops count (throw error : Reading ε σ α) :=
  ⟨fun _ => List.suffix_rfl, nofun⟩

theorem Drops.bind {first : Reading ε σ α} {next : α → Reading ε σ β}
    {more : Nat} (hfirst : Drops count first)
    (hnext : ∀ value, Drops more (next value)) :
    Drops (count + more) (first >>= next) := by
  constructor
  · intro state
    have hsuffix := hfirst.suffix state
    rw [bind_apply]
    cases hrun : first state with
    | error error after =>
        rw [hrun] at hsuffix
        exact hsuffix
    | ok value middle =>
        rw [hrun] at hsuffix
        exact ((hnext value).suffix middle).trans hsuffix
  · intro state result after hrun
    obtain ⟨value, middle, hmiddle, hlast⟩ := bind_eq_ok.mp hrun
    have hlength := hfirst.length_le hmiddle
    have hrest := (hnext value).length_le hlast
    omega

theorem Drops.then {first : Reading ε σ α} {next : α → Reading ε σ β}
    (hfirst : Drops count first) (hnext : ∀ value, Drops 0 (next value)) :
    Drops count (first >>= next) :=
  hfirst.bind hnext

theorem Drops.map (hdrops : Drops count program) (convert : α → β) :
    Drops count (convert <$> program) :=
  hdrops.bind fun value => Drops.pure (convert value)

theorem Drops.ite {condition : Prop} [Decidable condition]
    {yes no : Reading ε σ α} (hyes : Drops count yes) (hno : Drops count no) :
    Drops count (if condition then yes else no) := by
  split
  · exact hyes
  · exact hno

theorem Drops.readExact (count : Nat) :
    Drops count (Stream.readExact failure count : Reading ε σ (List UInt8)) := by
  constructor
  · intro state
    unfold Stream.readExact
    by_cases hcount : count ≤ state.unread.length
    · rw [if_pos hcount]
      exact List.drop_suffix _ _
    · rw [if_neg hcount]
      exact List.nil_suffix
  · intro state value after hrun
    unfold Stream.readExact at hrun
    by_cases hcount : count ≤ state.unread.length
    · rw [if_pos hcount] at hrun
      cases hrun
      simp only [List.length_drop]
      omega
    · rw [if_neg hcount] at hrun
      cases hrun

theorem Drops.readNatural (width : Nat) :
    Drops width (Stream.readNatural failure width : Reading ε σ Nat) :=
  (Drops.readExact width).map natOfBytes

theorem Drops.rounds (hround : ∀ value, Drops count (round value))
    (fuel : Nat) (value : β) :
    Drops count (Stream.rounds failure round fuel value) := by
  induction fuel generalizing value with
  | zero => exact Drops.throw failure count
  | succ fuel ih =>
      refine (hround value).then fun outcome => ?_
      cases outcome with
      | inl next => exact (ih next).free
      | inr result => exact Drops.pure result

theorem Drops.forever (hround : ∀ value, Drops count (round value))
    (value : β) : Drops count (Stream.forever failure round value) :=
  ⟨fun state => (Drops.rounds hround (state.unread.length + 1) value).suffix
      state,
    fun {state _ _} hrun =>
      (Drops.rounds hround (state.unread.length + 1) value).length_le hrun⟩

/-! Rounds come to their end if each that is followed by another one takes
something. -/

def Proceeds (round : β → Reading ε σ (β ⊕ α)) : Prop :=
  ∀ value state next after, round value state = .ok (.inl next) after →
    after.unread.length < state.unread.length

theorem Proceeds.of_drops (hround : ∀ value, Drops 1 (round value)) :
    Proceeds round := by
  intro value state next after hrun
  have hlength := (hround value).length_le hrun
  omega

/-- A loop that looks at its condition first. -/
theorem Proceeds.guarded {condition : β → Prop} [DecidablePred condition]
    {result : β → α} {body : β → Reading ε σ (β ⊕ α)}
    (hbody : ∀ value, Drops 1 (body value)) :
    Proceeds fun value =>
      if condition value then pure (.inr (result value)) else body value := by
  intro value state next after hrun
  dsimp only at hrun
  split at hrun
  · cases hrun
  · have hlength := (hbody value).length_le hrun
    omega

theorem rounds_fuel (hround : Proceeds round) {fuel more : Nat}
    (hfuel : state.unread.length < fuel) (hmore : fuel ≤ more) (value : β) :
    rounds failure round more value state =
      rounds failure round fuel value state := by
  induction fuel generalizing more value state with
  | zero => omega
  | succ fuel ih =>
      obtain ⟨more, rfl⟩ := Nat.exists_eq_add_of_le hmore
      rw [Nat.succ_add_eq_add_succ, Nat.add_succ]
      unfold rounds
      rw [bind_apply, bind_apply]
      cases hrun : round value state with
      | error error after => rfl
      | ok outcome after =>
          cases outcome with
          | inr result => rfl
          | inl next =>
              have hlength := hround _ _ _ _ hrun
              exact ih (by omega) (Nat.le_add_right fuel more) next

theorem forever_eq (hround : Proceeds round) (value : β)
    (state : Incoming σ) :
    forever failure round value state =
      match round value state with
      | .ok (.inl next) after => forever failure round next after
      | .ok (.inr result) after => .ok result after
      | .error error after => .error error after := by
  change rounds failure round (state.unread.length + 1) value state = _
  unfold rounds
  rw [bind_apply]
  cases hrun : round value state with
  | error error after => rfl
  | ok outcome after =>
      cases outcome with
      | inr result => rfl
      | inl next =>
          have hlength := hround _ _ _ _ hrun
          exact rounds_fuel hround (Nat.lt_succ_self _) (by omega) next

/-! What every read and every round keeps, a loop keeps. -/

theorem Holds.readExact {fails : ε → Incoming σ → Prop}
    (hfails : ∀ state, fails failure state) (count : Nat) :
    Holds (fun _ => True)
      (Stream.readExact failure count : Reading ε σ (List UInt8))
      (fun _ _ => True) fails := by
  intro state _
  unfold Stream.readExact
  by_cases hcount : count ≤ state.unread.length
  · rw [if_pos hcount]
    trivial
  · rw [if_neg hcount]
    exact hfails _

theorem Holds.forever {pre : Incoming σ → Prop}
    {fails : ε → Incoming σ → Prop}
    (hround : ∀ value, Holds pre (round value) (fun _ => pre) fails)
    (hfails : ∀ state, pre state → fails failure state) (value : β) :
    Holds pre (Stream.forever failure round value) (fun _ => pre) fails := by
  have hrounds (fuel : Nat) : ∀ value,
      Holds pre (rounds failure round fuel value) (fun _ => pre) fails := by
    induction fuel with
    | zero => exact fun _ => hfails
    | succ fuel ih =>
        intro value
        refine (hround value).bind fun outcome => ?_
        cases outcome with
        | inl next => exact ih next
        | inr result => exact Holds.pure fun _ hstate => hstate
  exact fun state => hrounds (state.unread.length + 1) value state

/-! Octets that a program takes whatever stands behind them. -/

def Takes (program : Reading ε σ α) (bytes : List UInt8) (value : α) : Prop :=
  ∀ rest own, program ⟨bytes ++ rest, own⟩ = .ok value ⟨rest, own⟩

variable {value : α} {bytes front back : List UInt8}

theorem Takes.pure (value : α) :
    Takes (Pure.pure value : Reading ε σ α) [] value :=
  fun _ _ => rfl

theorem Takes.bind_eq {first : Reading ε σ α} {next : α → Reading ε σ β}
    (hfirst : Takes first front value) (rest : List UInt8) (own : σ) :
    (first >>= next) ⟨front ++ rest, own⟩ = next value ⟨rest, own⟩ := by
  rw [bind_apply, hfirst]

theorem Takes.bind {first : Reading ε σ α} {next : α → Reading ε σ β}
    {result : β} (hfirst : Takes first front value)
    (hnext : Takes (next value) back result) :
    Takes (first >>= next) (front ++ back) result := by
  intro rest own
  rw [List.append_assoc, hfirst.bind_eq]
  exact hnext rest own

theorem Takes.then {first : Reading ε σ α} {next : α → Reading ε σ β}
    {result : β} (hfirst : Takes first bytes value)
    (hnext : Takes (next value) [] result) :
    Takes (first >>= next) bytes result :=
  List.append_nil bytes ▸ hfirst.bind hnext

theorem Takes.map (htakes : Takes program bytes value) (convert : α → β) :
    Takes (convert <$> program) bytes (convert value) :=
  htakes.then (Takes.pure (convert value))

theorem Takes.readExact (hcount : bytes.length = count) :
    Takes (Stream.readExact failure count : Reading ε σ (List UInt8)) bytes
      bytes := by
  intro rest own
  subst count
  simp [Stream.readExact]

theorem Takes.readNatural {width number : Nat} (hnumber : number < 256 ^ width) :
    Takes (Stream.readNatural failure width : Reading ε σ Nat)
      (bigEndian width number) number := by
  have htakes : Takes (Stream.readNatural failure width : Reading ε σ Nat) _ _ :=
    (Takes.readExact (length_bigEndian width number)).map natOfBytes
  rwa [natOfBytes_bigEndian_of_lt hnumber] at htakes

theorem Takes.forever_next {start next : β}
    (hround : Proceeds round)
    (hstart : Takes (round start) front (.inl next))
    (hnext : Takes (Stream.forever failure round next) back value) :
    Takes (Stream.forever failure round start) (front ++ back) value := by
  intro rest own
  rw [forever_eq hround, List.append_assoc, hstart]
  exact hnext rest own

theorem Takes.forever_last {start : β}
    (hround : Proceeds round)
    (hstart : Takes (round start) bytes (.inr value)) :
    Takes (Stream.forever failure round start) bytes value := by
  intro rest own
  rw [forever_eq hround, hstart]

/-! A program that works on its own state only. -/

def onOwn (step : σ → Except ε (α × σ)) : Reading ε σ α := fun state =>
  match step state.own with
  | .ok (value, own) => .ok value { state with own := own }
  | .error error => .error error state

/-- What it has done to its own state stays if it stops. -/
def within (program : EStateM ε σ α) : Reading ε σ α := fun state =>
  match program state.own with
  | .ok value own => .ok value { state with own := own }
  | .error error own => .error error { state with own := own }

/-! Programs that go on, with what has arrived in sight. -/

section Sight

/-- What is unread, and a condition on the own state. -/
structure Sees (arrived : List UInt8) (kept : σ → Prop) (state : Incoming σ) :
    Prop where
  unread_eq : state.unread = arrived
  kept : kept state.own

variable {arrived : List UInt8} {kept : σ → Prop} {post : β → Incoming σ → Prop}
  {fails : ε → Incoming σ → Prop}

theorem Holds.readExact_bind {next : List UInt8 → Reading ε σ β}
    {count : Nat}
    (hnext : Holds (Sees (arrived.drop count) kept) (next (arrived.take count))
      post fails)
    (hfails : ∀ state, kept state.own → fails failure state) :
    Holds (Sees arrived kept) (Stream.readExact failure count >>= next) post
      fails := by
  rintro ⟨unread, own⟩ ⟨rfl, hkept⟩
  by_cases hcount : count ≤ unread.length
  · have hread : Stream.readExact failure count (⟨unread, own⟩ : Incoming σ) =
        .ok (unread.take count) ⟨unread.drop count, own⟩ := if_pos hcount
    rw [bind_apply, hread]
    exact hnext _ ⟨rfl, hkept⟩
  · have hread : Stream.readExact failure count (⟨unread, own⟩ : Incoming σ) =
        .error failure ⟨[], own⟩ := if_neg hcount
    rw [bind_apply, hread]
    exact hfails _ hkept

theorem Holds.readNatural_bind {next : Nat → Reading ε σ β} {width : Nat}
    (hnext : Holds (Sees (arrived.drop width) kept)
      (next (natOfBytes (arrived.take width))) post fails)
    (hfails : ∀ state, kept state.own → fails failure state) :
    Holds (Sees arrived kept) (Stream.readNatural failure width >>= next) post
      fails := by
  unfold Stream.readNatural
  rw [bind_map_left]
  exact Holds.readExact_bind hnext hfails

theorem Holds.within {program : EStateM ε σ α} {pre : σ → Prop}
    {after : α → σ → Prop} {stops : ε → σ → Prop}
    (hprogram : Holds pre program after stops) :
    Holds (Sees arrived pre) (Stream.within program)
      (fun value => Sees arrived (after value))
      fun error state => stops error state.own := by
  rintro ⟨unread, own⟩ ⟨rfl, hpre⟩
  have hrun := hprogram own hpre
  unfold Stream.within
  dsimp only
  cases hresult : program own with
  | ok value behind =>
      rw [hresult] at hrun
      exact ⟨rfl, hrun⟩
  | error error behind =>
      rw [hresult] at hrun
      exact hrun

end Sight

/-! Octets on which all goes well, or the program fails. -/

/-- If `certain`, it does not fail. -/
def Attempts (certain : Prop) (program : Reading ε σ α) (bytes : List UInt8)
    (own : σ) (value : α) (after : σ) : Prop :=
  ∀ rest, program ⟨bytes ++ rest, own⟩ = .ok value ⟨rest, after⟩ ∨
    ¬ certain ∧ ∃ error state, program ⟨bytes ++ rest, own⟩ = .error error state

variable {certain : Prop} {own middle after : σ}

theorem Takes.attempts (htakes : Takes program bytes value) (own : σ) :
    Attempts certain program bytes own value own :=
  fun rest => .inl (htakes rest own)

theorem Attempts.pure (value : α) :
    Attempts certain (Pure.pure value : Reading ε σ α) [] own value own :=
  (Takes.pure value).attempts own

theorem Attempts.bind {first : Reading ε σ α} {next : α → Reading ε σ β}
    {result : β} (hfirst : Attempts certain first front own value middle)
    (hnext : Attempts certain (next value) back middle result after) :
    Attempts certain (first >>= next) (front ++ back) own result after := by
  intro rest
  rw [List.append_assoc, bind_apply]
  rcases hfirst (back ++ rest) with hrun | ⟨huncertain, error, state, hrun⟩
  · rw [hrun]
    exact hnext rest
  · rw [hrun]
    exact .inr ⟨huncertain, error, state, rfl⟩

theorem Attempts.then {first : Reading ε σ α} {next : α → Reading ε σ β}
    {result : β} (hfirst : Attempts certain first bytes own value middle)
    (hnext : Attempts certain (next value) [] middle result after) :
    Attempts certain (first >>= next) bytes own result after :=
  List.append_nil bytes ▸ hfirst.bind hnext

theorem Attempts.onOwn {step : σ → Except ε (α × σ)}
    (hstep : step own = .ok (value, after) ∨
      ¬ certain ∧ ∃ error, step own = .error error) :
    Attempts certain (Stream.onOwn step) [] own value after := by
  intro rest
  rcases hstep with hok | ⟨huncertain, error, herror⟩
  · left
    simp [Stream.onOwn, hok]
  · right
    exact ⟨huncertain, error, ⟨rest, own⟩, by simp [Stream.onOwn, herror]⟩

/-! More octets behind those that a program gets along with change nothing. -/

def Extends (program : Reading ε σ α) : Prop :=
  ∀ unread more own value after, program ⟨unread, own⟩ = .ok value after →
    program ⟨unread ++ more, own⟩ = .ok value ⟨after.unread ++ more, after.own⟩

theorem Extends.pure (value : α) :
    Extends (Pure.pure value : Reading ε σ α) := by
  intro unread more own found after hrun
  cases hrun
  rfl

theorem Extends.throw (error : ε) :
    Extends (throw error : Reading ε σ α) := nofun

theorem Extends.bind {first : Reading ε σ α} {next : α → Reading ε σ β}
    (hfirst : Extends first) (hnext : ∀ value, Extends (next value)) :
    Extends (first >>= next) := by
  intro unread more own result after hrun
  obtain ⟨value, middle, hmiddle, hlast⟩ := bind_eq_ok.mp hrun
  rw [bind_apply, hfirst _ more _ _ _ hmiddle]
  exact hnext value _ more _ _ _ hlast

theorem Extends.map (hprogram : Extends program) (convert : α → β) :
    Extends (convert <$> program) :=
  hprogram.bind fun value => Extends.pure (convert value)

theorem Extends.ite {condition : Prop} [Decidable condition]
    {yes no : Reading ε σ α} (hyes : Extends yes) (hno : Extends no) :
    Extends (if condition then yes else no) := by
  split
  · exact hyes
  · exact hno

theorem Extends.readExact (count : Nat) :
    Extends (Stream.readExact failure count : Reading ε σ (List UInt8)) := by
  intro unread more own value after hrun
  unfold Stream.readExact at hrun ⊢
  by_cases hcount : count ≤ unread.length
  · rw [if_pos hcount] at hrun
    cases hrun
    rw [if_pos (by rw [List.length_append]; omega)]
    simp only [List.take_append_of_le_length hcount,
      List.drop_append_of_le_length hcount]
  · rw [if_neg hcount] at hrun
    cases hrun

theorem Extends.readNatural (width : Nat) :
    Extends (Stream.readNatural failure width : Reading ε σ Nat) :=
  (Extends.readExact width).map natOfBytes

theorem rounds_more {fuel more : Nat} (hmore : fuel ≤ more) {value : β}
    {result : α} {after : Incoming σ}
    (hrun : rounds failure round fuel value state = .ok result after) :
    rounds failure round more value state = .ok result after := by
  induction fuel generalizing more value state with
  | zero => cases hrun
  | succ fuel ih =>
      obtain ⟨more, rfl⟩ := Nat.exists_eq_add_of_le hmore
      rw [Nat.succ_add_eq_add_succ, Nat.add_succ]
      unfold rounds at hrun ⊢
      obtain ⟨outcome, middle, hround, hrest⟩ := bind_eq_ok.mp hrun
      rw [bind_apply, hround]
      cases outcome with
      | inr found => exact hrest
      | inl next => exact ih (Nat.le_add_right fuel more) hrest

theorem Extends.forever (hround : ∀ value, Extends (round value)) (value : β) :
    Extends (Stream.forever failure round value) := by
  have hrounds (fuel : Nat) : ∀ value,
      Extends (rounds failure round fuel value) := by
    induction fuel with
    | zero => exact fun _ => Extends.throw failure
    | succ fuel ih =>
        intro value
        refine (hround value).bind fun outcome => ?_
        cases outcome with
        | inl next => exact ih next
        | inr result => exact Extends.pure result
  intro unread more own result after hrun
  refine rounds_more ?_ (hrounds _ value unread more own result after hrun)
  simp only [List.length_append]
  omega

theorem Extends.onOwn (step : σ → Except ε (α × σ)) :
    Extends (Stream.onOwn step) := by
  intro unread more own value after hrun
  unfold Stream.onOwn at hrun ⊢
  dsimp only at hrun ⊢
  cases hstep : step own with
  | error error =>
      rw [hstep] at hrun
      cases hrun
  | ok outcome =>
      rw [hstep] at hrun
      cases hrun
      rfl

/-! Conditions on its own state that a program keeps. -/

abbrev Keeps (kept : σ → Prop) (program : Reading ε σ α) : Prop :=
  Holds (fun state => kept state.own) program (fun _ state => kept state.own)
    fun _ state => kept state.own

variable {kept : σ → Prop}

theorem Keeps.readExact (count : Nat) :
    Keeps kept (Stream.readExact failure count : Reading ε σ (List UInt8)) := by
  intro state hstate
  unfold Stream.readExact
  by_cases hcount : count ≤ state.unread.length
  · rw [if_pos hcount]
    exact hstate
  · rw [if_neg hcount]
    exact hstate

theorem Keeps.pure (value : α) :
    Keeps kept (Pure.pure value : Reading ε σ α) :=
  Holds.pure fun _ hstate => hstate

theorem Keeps.readNatural (width : Nat) :
    Keeps kept (Stream.readNatural failure width : Reading ε σ Nat) :=
  (Keeps.readExact width).bind fun _ => Keeps.pure _

theorem Keeps.throw (error : ε) :
    Keeps kept (throw error : Reading ε σ α) :=
  fun _ hstate => hstate

theorem Keeps.onOwn {step : σ → Except ε (α × σ)}
    (hstep : ∀ own value after, kept own → step own = .ok (value, after) →
      kept after) :
    Keeps kept (Stream.onOwn step) := by
  intro state hstate
  unfold Stream.onOwn
  cases hrun : step state.own with
  | ok outcome => exact hstep state.own outcome.1 outcome.2 hstate hrun
  | error error => exact hstate

end Libsqli.Data.Stream
