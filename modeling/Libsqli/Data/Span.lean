import Mathlib.Data.List.TakeWhile
import Mathlib.Tactic.Common

namespace Libsqli.Data.Span

/-! A text divided at the first element that ends its front. -/

variable {α : Type} {inside : α → Bool} {front rest : List α}

/-- The first element is one that ends a front. -/
def Ends (inside : α → Bool) (rest : List α) : Prop :=
  ∀ value, rest.head? = some value → inside value = false

theorem ends_nil : Ends inside [] := by
  intro value hhead
  cases hhead

theorem ends_cons {value : α} (hends : inside value = false) :
    Ends inside (value :: rest) := by
  intro other hhead
  cases hhead
  exact hends

theorem takeWhile_exact (hfront : ∀ value ∈ front, inside value = true)
    (hrest : Ends inside rest) : (front ++ rest).takeWhile inside = front := by
  rw [List.takeWhile_append_of_pos hfront]
  cases rest with
  | nil => rw [List.takeWhile_nil, List.append_nil]
  | cons value rest =>
      rw [List.takeWhile_cons_of_neg, List.append_nil]
      rw [hrest value rfl]
      decide

theorem dropWhile_exact (hfront : ∀ value ∈ front, inside value = true)
    (hrest : Ends inside rest) : (front ++ rest).dropWhile inside = rest := by
  rw [List.dropWhile_append_of_pos hfront]
  cases rest with
  | nil => rfl
  | cons value rest =>
      rw [List.dropWhile_cons_of_neg]
      rw [hrest value rfl]
      decide

theorem takeWhile_all (hfront : ∀ value ∈ front, inside value = true) :
    front.takeWhile inside = front := by
  have hwhole := takeWhile_exact hfront (@ends_nil _ inside)
  rwa [List.append_nil] at hwhole

theorem dropWhile_all (hfront : ∀ value ∈ front, inside value = true) :
    front.dropWhile inside = [] := by
  have hwhole := dropWhile_exact hfront (@ends_nil _ inside)
  rwa [List.append_nil] at hwhole

theorem ends_dropWhile (inside : α → Bool) (text : List α) :
    Ends inside (text.dropWhile inside) := by
  intro value hhead
  have hnot := List.head?_dropWhile_not inside text
  rw [hhead] at hnot
  simpa using hnot

/-! A text divided at the first occurrence of a mark. -/

variable [DecidableEq α] {mark : α}

def cut (mark : α) (text : List α) : Option (List α × List α) :=
  match text.dropWhile (· ≠ mark) with
  | [] => none
  | _ :: rest => some (text.takeWhile (· ≠ mark), rest)

theorem ne_of_not_mem (hfront : mark ∉ front) :
    ∀ value ∈ front, decide (value ≠ mark) = true := by
  intro value hmem
  exact decide_eq_true fun h => hfront (h ▸ hmem)

theorem cut_exact (hfront : mark ∉ front) (rest : List α) :
    cut mark (front ++ mark :: rest) = some (front, rest) := by
  have hinside := ne_of_not_mem hfront
  have hends : Ends (fun value => decide (value ≠ mark)) (mark :: rest) :=
    ends_cons (by simp)
  rw [cut, dropWhile_exact hinside hends, takeWhile_exact hinside hends]

theorem append_of_cut {text : List α} (hcut : cut mark text = some (front, rest)) :
    text = front ++ mark :: rest := by
  have hends := ends_dropWhile (fun value => decide (value ≠ mark)) text
  have hwhole := @List.takeWhile_append_dropWhile _
    (fun value => decide (value ≠ mark)) text
  unfold cut at hcut
  split at hcut
  · cases hcut
  · next value behind hbehind =>
    have hvalue : value = mark := by
      simpa using hends value (by rw [hbehind]; rfl)
    obtain ⟨rfl, rfl⟩ := Prod.mk.inj (Option.some.inj hcut)
    rw [hbehind, hvalue] at hwhole
    exact hwhole.symm

theorem cut_none (hfront : mark ∉ front) : cut mark front = none := by
  rw [cut, dropWhile_all (ne_of_not_mem hfront)]

end Libsqli.Data.Span
