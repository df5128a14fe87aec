import Mathlib.Data.List.Basic
import Mathlib.Tactic.Common

namespace Libsqli.Data.Quoting

/-! Texts between marks, in which a mark is written twice. -/

variable {α : Type} [DecidableEq α]

def double (mark : α) (text : List α) : List α :=
  text.flatMap fun c => if c = mark then [mark, mark] else [c]

def quote (mark : α) (text : List α) : List α :=
  mark :: (double mark text ++ [mark])

/-- Reads behind an opening mark up to one that is not doubled. -/
def unquote (mark : α) : List α → Option (List α × List α)
  | [] => none
  | [c] => if c = mark then some ([], []) else none
  | c :: d :: rest =>
      if c = mark then
        if d = mark then
          (unquote mark rest).map fun (text, left) => (mark :: text, left)
        else some ([], d :: rest)
      else (unquote mark (d :: rest)).map fun (text, left) => (c :: text, left)

variable {mark c : α} {text rest : List α}

@[simp] theorem double_nil (mark : α) : double mark [] = [] := rfl

theorem double_cons_mark (mark : α) (text : List α) :
    double mark (mark :: text) = mark :: mark :: double mark text := by
  rw [double, List.flatMap_cons, if_pos rfl]
  rfl

theorem double_cons (hc : c ≠ mark) (text : List α) :
    double mark (c :: text) = c :: double mark text := by
  rw [double, List.flatMap_cons, if_neg hc]
  rfl

theorem mem_double : c ∈ double mark text ↔ c ∈ text := by
  induction text with
  | nil => rfl
  | cons d text ih =>
      by_cases hd : d = mark
      · rw [hd, double_cons_mark]
        simp only [List.mem_cons, ih]
        tauto
      · rw [double_cons hd, List.mem_cons, List.mem_cons, ih]

theorem unquote_cons (hc : c ≠ mark) (rest : List α) :
    unquote mark (c :: rest) =
      (unquote mark rest).map fun (text, left) => (c :: text, left) := by
  cases rest with
  | nil => simp [unquote, hc]
  | cons d rest => rw [unquote, if_neg hc]

theorem unquote_mark_mark (mark : α) (rest : List α) :
    unquote mark (mark :: mark :: rest) =
      (unquote mark rest).map fun (text, left) => (mark :: text, left) := by
  rw [unquote, if_pos rfl, if_pos rfl]

theorem unquote_mark (hrest : rest.head? ≠ some mark) :
    unquote mark (mark :: rest) = some ([], rest) := by
  cases rest with
  | nil => rw [unquote, if_pos rfl]
  | cons d rest =>
      have hd : d ≠ mark := fun h => hrest (congrArg some h)
      rw [unquote, if_pos rfl, if_neg hd]

/-- The mark behind a text is found if another one does not follow. -/
theorem unquote_double (hrest : rest.head? ≠ some mark) (text : List α) :
    unquote mark (double mark text ++ mark :: rest) = some (text, rest) := by
  induction text with
  | nil => exact unquote_mark hrest
  | cons c text ih =>
      by_cases hc : c = mark
      · rw [hc, double_cons_mark, List.cons_append, List.cons_append,
          unquote_mark_mark, ih]
        rfl
      · rw [double_cons hc, List.cons_append, unquote_cons hc, ih]
        rfl

end Libsqli.Data.Quoting
