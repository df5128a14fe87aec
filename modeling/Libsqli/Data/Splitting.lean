import Mathlib.Data.List.Basic
import Mathlib.Tactic.Common

namespace Libsqli.Data.Splitting

/-! Taking items off an input that arrives piece by piece. -/

/-- Takes the first item off an input that holds a whole one. What arrives
later does not change an item that is whole. -/
structure Splitter (α β : Type) where
  cut : List α → Option (β × List α)
  shorter : ∀ {input item rest}, cut input = some (item, rest) →
    rest.length < input.length
  stable : ∀ {input item rest}, cut input = some (item, rest) →
    ∀ later, cut (input ++ later) = some (item, rest ++ later)

namespace Splitter

variable {α β : Type} (splitter : Splitter α β)

/-- The whole items of an input and what is left behind them. -/
def split (input : List α) : List β × List α :=
  match _hcut : splitter.cut input with
  | none => ([], input)
  | some (item, rest) => ((split rest).1.cons item, (split rest).2)
termination_by input.length
decreasing_by all_goals exact splitter.shorter _hcut

variable {splitter} {input rest later : List α} {item : β}

theorem split_none (hcut : splitter.cut input = none) :
    splitter.split input = ([], input) := by
  rw [split]
  split
  · rfl
  · next hsome => rw [hcut] at hsome; cases hsome

theorem split_some (hcut : splitter.cut input = some (item, rest)) :
    splitter.split input =
      (item :: (splitter.split rest).1, (splitter.split rest).2) := by
  rw [split]
  split
  · next hnone => rw [hcut] at hnone; cases hnone
  · next hsome =>
      rw [hcut] at hsome
      cases hsome
      rfl

/-- Nothing whole is left behind. -/
theorem cut_split (splitter : Splitter α β) (input : List α) :
    splitter.cut (splitter.split input).2 = none := by
  fun_induction split splitter input with
  | case1 input hcut => exact hcut
  | case2 input item rest hcut ih => exact ih

/-- The pieces of an input may be split as they arrive. -/
theorem split_append (splitter : Splitter α β) (input later : List α) :
    splitter.split (input ++ later) =
      ((splitter.split input).1 ++
          (splitter.split ((splitter.split input).2 ++ later)).1,
        (splitter.split ((splitter.split input).2 ++ later)).2) := by
  fun_induction split splitter input with
  | case1 input hcut => rfl
  | case2 input item rest hcut ih =>
      rw [split_some (splitter.stable hcut later), ih]
      rfl

end Splitter

end Libsqli.Data.Splitting
