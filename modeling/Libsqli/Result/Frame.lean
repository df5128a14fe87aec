import Libsqli.Result.Navigation

namespace Libsqli.Result

open Layout

/-! What no move changes. -/

/-- What a result was opened with. -/
structure Terms where
  columns : List Column
  cursorType : CursorType
  holdability : Holdability
  commitEpoch : Nat
  rollbackEpoch : Nat
  statementType : Nat
  stmtId : Int

def terms (result : Result) : Terms where
  columns := result.columns
  cursorType := result.cursorType
  holdability := result.holdability
  commitEpoch := result.commitEpoch
  rollbackEpoch := result.rollbackEpoch
  statementType := result.statementType
  stmtId := result.stmtId

variable {result : Result} {setting : Setting}

theorem isClosedByCommit_congr {other : Result}
    (hterms : other.terms = result.terms) (setting : Setting) :
    other.isClosedByCommit setting = result.isClosedByCommit setting := by
  have hrollback : other.rollbackEpoch = result.rollbackEpoch :=
    congrArg Terms.rollbackEpoch hterms
  have hcommit : other.commitEpoch = result.commitEpoch :=
    congrArg Terms.commitEpoch hterms
  have hholdability : other.holdability = result.holdability :=
    congrArg Terms.holdability hterms
  unfold isClosedByCommit
  rw [hrollback, hcommit, hholdability]

theorem isServerScrollable_congr {other : Result}
    (hterms : other.terms = result.terms) (setting : Setting) :
    other.isServerScrollable setting = result.isServerScrollable setting := by
  have hcursor : other.cursorType = result.cursorType :=
    congrArg Terms.cursorType hterms
  have hstatement : other.statementType = result.statementType :=
    congrArg Terms.statementType hterms
  have hid : other.stmtId = result.stmtId := congrArg Terms.stmtId hterms
  unfold isServerScrollable
  rw [hcursor, hstatement, hid]

theorem terms_moveToIndex (calloc : Bool) (result : Result) (index : Int) :
    (moveToIndex calloc result index).2.terms = result.terms := by
  cases hrow : result.rowAt index with
  | none => rw [moveToIndex_none hrow]
  | some row =>
      cases hlocate : result.locate calloc row with
      | ok located =>
          rw [moveToIndex_ok hrow hlocate]
          rfl
      | error status =>
          rw [moveToIndex_error hrow hlocate]
          rfl

theorem terms_serverRefetch (setting : Setting) (result : Result)
    (scroll : ScrollType) (index : Int) :
    (serverRefetch setting result scroll index).2.terms = result.terms := by
  unfold serverRefetch
  split
  · rfl
  · simp only
    split
    · rfl
    · exact terms_moveToIndex _ _ _

/-- The two ways a returned result is adjusted leave its terms. -/
theorem terms_adjusted {returned : Bool × Result}
    (hterms : returned.2.terms = result.terms)
    (onTrue onFalse : Result → View) :
    (match returned with
      | (true, next) => (true, next.withView (onTrue next))
      | (false, next) => (false, next.withView (onFalse next))).2.terms =
      result.terms := by
  obtain ⟨success, next⟩ := returned
  cases success <;> exact hterms

theorem terms_positioned {returned : Bool × Result}
    (hterms : returned.2.terms = result.terms) (onFalse : Result → View) :
    (match returned with
      | (true, next) => (true, next)
      | (false, next) => (false, next.withView (onFalse next))).2.terms =
      result.terms := by
  obtain ⟨success, next⟩ := returned
  cases success <;> exact hterms

theorem terms_first (setting : Setting) (result : Result) :
    (first setting result).2.terms = result.terms := by
  unfold first
  split
  · rfl
  · split
    · exact terms_positioned (terms_serverRefetch setting result _ _) _
    · exact terms_adjusted (terms_moveToIndex _ result _) _ _

theorem terms_last (setting : Setting) (result : Result) :
    (last setting result).2.terms = result.terms := by
  unfold last
  split
  · rfl
  · split
    · exact terms_positioned (terms_serverRefetch setting result _ _) _
    · exact terms_adjusted (terms_moveToIndex _ result _) _ _

theorem terms_absolute (setting : Setting) (result : Result) (row : Int) :
    (absolute setting result row).2.terms = result.terms := by
  unfold absolute
  split
  · rfl
  · split
    · rfl
    · split
      · exact terms_positioned (terms_serverRefetch setting result _ _) _
      · exact terms_adjusted (terms_moveToIndex _ result _) _ _

theorem terms_relative (setting : Setting) (result : Result) (offset : Int) :
    (relative setting result offset).2.terms = result.terms := by
  unfold relative
  repeat' split
  all_goals first
    | rfl
    | exact terms_absolute _ _ _

theorem terms_previous (setting : Setting) (result : Result) :
    (previous setting result).2.terms = result.terms := by
  unfold previous
  split
  · rfl
  · split
    · exact terms_last setting result
    · split
      · rfl
      · split
        · have hmoved := terms_moveToIndex setting.calloc result
            (result.view.cursor - 1)
          generalize moveToIndex setting.calloc result
            (result.view.cursor - 1) = returned at hmoved
          obtain ⟨success, next⟩ := returned
          cases success with
          | true => exact hmoved
          | false => exact (terms_absolute _ _ _).trans hmoved
        · exact terms_absolute _ _ _

theorem terms_nextInternal (setting : Setting) (result : Result) :
    (nextInternal setting result).2.terms = result.terms := by
  unfold nextInternal
  split
  · rfl
  · split
    · rfl
    · split
      · simp only
        split
        · have hmoved := terms_moveToIndex setting.calloc
            (result.withView result.view.leaveBeforeFirst) 0
          generalize moveToIndex setting.calloc
            (result.withView result.view.leaveBeforeFirst) 0 = returned
            at hmoved
          obtain ⟨success, next⟩ := returned
          cases success <;> exact hmoved
        · exact terms_first _ _
      · split
        · split
          · rfl
          · have hmoved := terms_moveToIndex setting.calloc result
              (result.view.cursor + 1)
            generalize moveToIndex setting.calloc result
              (result.view.cursor + 1) = returned at hmoved
            obtain ⟨success, next⟩ := returned
            cases success <;> exact hmoved
        · split
          · split
            · rfl
            · exact terms_absolute _ _ _
          · rfl

theorem terms_fetch (setting : Setting) (result : Result) :
    (fetch setting result).2.terms = result.terms := by
  unfold fetch
  split
  · rfl
  · split
    · rfl
    · split
      · rfl
      · split
        · rfl
        · simp only
          split
          · exact terms_nextInternal setting result
          · exact terms_nextInternal setting result

/-- No move changes what the result was opened with. -/
theorem terms_move (setting : Setting) (result : Result) (call : Move) :
    (result.move setting call).2.terms = result.terms := by
  cases call with
  | fetch => exact terms_fetch setting result
  | next => exact terms_fetch setting result
  | first => exact terms_first setting result
  | last => exact terms_last setting result
  | absolute row => exact terms_absolute setting result _
  | relative offset => exact terms_relative setting result _
  | previous => exact terms_previous setting result

theorem terms_afterMoves (result : Result) (calls : List (Setting × Move)) :
    (result.afterMoves calls).terms = result.terms := by
  induction calls generalizing result with
  | nil => rfl
  | cons call calls ih => exact (ih _).trans (terms_move _ _ _)

end Libsqli.Result
