import Libsqli.Result.Answers
import Libsqli.Result.Frame

namespace Libsqli.Result

open Layout

/-! The row that a successful fetch leaves. -/

variable {result next : Result} {setting : Setting} {index : Int}

/-- A row with its layout read. -/
structure Seated (result : Result) (tuple : List UInt8)
    (located : List Located) : Prop where
  row : result.view.tuple = some tuple
  entries : result.located = some located
  locates : locateRow tuple 0 result.columns = .ok located
  currentRow : 0 ≤ result.view.currentRow
  cacheRow : result.view.cacheRow = result.view.currentRow
  beforeFirst : result.view.atBeforeFirst = false
  afterLast : result.view.atAfterLast = false

/-- A row whose columns can be read. -/
structure RowShown (setting : Setting) (result : Result)
    (tuple : List UInt8) (located : List Located) : Prop
    extends Seated result tuple located where
  fetchStatus : result.fetchStatus = .ok
  alive : result.isClosedByCommit setting = false

theorem locateRow_of_locate {calloc : Bool} {tuple : List UInt8}
    {located : List Located}
    (hlocate : result.locate calloc tuple = .ok located) :
    locateRow tuple 0 result.columns = .ok located := by
  unfold locate at hlocate
  split at hlocate
  · cases hlocate
  · split at hlocate
    · cases hlocate
    · exact hlocate

theorem moveToIndex_seated {calloc : Bool}
    (hmove : (moveToIndex calloc result index).1 = true) :
    ∃ tuple located, Seated (moveToIndex calloc result index).2 tuple
      located := by
  have hattempt := moveToIndex_attempt calloc result index
  generalize moveToIndex calloc result index = returned at hattempt hmove ⊢
  cases hattempt with
  | outside hrow => cases hmove
  | read row located hrow hlocate =>
      have hrow' := locateRow_of_locate hlocate
      exact ⟨row, located, rfl, rfl, hrow', (rowAt_bounds hrow).1, rfl, rfl,
        rfl⟩
  | error row status hrow hlocate => cases hmove

/-- A seat under another number. -/
theorem Seated.numbered {tuple : List UInt8} {located : List Located}
    (hseated : Seated result tuple located) (number : Int) :
    Seated (result.withView (result.view.numbered number)) tuple located :=
  ⟨hseated.row, hseated.entries, hseated.locates, hseated.currentRow,
    hseated.cacheRow, rfl, rfl⟩

/-- What a move does with a row it has moved to, and where there is none. -/
theorem seated_of_adjusted {moved returned : Bool × Result}
    {onTrue onFalse : Result → View}
    (hadjusted : returned = match moved with
      | (true, next) => (true, next.withView (onTrue next))
      | (false, next) => (false, next.withView (onFalse next)))
    (hmoved : moved.1 = true → ∃ tuple located, Seated moved.2 tuple located)
    (honTrue : ∀ next tuple located, Seated next tuple located →
      Seated (next.withView (onTrue next)) tuple located)
    (hmove : returned.1 = true) :
    ∃ tuple located, Seated returned.2 tuple located := by
  subst hadjusted
  obtain ⟨success, next⟩ := moved
  cases success with
  | true =>
      obtain ⟨tuple, located, hseated⟩ := hmoved rfl
      exact ⟨tuple, located, honTrue next tuple located hseated⟩
  | false => cases hmove

theorem serverRefetch_seated {scroll : ScrollType}
    (hmove : (serverRefetch setting result scroll index).1 = true) :
    ∃ tuple located, Seated (serverRefetch setting result scroll index).2
      tuple located := by
  unfold serverRefetch at hmove ⊢
  split at hmove
  · cases hmove
  · next hscrollable =>
    rw [if_neg hscrollable]
    dsimp only at hmove ⊢
    split at hmove
    · cases hmove
    · next hreceived =>
      rw [if_neg hreceived]
      exact moveToIndex_seated hmove

theorem seated_of_positioned {moved returned : Bool × Result}
    {onFalse : Result → View}
    (hpositioned : returned = match moved with
      | (true, next) => (true, next)
      | (false, next) => (false, next.withView (onFalse next)))
    (hmoved : moved.1 = true → ∃ tuple located, Seated moved.2 tuple located)
    (hmove : returned.1 = true) :
    ∃ tuple located, Seated returned.2 tuple located := by
  subst hpositioned
  obtain ⟨success, next⟩ := moved
  cases success with
  | true => exact hmoved rfl
  | false => cases hmove

theorem first_seated (hmove : (first setting result).1 = true) :
    ∃ tuple located, Seated (first setting result).2 tuple located := by
  unfold first at hmove ⊢
  by_cases hclosed : result.isClosedByCommit setting = true
  · rw [if_pos hclosed] at hmove
    cases hmove
  · rw [if_neg hclosed] at hmove ⊢
    by_cases hscrollable : result.isServerScrollable setting = true
    · rw [if_pos hscrollable] at hmove ⊢
      exact seated_of_positioned rfl serverRefetch_seated hmove
    · rw [if_neg hscrollable] at hmove ⊢
      exact seated_of_adjusted rfl moveToIndex_seated
        (fun _ _ _ hseated => hseated.numbered 1) hmove

theorem absolute_seated {number : Int}
    (hmove : (absolute setting result number).1 = true) :
    ∃ tuple located, Seated (absolute setting result number).2 tuple
      located := by
  unfold absolute at hmove ⊢
  by_cases hclosed : result.isClosedByCommit setting = true
  · rw [if_pos hclosed] at hmove
    cases hmove
  · rw [if_neg hclosed] at hmove ⊢
    by_cases hnumber : number ≤ 0
    · rw [if_pos hnumber] at hmove
      cases hmove
    · rw [if_neg hnumber] at hmove ⊢
      by_cases hscrollable : result.isServerScrollable setting = true
      · rw [if_pos hscrollable] at hmove ⊢
        exact seated_of_positioned rfl serverRefetch_seated hmove
      · rw [if_neg hscrollable] at hmove ⊢
        exact seated_of_adjusted rfl moveToIndex_seated
          (fun _ _ _ hseated => hseated.numbered number) hmove

theorem nextInternal_seated (hmove : (nextInternal setting result).1 = true) :
    ∃ tuple located, Seated (nextInternal setting result).2 tuple located := by
  unfold nextInternal at hmove ⊢
  by_cases hclosed : result.isClosedByCommit setting = true
  · rw [if_pos hclosed] at hmove
    cases hmove
  rw [if_neg hclosed] at hmove ⊢
  by_cases hafter : result.view.atAfterLast = true
  · rw [if_pos hafter] at hmove
    cases hmove
  rw [if_neg hafter] at hmove ⊢
  by_cases hbefore : result.view.atBeforeFirst = true
  · rw [if_pos hbefore] at hmove ⊢
    dsimp only at hmove ⊢
    by_cases hstored : result.view.cursor < 0 ∧ 0 < result.rowCount ∧
        result.view.absoluteRowNum = 0
    · rw [if_pos hstored] at hmove ⊢
      have hseat := @moveToIndex_seated
        (result.withView result.view.leaveBeforeFirst) 0 setting.calloc
      generalize moveToIndex setting.calloc
        (result.withView result.view.leaveBeforeFirst) 0 = moved
        at hseat hmove ⊢
      obtain ⟨success, next⟩ := moved
      cases success with
      | true =>
          obtain ⟨tuple, located, hseated⟩ := hseat rfl
          exact ⟨tuple, located, hseated.row, hseated.entries,
            hseated.locates, hseated.currentRow, hseated.cacheRow,
            hseated.beforeFirst, hseated.afterLast⟩
      | false => cases hmove
    · rw [if_neg hstored] at hmove ⊢
      exact first_seated hmove
  rw [if_neg hbefore] at hmove ⊢
  by_cases hinside : result.view.cursor + 1 < result.rowCount
  · rw [if_pos hinside] at hmove ⊢
    by_cases hmax : result.view.absoluteRowNum = int32Max
    · rw [if_pos hmax] at hmove
      cases hmove
    · rw [if_neg hmax] at hmove ⊢
      have hseat := @moveToIndex_seated result (result.view.cursor + 1)
        setting.calloc
      generalize moveToIndex setting.calloc result
        (result.view.cursor + 1) = moved at hseat hmove ⊢
      obtain ⟨success, next⟩ := moved
      cases success with
      | true =>
          obtain ⟨tuple, located, hseated⟩ := hseat rfl
          exact ⟨tuple, located, hseated.numbered _⟩
      | false => cases hmove
  rw [if_neg hinside] at hmove ⊢
  by_cases hserver : result.isServerScrollable setting = true ∧
      0 < result.view.absoluteRowNum
  · rw [if_pos hserver] at hmove ⊢
    by_cases hmax : result.view.absoluteRowNum = int32Max
    · rw [if_pos hmax] at hmove
      cases hmove
    · rw [if_neg hmax] at hmove ⊢
      exact absolute_seated hmove
  · rw [if_neg hserver] at hmove
    cases hmove

/-- What `sqli_result_fetch` returns OK for. -/
theorem fetch_shown (hmove : (fetch setting result).1 = .ok) :
    ∃ tuple located, RowShown setting (fetch setting result).2 tuple
      located := by
  have hterms := terms_fetch setting result
  unfold fetch at hmove hterms ⊢
  by_cases hkept : isDiscarded setting = true
  · rw [if_pos hkept] at hmove
    cases hmove
  rw [if_neg hkept] at hmove hterms ⊢
  by_cases hfailed : result.fetchStatus ≠ .ok
  · rw [if_pos hfailed] at hmove
    exact absurd hmove hfailed
  rw [if_neg hfailed] at hmove hterms ⊢
  by_cases hclosed : result.isClosedByCommit setting = true
  · rw [if_pos hclosed] at hmove
    cases hmove
  rw [if_neg hclosed] at hmove hterms ⊢
  by_cases herror : result.sawError = true ∨ result.errorCode ≠ 0
  · rw [if_pos herror] at hmove
    cases hmove
  rw [if_neg herror] at hmove hterms ⊢
  have hseat := @nextInternal_seated result setting
  generalize nextInternal setting result = moved at hseat hmove hterms ⊢
  obtain ⟨row, next⟩ := moved
  dsimp only at hmove hterms ⊢
  by_cases hbad : next.fetchStatus ≠ .ok
  · rw [if_pos hbad] at hmove
    exact absurd hmove hbad
  rw [if_neg hbad] at hmove hterms ⊢
  cases row with
  | true =>
      obtain ⟨tuple, located, hseated⟩ := hseat rfl
      exact ⟨tuple, located, hseated, not_not.mp hbad,
        (isClosedByCommit_congr hterms setting).trans
          (Bool.eq_false_of_not_eq_true hclosed)⟩
  | false => cases hmove

end Libsqli.Result
