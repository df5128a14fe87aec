import Libsqli.Result.Navigation

namespace Libsqli.Result

open Layout

/-! What a move on a client-buffered result can do. -/

variable {result : Result} {setting : Setting}

/-- A position on a stored row, under the number of that row. -/
structure OnRow (result : Result) : Prop where
  beforeFirst : result.view.atBeforeFirst = false
  afterLast : result.view.atAfterLast = false
  cursor_nonneg : 0 ≤ result.view.cursor
  cursor_lt : result.view.cursor < result.rowCount
  number : result.view.absoluteRowNum = result.view.cursor + 1

/-- The positions that moves lead to. -/
inductive Settled (result : Result) : Prop where
  | off (hoff : OffRow result.view)
  | on (hon : OnRow result)

/-- How a move ends that reads the stored row of index `target`, if there is such
a row, and no other. -/
inductive Answer (setting : Setting) (result : Result) (target : Option Int) :
    Bool × Result → Prop where
  | still (success : Bool) (hsuccess : success = true → OnRow result) :
      Answer setting result target (success, result)
  | off (next : Result) (hoff : OffRow next.view)
      (hstatus : result.fetchStatus ≠ .ok →
        next.fetchStatus = result.fetchStatus) :
      Answer setting result target (false, next)
  | seated (next : Result) (row : List UInt8) (located : List Located)
      (hopen : result.isClosedByCommit setting = false)
      (hrow : target.bind result.rowAt = some row)
      (hlocate : result.locate setting.calloc row = .ok located)
      (hon : OnRow next) (hstatus : next.fetchStatus = result.fetchStatus) :
      Answer setting result target (true, next)
  | broken (next : Result) (row : List UInt8) (status : Status)
      (hopen : result.isClosedByCommit setting = false)
      (hrow : target.bind result.rowAt = some row)
      (hlocate : result.locate setting.calloc row = .error status)
      (hoff : OffRow next.view) (hstatus : next.fetchStatus = status) :
      Answer setting result target (false, next)

theorem Answer.closed : Answer setting result target
    (false, result.markClosed) :=
  .off _ offRow_closed fun _ => rfl

theorem rowAt_bounds (hrow : result.rowAt index = some row) :
    0 ≤ index ∧ index < result.rowCount := by
  have hinside : ¬(index < 0 ∨ result.rowCount ≤ index) := fun houtside => by
    rw [rowAt_eq_none_iff.mpr houtside] at hrow
    cases hrow
  omega

/-- The read of a stored row. -/
inductive Attempt (calloc : Bool) (result : Result) (index : Int) :
    Bool × Result → Prop where
  | outside (hrow : result.rowAt index = none) :
      Attempt calloc result index (false, result)
  | read (row : List UInt8) (located : List Located)
      (hrow : result.rowAt index = some row)
      (hlocate : result.locate calloc row = .ok located) :
      Attempt calloc result index (true, result.settled index row located)
  | error (row : List UInt8) (status : Status)
      (hrow : result.rowAt index = some row)
      (hlocate : result.locate calloc row = .error status) :
      Attempt calloc result index (false, result.failed calloc status)

theorem moveToIndex_attempt (calloc : Bool) (result : Result) (index : Int) :
    Attempt calloc result index (moveToIndex calloc result index) := by
  cases hrow : result.rowAt index with
  | none =>
      rw [moveToIndex_none hrow]
      exact .outside hrow
  | some row =>
      cases hlocate : result.locate calloc row with
      | ok located =>
          rw [moveToIndex_ok hrow hlocate]
          exact .read row located hrow hlocate
      | error status =>
          rw [moveToIndex_error hrow hlocate]
          exact .error row status hrow hlocate

theorem onRow_numbered (hrow : result.rowAt index = some row)
    (located : List Located) :
    OnRow ((result.settled index row located).withView
      ((result.settled index row located).view.numbered (index + 1))) :=
  ⟨rfl, rfl, (rowAt_bounds hrow).1, (rowAt_bounds hrow).2, rfl⟩

/-- A row that could not be read cannot be read at the next attempt either. -/
theorem locate_failed (hlocate : result.locate calloc row = .error status)
    (other : Status) :
    (result.failed calloc other).locate calloc row = .error status := by
  have hcolumns : (result.failed calloc other).columns = result.columns := rfl
  unfold locate at hlocate ⊢
  rw [hcolumns]
  split at hlocate
  · next hempty =>
    rw [if_pos hempty]
    exact hlocate
  · next hcolumns =>
    rw [if_neg hcolumns]
    split at hlocate
    · next hmissing =>
      have hnone : (result.failed calloc other).located = none := by
        simp [failed, scratchLocated, hmissing]
      rw [if_pos ⟨hnone, hmissing.2⟩]
      exact hlocate
    · next hready =>
      have hsome : ¬((result.failed calloc other).located = none ∧
          calloc = false) := by
        simp only [failed, scratchLocated]
        cases hlocated : result.located with
        | some located => simp
        | none =>
            have hcalloc : calloc = true := by
              cases calloc with
              | true => rfl
              | false => exact absurd ⟨hlocated, rfl⟩ hready
            simp [hcalloc]
      rw [if_neg hsome]
      exact hlocate

theorem first_answer (hbuffered : result.isServerScrollable setting = false)
    (hblank : result.rowCount ≤ 0 → Blank result.view) :
    Answer setting result (some 0) (first setting result) := by
  unfold first
  split
  · exact .closed
  · next hclosed =>
    have hopen := Bool.eq_false_of_not_eq_true hclosed
    rw [if_neg (by simp [hbuffered])]
    have hattempt := moveToIndex_attempt setting.calloc result 0
    generalize moveToIndex setting.calloc result 0 = returned at hattempt
    cases hattempt with
    | outside hrow =>
        have hempty : result.rowCount ≤ 0 := by
          rcases rowAt_eq_none_iff.mp hrow with habsurd | hempty
          · exact absurd habsurd (by decide)
          · exact hempty
        exact .off _ (hblank hempty).unpositioned fun _ => rfl
    | read row located hrow hlocate =>
        exact .seated _ row located hopen hrow hlocate (onRow_numbered hrow located)
          rfl
    | error row status hrow hlocate =>
        exact .broken _ row status hopen hrow hlocate offRow_closed.unpositioned rfl

theorem last_answer (hbuffered : result.isServerScrollable setting = false)
    (hblank : result.rowCount ≤ 0 → Blank result.view) :
    Answer setting result (some (result.rowCount - 1))
      (last setting result) := by
  unfold last
  split
  · exact .closed
  · next hclosed =>
    have hopen := Bool.eq_false_of_not_eq_true hclosed
    rw [if_neg (by simp [hbuffered])]
    have hattempt :=
      moveToIndex_attempt setting.calloc result (result.rowCount - 1)
    generalize moveToIndex setting.calloc result (result.rowCount - 1) =
      returned at hattempt
    cases hattempt with
    | outside hrow =>
        have hempty : result.rowCount ≤ 0 := by
          rcases rowAt_eq_none_iff.mp hrow with hbelow | habsurd
          · omega
          · omega
        exact .off _ (hblank hempty).unpositioned fun _ => rfl
    | read row located hrow hlocate =>
        have hon := onRow_numbered hrow located
        rw [Int.sub_add_cancel] at hon
        exact .seated _ row located hopen hrow hlocate hon rfl
    | error row status hrow hlocate =>
        exact .broken _ row status hopen hrow hlocate offRow_closed.unpositioned rfl

theorem absolute_answer (hbuffered : result.isServerScrollable setting = false)
    (number : Int) :
    Answer setting result (some (number - 1))
      (absolute setting result number) := by
  unfold absolute
  split
  · exact .closed
  · next hclosed =>
    have hopen := Bool.eq_false_of_not_eq_true hclosed
    split
    · exact .still false nofun
    · rw [if_neg (by simp [hbuffered])]
      have hattempt := moveToIndex_attempt setting.calloc result (number - 1)
      generalize moveToIndex setting.calloc result (number - 1) = returned
        at hattempt
      cases hattempt with
      | outside hrow => exact .off _ (offRow_afterLast _) fun _ => rfl
      | read row located hrow hlocate =>
          have hon := onRow_numbered hrow located
          rw [Int.sub_add_cancel] at hon
          exact .seated _ row located hopen hrow hlocate hon rfl
      | error row status hrow hlocate =>
          exact .broken _ row status hopen hrow hlocate (offRow_afterLast _) rfl

theorem OnRow.rowNumber (hon : OnRow result) :
    result.rowNumber = result.view.cursor + 1 := by
  have hcursor := hon.cursor_nonneg
  rw [rowNumber_of_pos hon.beforeFirst hon.afterLast
    (by rw [hon.number]; omega), hon.number]

/-- Where a relative move goes, if it reads a row at all. -/
def relativeTarget (result : Result) (offset : Int) : Option Int :=
  if offset = 0 ∨
      result.rowNumber ≤ 0 ∧ ¬(result.view.atBeforeFirst ∧ 0 < offset) then none
  else some (toInt32 (result.rowNumber + offset) - 1)

theorem relative_answer (hbuffered : result.isServerScrollable setting = false)
    (hsettled : Settled result) (offset : Int) :
    Answer setting result (result.relativeTarget offset)
      (relative setting result offset) := by
  unfold relative
  split
  · exact .closed
  · split
    · refine .still _ fun hsuccess => ?_
      cases hsettled with
      | off hoff => simp [hoff.tuple] at hsuccess
      | on hon => exact hon
    · next hoffset =>
      split
      · exact .still false nofun
      · next hmoves =>
        split
        · exact .off _ (offRow_beforeFirst _) fun _ => rfl
        · rw [relativeTarget, if_neg (not_or.mpr ⟨hoffset, hmoves⟩)]
          exact absolute_answer hbuffered _

theorem Settled.blank (hsettled : Settled result) (hempty : result.rowCount ≤ 0) :
    Blank result.view := by
  cases hsettled with
  | off hoff => exact hoff.toBlank
  | on hon =>
      have hlt := hon.cursor_lt
      have hnonneg := hon.cursor_nonneg
      omega

def previousTarget (result : Result) : Option Int :=
  if result.view.atAfterLast then some (result.rowCount - 1)
  else if result.rowNumber ≤ 1 then none
  else some (result.view.cursor - 1)

/-- The second attempt that `sqli_result_previous` makes on a row it could not
read fails as the first did. -/
theorem absolute_failed (hclosed : result.isClosedByCommit setting = false)
    (hbuffered : result.isServerScrollable setting = false)
    (hrow : result.rowAt (number - 1) = some row)
    (hlocate : result.locate setting.calloc row = .error status) :
    ∃ next, absolute setting (result.failed setting.calloc status) number =
        (false, next) ∧ OffRow next.view ∧ next.fetchStatus = status := by
  have hbounds := rowAt_bounds hrow
  have hagain := moveToIndex_error
    (show (result.failed setting.calloc status).rowAt (number - 1) = some row
      from hrow) (locate_failed hlocate status)
  have hclosed' : (result.failed setting.calloc status).isClosedByCommit
      setting = false := hclosed
  have hbuffered' : (result.failed setting.calloc status).isServerScrollable
      setting = false := hbuffered
  unfold absolute
  rw [if_neg (by simp [hclosed']), if_neg (by omega),
    if_neg (by simp [hbuffered']), hagain]
  exact ⟨_, rfl, offRow_afterLast _, rfl⟩

theorem previous_answer (hbuffered : result.isServerScrollable setting = false)
    (hsettled : Settled result) :
    Answer setting result result.previousTarget (previous setting result) := by
  unfold previous
  split
  · exact .closed
  · next hclosed =>
    have hopen := Bool.eq_false_of_not_eq_true hclosed
    split
    · next hafter =>
      rw [previousTarget, if_pos hafter]
      exact last_answer hbuffered hsettled.blank
    · next hafter =>
      split
      · exact .off _ (offRow_beforeFirst _) fun _ => rfl
      · next hnumber =>
        have hon : OnRow result := by
          cases hsettled with
          | off hoff =>
              rw [rowNumber_of_flag hoff.flag] at hnumber
              exact absurd (by decide) hnumber
          | on hon => exact hon
        have hrowNumber := hon.rowNumber
        rw [if_pos (.inl hbuffered), previousTarget, if_neg hafter,
          if_neg hnumber]
        have hattempt := moveToIndex_attempt setting.calloc result
          (result.view.cursor - 1)
        generalize moveToIndex setting.calloc result (result.view.cursor - 1) =
          returned at hattempt
        cases hattempt with
        | outside hrow =>
            have hlt := hon.cursor_lt
            have hnonneg := hon.cursor_nonneg
            rcases rowAt_eq_none_iff.mp hrow with habsurd | habsurd <;> omega
        | read row located hrow hlocate =>
            have hseat := onRow_numbered hrow located
            have hsame : result.rowNumber - 1 = result.view.cursor - 1 + 1 := by
              omega
            rw [← hsame] at hseat
            exact .seated _ row located hopen hrow hlocate hseat rfl
        | error row status hrow hlocate =>
            have hsame : result.rowNumber - 1 - 1 = result.view.cursor - 1 := by
              omega
            have hrow' : result.rowAt (result.rowNumber - 1 - 1) = some row := by
              rw [hsame]
              exact hrow
            obtain ⟨next, habsolute, hoff, hstatus⟩ := absolute_failed
              hopen hbuffered hrow' hlocate
            simp only [habsolute]
            exact .broken next row status hopen hrow hlocate hoff hstatus

def nextTarget (result : Result) : Option Int :=
  if result.view.atAfterLast then none
  else if result.view.atBeforeFirst then some 0
  else some (result.view.cursor + 1)

theorem nextInternal_answer
    (hbuffered : result.isServerScrollable setting = false)
    (hsettled : Settled result) (hok : result.fetchStatus = .ok) :
    Answer setting result result.nextTarget (nextInternal setting result) := by
  have hfine {status : Status} (hbad : result.fetchStatus ≠ .ok) :
      status = result.fetchStatus := absurd hok hbad
  unfold nextInternal
  split
  · exact .closed
  · next hclosed =>
    have hopen := Bool.eq_false_of_not_eq_true hclosed
    split
    · exact .still false nofun
    · next hafter =>
      split
      · next hbefore =>
        have hoff : OffRow result.view := by
          cases hsettled with
          | off hoff => exact hoff
          | on hon => simp [hon.beforeFirst] at hbefore
        rw [nextTarget, if_neg hafter, if_pos hbefore]
        simp only
        split
        · next hrows =>
          have hattempt := moveToIndex_attempt setting.calloc
            (result.withView result.view.leaveBeforeFirst) 0
          generalize moveToIndex setting.calloc
            (result.withView result.view.leaveBeforeFirst) 0 = returned
            at hattempt
          cases hattempt with
          | outside hrow =>
              rcases rowAt_eq_none_iff.mp hrow with habsurd | hempty
              · exact absurd habsurd (by decide)
              · rw [rowCount_withView] at hempty
                omega
          | read row located hrow hlocate =>
              exact .seated _ row located hopen hrow hlocate
                ⟨rfl, rfl, (rowAt_bounds hrow).1, (rowAt_bounds hrow).2, rfl⟩ rfl
          | error row status hrow hlocate =>
              exact .broken _ row status hopen hrow hlocate offRow_closed rfl
        · next hrows =>
          have hempty : ¬ 0 < result.rowCount := fun hpos =>
            hrows ⟨by rw [hoff.cursor]; decide, hpos, hoff.absoluteRowNum⟩
          have hnone :
              (result.withView result.view.leaveBeforeFirst).rowAt 0 = none :=
            rowAt_eq_none_iff.mpr (.inr (Int.not_lt.mp hempty))
          unfold first
          rw [if_neg (by simpa using hclosed), if_neg (by simp [hbuffered]),
            moveToIndex_none hnone]
          exact .off _ hoff.leaveBeforeFirst.unpositioned fun hbad => hfine hbad
      · next hbefore =>
        have hon : OnRow result := by
          cases hsettled with
          | off hoff =>
              rcases hoff.flag with hflag | hflag
              · exact absurd hflag hbefore
              · exact absurd hflag hafter
          | on hon => exact hon
        rw [nextTarget, if_neg hafter, if_neg hbefore]
        split
        · split
          · exact .off _ offRow_closed fun hbad => hfine hbad
          · have hattempt := moveToIndex_attempt setting.calloc result
              (result.view.cursor + 1)
            generalize moveToIndex setting.calloc result
              (result.view.cursor + 1) = returned at hattempt
            cases hattempt with
            | outside hrow =>
                have hnonneg := hon.cursor_nonneg
                rcases rowAt_eq_none_iff.mp hrow with habsurd | habsurd <;> omega
            | read row located hrow hlocate =>
                have hnext : result.nextNumber = result.view.cursor + 1 + 1 := by
                  have hnumber := hon.number
                  have hnonneg := hon.cursor_nonneg
                  unfold nextNumber
                  split <;> omega
                have hseat := onRow_numbered hrow located
                rw [← hnext] at hseat
                exact .seated _ row located hopen hrow hlocate hseat rfl
            | error row status hrow hlocate =>
                exact .broken _ row status hopen hrow hlocate offRow_closed rfl
        · rw [if_neg (by simp [hbuffered])]
          exact .off _ (offRow_afterLast _) fun _ => rfl

/-- `sqli_result_fetch` reads no row past an error. -/
def fetchTarget (setting : Setting) (result : Result) : Option Int :=
  if isDiscarded setting ∨ result.fetchStatus ≠ .ok ∨ result.sawError ∨
      result.errorCode ≠ 0 then none
  else result.nextTarget

theorem next_answer (hbuffered : result.isServerScrollable setting = false)
    (hsettled : Settled result) :
    Answer setting result (fetchTarget setting result)
      (next setting result) := by
  unfold next fetch
  split
  · exact .closed
  · next hkept =>
    split
    · next hstatus =>
      simp only [beq_eq_false_iff_ne.mpr hstatus]
      exact .closed
    · next hok =>
      rw [Ne, not_not] at hok
      split
      · exact .off _ offRow_closed fun hbad => absurd hok hbad
      · split
        · exact .off _ offRow_closed fun hbad => absurd hok hbad
        · next herror =>
          have htarget : fetchTarget setting result = result.nextTarget :=
            if_neg (by simp_all)
          have hanswer := nextInternal_answer hbuffered hsettled hok
          rw [htarget]
          generalize nextInternal setting result = returned at hanswer ⊢
          cases hanswer with
          | still success hsuccess =>
              simp only [hok]
              cases success with
              | true => exact .still true hsuccess
              | false => exact .still false hsuccess
          | off next hoff hstatus =>
              simp only
              split
              · next hbad =>
                simp only [beq_eq_false_iff_ne.mpr hbad]
                exact .off _ offRow_closed hstatus
              · exact .off _ hoff hstatus
          | seated next row located hopen hrow hlocate hon hstatus =>
              simp only [hstatus, hok]
              exact .seated _ row located hopen hrow hlocate hon hstatus
          | broken next row status hopen hrow hlocate hoff hstatus =>
              have hbad : next.fetchStatus ≠ .ok := by
                rw [hstatus]
                rintro rfl
                exact locate_ne_ok hlocate
              simp only [if_pos hbad, beq_eq_false_iff_ne.mpr hbad]
              exact .broken _ row status hopen hrow hlocate offRow_closed hstatus

/-- The index a move reads, if it reads a stored row. -/
def target (setting : Setting) (result : Result) : Move → Option Int
  | .fetch | .next => fetchTarget setting result
  | .first => some 0
  | .last => some (result.rowCount - 1)
  | .absolute row => some (row.toInt - 1)
  | .relative offset => result.relativeTarget offset.toInt
  | .previous => result.previousTarget

theorem move_answer (hbuffered : result.isServerScrollable setting = false)
    (hsettled : Settled result) (call : Move) :
    Answer setting result (target setting result call)
      ((result.move setting call).1.success, (result.move setting call).2) := by
  cases call with
  | fetch => exact next_answer hbuffered hsettled
  | next => exact next_answer hbuffered hsettled
  | first => exact first_answer hbuffered hsettled.blank
  | last => exact last_answer hbuffered hsettled.blank
  | absolute row => exact absolute_answer hbuffered _
  | relative offset => exact relative_answer hbuffered hsettled _
  | previous => exact previous_answer hbuffered hsettled

end Libsqli.Result
