import Libsqli.Result.Frame

namespace Libsqli.Layout

/-! How a row fails to be laid out. -/

variable {tuple : List UInt8} {base offset width header : Nat}
  {column : Column} {columns : List Column} {status : Status}

theorem plainSpan_error (herror : plainSpan tuple base width = .error status) :
    status = .protoError := by
  unfold plainSpan at herror
  split at herror <;> cases herror
  rfl

theorem prefixedSpan_error
    (herror : prefixedSpan tuple base header = .error status) :
    status = .protoError := by
  unfold prefixedSpan at herror
  split at herror <;> cases herror
  rfl

theorem opaqueSpan_error (herror : opaqueSpan tuple base = .error status) :
    status = .protoError := by
  unfold opaqueSpan at herror
  split at herror
  · cases herror
  · split at herror
    · cases herror
    · exact prefixedSpan_error herror

theorem locateColumn_error
    (herror : locateColumn column base tuple = .error status) :
    status = .protoError := by
  unfold locateColumn at herror
  repeat' split at herror
  all_goals first
    | exact plainSpan_error herror
    | exact prefixedSpan_error herror
    | exact opaqueSpan_error herror
    | cases herror
      try rfl

theorem columnSpan_error
    (herror : columnSpan column offset tuple = .error status) :
    status = .protoError := by
  unfold columnSpan at herror
  repeat' split at herror
  all_goals first
    | exact plainSpan_error herror
    | exact prefixedSpan_error herror
    | exact locateColumn_error herror
    | cases herror
      try rfl

theorem locateRow_error (herror : locateRow tuple offset columns =
    .error status) : status = .protoError ∨ status = .limitExceeded := by
  induction columns generalizing offset with
  | nil => cases herror
  | cons column columns ih =>
      unfold locateRow at herror
      split at herror
      · cases herror
        exact .inr rfl
      · split at herror
        · next hspan =>
          cases herror
          exact .inl (columnSpan_error hspan)
        · split at herror
          · cases herror
            exact .inl rfl
          · split at herror
            · next hrest =>
              cases herror
              exact ih hrest
            · cases herror

end Libsqli.Layout

namespace Libsqli.Result

open Layout

/-! One fetch of a result that only its own rows are read from. -/

variable {result next : Result} {setting : Setting} {index : Nat}

theorem locate_ne_eof {calloc : Bool} {tuple : List UInt8} :
    result.locate calloc tuple ≠ .error .eof := by
  unfold locate
  split
  · decide
  · split
    · decide
    · intro herror
      rcases locateRow_error herror with hstatus | hstatus <;> cases hstatus

/-- The row that the next fetch comes to. -/
inductive NextRow (result : Result) : Nat → Prop where
  | first (hcursor : result.view.cursor = -1)
      (hnumber : result.view.absoluteRowNum = 0)
      (hbefore : result.view.atBeforeFirst = true)
      (hafter : result.view.atAfterLast = false) : NextRow result 0
  | behind {index : Nat} (hcursor : result.view.cursor = index)
      (hbefore : result.view.atBeforeFirst = false)
      (hafter : result.view.atAfterLast = false) :
      NextRow result (index + 1)

/-- Where a move to a row leaves the result. -/
inductive Landed (result : Result) (index : Nat) : Bool → Result → Prop where
  | row {next : Result} (hindex : index < result.rows.val.length)
      (htuple : next.view.tuple = some (result.rows.val[index]))
      (hnext : NextRow next (index + 1)) (hrows : next.rows = result.rows)
      (hsound : next.fetchStatus = .ok) : Landed result index true next
  | past {next : Result} (hindex : result.rows.val.length ≤ index)
      (hsound : next.fetchStatus = .ok) : Landed result index false next
  | failed {next : Result} (hok : next.fetchStatus ≠ .ok)
      (heof : next.fetchStatus ≠ .eof) : Landed result index false next

theorem moveToIndex_landed (hsound : result.fetchStatus = .ok)
    (calloc : Bool) (index : Nat) :
    Landed result index (moveToIndex calloc result index).1
      (moveToIndex calloc result index).2 := by
  by_cases hindex : index < result.rows.val.length
  · have hrow := rowAt_of_lt hindex
    cases hlocate : result.locate calloc result.rows.val[index] with
    | ok located =>
        rw [moveToIndex_ok hrow hlocate]
        exact .row hindex rfl (.behind rfl rfl rfl) rfl hsound
    | error status =>
        rw [moveToIndex_error hrow hlocate]
        refine .failed (fun hstatus => ?_) fun hstatus => ?_
        · cases (show status = .ok from hstatus)
          exact locate_ne_ok hlocate
        · cases (show status = .eof from hstatus)
          exact locate_ne_eof hlocate
  · have hnone : result.rowAt index = none := by
      rw [rowAt_eq_none_iff]
      unfold rowCount
      omega
    rw [moveToIndex_none hnone]
    exact .past (Nat.le_of_not_lt hindex) hsound

theorem NextRow.withNumber {next : Result} {number : Int}
    (hnext : NextRow next (index + 1)) :
    NextRow (next.withView { next.view with absoluteRowNum := number })
      (index + 1) := by
  cases hnext with
  | behind hcursor hbefore hafter => exact .behind hcursor hbefore hafter

theorem NextRow.numbered {next : Result} {number : Int}
    (hnext : NextRow next (index + 1)) :
    NextRow (next.withView (next.view.numbered number)) (index + 1) := by
  cases hnext with
  | behind hcursor hbefore hafter => exact .behind hcursor rfl rfl

theorem nextInternal_landed (hsound : result.fetchStatus = .ok)
    (halive : result.isClosedByCommit setting = false)
    (hbuffered : result.isServerScrollable setting = false)
    (hnext : NextRow result index) :
    Landed result index (nextInternal setting result).1
      (nextInternal setting result).2 := by
  unfold nextInternal
  rw [if_neg (Bool.eq_false_iff.mp halive)]
  cases hnext with
  | first hcursor hnumber hbefore hafter =>
      have hlanded := @moveToIndex_landed
        (result.withView result.view.leaveBeforeFirst) hsound setting.calloc 0
      rw [if_neg (Bool.eq_false_iff.mp hafter), if_pos hbefore]
      dsimp only
      by_cases hrows : 0 < result.rowCount
      · rw [if_pos ⟨by omega, hrows, hnumber⟩]
        generalize moveToIndex setting.calloc _ 0 = moved at hlanded ⊢
        obtain ⟨success, next⟩ := moved
        cases hlanded with
        | row hindex htuple hbehind hsame hkept =>
            exact .row hindex htuple hbehind.withNumber hsame hkept
        | past hindex hkept => exact .past hindex hkept
        | failed hok heof => exact .failed hok heof
      · rw [if_neg fun h => hrows h.2.1]
        unfold first
        rw [if_neg (by simpa using halive), if_neg (by simpa using hbuffered)]
        generalize moveToIndex setting.calloc _ 0 = moved at hlanded ⊢
        obtain ⟨success, next⟩ := moved
        cases hlanded with
        | row hindex htuple hbehind hsame hkept =>
            exact absurd (Int.natCast_pos.mpr hindex) hrows
        | past hindex hkept => exact .past hindex hkept
        | failed hok heof => exact .failed hok heof
  | @behind index hcursor hbefore hafter =>
      have hlanded := @moveToIndex_landed result hsound setting.calloc
        (index + 1)
      rw [if_neg (Bool.eq_false_iff.mp hafter),
        if_neg (Bool.eq_false_iff.mp hbefore), hcursor]
      by_cases hmore : (index : Int) + 1 < result.rowCount
      · rw [if_pos hmore]
        by_cases hlast : result.view.absoluteRowNum = int32Max
        · rw [if_pos hlast]
          exact .failed nofun nofun
        · rw [if_neg hlast]
          push_cast at hlanded
          generalize moveToIndex setting.calloc result _ = moved at hlanded ⊢
          obtain ⟨success, next⟩ := moved
          cases hlanded with
          | row hindex htuple hbehind hsame hkept =>
              exact .row hindex htuple hbehind.numbered hsame hkept
          | past hindex hkept => exact .past hindex hkept
          | failed hok heof => exact .failed hok heof
      · rw [if_neg hmore, if_neg fun h => Bool.eq_false_iff.mp hbuffered h.1]
        refine .past ?_ hsound
        unfold rowCount at hmore
        omega

/-- What a fetch returns at a row. -/
inductive Read (result : Result) (index : Nat) : Status → Result → Prop where
  | row {next : Result} (hindex : index < result.rows.val.length)
      (htuple : next.view.tuple = some (result.rows.val[index]))
      (hnext : NextRow next (index + 1)) (hrows : next.rows = result.rows)
      (hsound : next.fetchStatus = .ok) : Read result index .ok next
  | past {next : Result} (hindex : result.rows.val.length ≤ index) :
      Read result index .eof next
  | failed {next : Result} {status : Status} (hok : status ≠ .ok)
      (heof : status ≠ .eof) : Read result index status next

theorem fetch_read (hsound : result.fetchStatus = .ok)
    (hbuffered : result.isServerScrollable setting = false)
    (hnext : NextRow result index) :
    Read result index (fetch setting result).1 (fetch setting result).2 := by
  unfold fetch
  by_cases hkept : isDiscarded setting = true
  · rw [if_pos hkept]
    exact .failed nofun nofun
  rw [if_neg hkept, if_neg fun h => h hsound]
  by_cases hclosed : result.isClosedByCommit setting = true
  · rw [if_pos hclosed]
    exact .failed nofun nofun
  rw [if_neg hclosed]
  by_cases herror : result.sawError = true ∨ result.errorCode ≠ 0
  · rw [if_pos herror]
    exact .failed nofun nofun
  rw [if_neg herror]
  have hlanded := nextInternal_landed hsound (Bool.eq_false_iff.mpr hclosed)
    hbuffered hnext
  generalize nextInternal setting result = moved at hlanded ⊢
  obtain ⟨success, next⟩ := moved
  dsimp only at hlanded ⊢
  cases hlanded with
  | row hindex htuple hbehind hrows hsame =>
      rw [if_neg fun h => h hsame]
      exact .row hindex htuple hbehind hrows hsame
  | past hindex hsame =>
      rw [if_neg fun h => h hsame]
      exact .past hindex
  | failed hok heof =>
      rw [if_pos hok]
      exact .failed hok heof

end Libsqli.Result
