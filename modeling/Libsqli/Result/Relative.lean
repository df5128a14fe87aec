import Libsqli.Result.Buffered

namespace Libsqli.Result

open Layout

variable {start : Result} {setting : Setting} {view : View}
  {located : Option (List Located)} {position : Position start.count}

/-! Relative moves of a client-buffered result. -/

theorem toInt32_overflow (hlower : int32Max < value)
    (hupper : value ≤ 2 * int32Max) : toInt32 value ≤ 0 := by
  unfold int32Max at hlower hupper
  unfold toInt32
  rw [Int.bmod_def]
  split <;> omega

/-- The call went to the row `offset` away, or off the rows on that side. -/
structure MovesBy (start : Result) (setting : Setting) (result : Result)
    (position : Position start.count) (offset : Int32) : Prop where
  success_eq : (relative setting result offset.toInt).1 =
    (Position.place start.count (position.number + offset.toInt)).onRow
  placed : start.Placed (relative setting result offset.toInt).2.view
    (relative setting result offset.toInt).2.located
    (.place start.count (position.number + offset.toInt))
  shows : start.Shows setting (relative setting result offset.toInt).2
    (.place start.count (position.number + offset.toInt))
  still : offset = 0 → (relative setting result offset.toInt).2 = result

theorem place_number (position : Position start.count)
    (hposition : position ≠ .after) :
    Position.place start.count position.number = position := by
  cases position with
  | before => exact Position.place_nonpos (Int.le_refl _)
  | row index => exact Position.place_succ index
  | after => exact absurd rfl hposition

theorem MovesBy.of_seats (hopened : start.Opened)
    (hundisturbed : start.Undisturbed setting) {result : Result}
    {offset : Int32} {seat : View} {entries : Option (List Located)}
    (hreturned : relative setting result offset.toInt =
      ((Position.place start.count (position.number + offset.toInt)).onRow,
        start.positioned seat entries))
    (hseated : start.Placed seat entries
      (.place start.count (position.number + offset.toInt)))
    (hstill : offset = 0 → start.positioned seat entries = result) :
    start.MovesBy setting result position offset := by
  refine ⟨?_, ?_, ?_, ?_⟩ <;> rw [hreturned]
  · exact hseated
  · exact hseated.viewAt.shows hopened hundisturbed
  · exact hstill

/-- Off the rows or on one of them, a relative move lands somewhere again. -/
theorem relative_lands (hdecodes : start.Decodes)
    (hundisturbed : start.Undisturbed setting)
    (hat : start.ViewAt view located position) (offset : Int) :
    ∃ seat entries target,
      (relative setting (start.positioned view located) offset).2 =
        start.positioned seat entries ∧ start.ViewAt seat entries target := by
  unfold relative
  rw [if_neg (by simp [hundisturbed.alive])]
  split
  · exact ⟨view, located, position, rfl, hat⟩
  split
  · exact ⟨view, located, position, rfl, hat⟩
  split
  · exact ⟨_, located, .before, rfl, viewAt_beforeFirst _ _⟩
  · rename_i htarget
    obtain ⟨seat, entries, habsolute, hseated⟩ := @absolute_seats _ _ view
      located hdecodes hundisturbed _ (Int.not_le.mp htarget)
    exact ⟨seat, entries, _, congrArg Prod.snd habsolute, hseated.viewAt⟩

theorem reached_positioned (hopened : start.Opened) (hdecodes : start.Decodes)
    {calls : List (Setting × Move)}
    (hcalls : ∀ call ∈ calls, start.Undisturbed call.1)
    (hat : start.ViewAt view located position) :
    ∃ seat entries, (start.positioned view located).afterMoves calls =
      start.positioned seat entries := by
  induction calls generalizing view located position with
  | nil => exact ⟨view, located, rfl⟩
  | cons call calls ih =>
      have hundisturbed := hcalls call List.mem_cons_self
      have hstep : ∃ seat entries target,
          ((start.positioned view located).move call.1 call.2).2 =
            start.positioned seat entries ∧
          start.ViewAt seat entries target := by
        by_cases hrelative : ∃ offset, call.2 = .relative offset
        · obtain ⟨offset, hoffset⟩ := hrelative
          rw [hoffset]
          exact relative_lands hdecodes hundisturbed hat offset.toInt
        · obtain ⟨seat, entries, hmove, hview⟩ := move_lands hopened hdecodes
            hundisturbed hat call.2 fun offset hoffset =>
              hrelative ⟨offset, hoffset⟩
          exact ⟨seat, entries, _, congrArg Prod.snd hmove, hview⟩
      obtain ⟨seat, entries, target, hmoved, hview⟩ := hstep
      rw [afterMoves, hmoved]
      exact ih (fun other member => hcalls other (List.mem_cons_of_mem _ member))
        hview

/-! Which relative moves are sums. -/

theorem relative_still (hundisturbed : start.Undisturbed setting) :
    relative setting (start.positioned view located) 0 =
      (decide (0 ≤ view.cursor) && view.tuple.isSome,
        start.positioned view located) := by
  unfold relative
  rw [if_neg (by simp [hundisturbed.alive]), if_pos rfl]
  rfl

theorem relative_eq (hundisturbed : start.Undisturbed setting)
    {offset : Int} (hoffset : offset ≠ 0)
    (hleaves : 0 < (start.positioned view located).rowNumber ∨
      view.atBeforeFirst = true ∧ 0 < offset) :
    relative setting (start.positioned view located) offset =
      if toInt32 ((start.positioned view located).rowNumber + offset) ≤ 0 then
        (false, start.positioned view.beforeFirst located)
      else absolute setting (start.positioned view located)
        (toInt32 ((start.positioned view located).rowNumber + offset)) := by
  unfold relative
  rw [if_neg (by simp [hundisturbed.alive]), if_neg hoffset, if_neg]
  · rfl
  · rintro ⟨hnumber, hflags⟩
    rcases hleaves with hrow | hbefore
    · omega
    · exact hflags hbefore

theorem rowNumber_row (index : Fin start.count) :
    (start.positioned (start.rowView index) located).rowNumber =
      (Position.row index).number :=
  rowNumber_of_pos rfl rfl (Int.natCast_pos.mpr index.val.succ_pos)

theorem placed_beforeFirst (view : View) (located : Option (List Located)) :
    start.Placed view.beforeFirst located .before :=
  ⟨(offRow_beforeFirst view).toBlank, rfl, fun _ => rfl⟩

/-- A sum that is an `int` leads to the place it names. -/
theorem relative_sum (hopened : start.Opened) (hdecodes : start.Decodes)
    (hundisturbed : start.Undisturbed setting)
    {offset : Int32} (hoffset : offset.toInt ≠ 0)
    (hnumber : (start.positioned view located).rowNumber = position.number)
    (hleaves : 0 < (start.positioned view located).rowNumber ∨
      view.atBeforeFirst = true ∧ 0 < offset.toInt)
    (hexact : toInt32 (position.number + offset.toInt) =
      position.number + offset.toInt) :
    start.MovesBy setting (start.positioned view located) position offset := by
  have hmove := relative_eq hundisturbed hoffset hleaves
  rw [hnumber, hexact] at hmove
  have hzero : offset ≠ 0 := fun hsame => hoffset (by rw [hsame]; rfl)
  by_cases htarget : position.number + offset.toInt ≤ 0
  · rw [if_pos htarget] at hmove
    have hplace := @Position.place_nonpos start.count _ htarget
    exact .of_seats hopened hundisturbed (by rw [hmove, hplace]; rfl)
      (by rw [hplace]; exact placed_beforeFirst view located)
      (fun hsame => absurd hsame hzero)
  · rw [if_neg htarget] at hmove
    obtain ⟨seat, entries, habsolute, hplaced⟩ := @absolute_seats _ _ view
      located hdecodes hundisturbed _ (Int.not_le.mp htarget)
    exact .of_seats hopened hundisturbed (hmove.trans habsolute) hplaced
      fun hsame => absurd hsame hzero

theorem movesBy_zero (hopened : start.Opened)
    (hundisturbed : start.Undisturbed setting)
    (hplaced : start.Placed view located position)
    (hposition : position ≠ .after) :
    start.MovesBy setting (start.positioned view located) position 0 := by
  have hnumber : position.number + (0 : Int32).toInt = position.number :=
    Int.add_zero _
  refine .of_seats hopened hundisturbed ?_
    (by rw [hnumber, place_number position hposition]; exact hplaced)
    (fun _ => rfl)
  rw [hnumber, place_number position hposition]
  refine (relative_still hundisturbed).trans (congrArg (·, _) ?_)
  cases position with
  | before =>
      rw [hplaced.1.cursor]
      rfl
  | row index =>
      obtain ⟨rfl, -⟩ := hplaced
      simp [rowView, Position.onRow]
  | after => exact absurd rfl hposition

theorem movesBy_of_range (hopened : start.Opened) (hdecodes : start.Decodes)
    (hundisturbed : start.Undisturbed setting)
    (hplaced : start.Placed view located position)
    (hposition : position ≠ .after) {offset : Int32}
    (hrange : position.number + offset.toInt ≤ int32Max) :
    start.MovesBy setting (start.positioned view located) position offset := by
  by_cases hzero : offset.toInt = 0
  · obtain rfl : offset = 0 := Int32.toInt_inj.mp hzero
    exact movesBy_zero hopened hundisturbed hplaced hposition
  have hlower := offset.le_toInt
  cases position with
  | row index =>
      have hexact := @toInt32_eq_of_range
        ((Position.row index).number + offset.toInt) (by
          simp only [Position.number]
          omega) hrange
      obtain ⟨rfl, -⟩ := hplaced
      have hnumber := @rowNumber_row start located index
      refine relative_sum hopened hdecodes hundisturbed hzero hnumber
        (.inl ?_) hexact
      rw [hnumber]
      simp only [Position.number]
      omega
  | before =>
      have hnumber : (start.positioned view located).rowNumber =
          (Position.before : Position start.count).number :=
        rowNumber_of_flag (.inl hplaced.2.1)
      by_cases hforward : 0 < offset.toInt
      · exact relative_sum hopened hdecodes hundisturbed hzero hnumber
          (.inr ⟨hplaced.2.1, hforward⟩)
          (toInt32_eq_of_range (by simp only [Position.number]; omega) hrange)
      · have hplace := @Position.place_nonpos start.count
          ((Position.before : Position start.count).number + offset.toInt)
          (by simp only [Position.number]; omega)
        refine .of_seats hopened hundisturbed ?_
          (by rw [hplace]; exact hplaced) fun _ => rfl
        rw [hplace]
        unfold relative
        rw [if_neg (by simp [hundisturbed.alive]), if_neg hzero,
          if_pos ⟨hnumber.le, fun hflags => hforward hflags.2⟩]
        rfl
  | after => exact absurd rfl hposition

/-- A sum past the largest `int` comes out before the first row. -/
theorem range_of_movesBy (hundisturbed : start.Undisturbed setting)
    (hplaced : start.Placed view located position)
    (hposition : position ≠ .after) {offset : Int32}
    (hmoves : start.MovesBy setting (start.positioned view located) position
      offset) : position.number + offset.toInt ≤ int32Max := by
  by_contra hbeyond
  have hupper := offset.toInt_lt
  have hcount : (start.count : Int) ≤ int32Max := start.rowCount_le
  have hmax : int32Max = 2147483647 := rfl
  cases position with
  | before =>
      simp only [Position.number] at hbeyond
      omega
  | row index =>
      have hwrapped := @toInt32_overflow
        ((Position.row index).number + offset.toInt) (by omega) (by
          simp only [Position.number]
          omega)
      simp only [Position.number] at hbeyond hwrapped
      obtain ⟨rfl, -⟩ := hplaced
      have hnumber := @rowNumber_row start located index
      have hmove := @relative_eq start setting (start.rowView index) located
        hundisturbed offset.toInt (by omega) (.inl (by
          rw [hnumber]
          simp only [Position.number]
          omega))
      rw [hnumber, Position.number, if_pos hwrapped] at hmove
      have hplacedAfter := hmoves.placed
      rw [hmove, Position.place_beyond (by
        simp only [Position.number]
        omega)] at hplacedAfter
      cases hplacedAfter.2.1
  | after => exact absurd rfl hposition

/-- From every position that calls can leave, a relative move is a sum exactly
when that sum is an `int`. -/
theorem relative_moves_iff (hopened : start.Opened) (hdecodes : start.Decodes)
    (calls : List (Setting × Move)) (setting : Setting)
    (hcalls : ∀ call ∈ calls, start.Undisturbed call.1)
    (hundisturbed : start.Undisturbed setting)
    (position : Position start.count) (hposition : position ≠ .after)
    (hplaced : start.Placed (start.afterMoves calls).view
      (start.afterMoves calls).located position) (offset : Int32) :
    start.MovesBy setting (start.afterMoves calls) position offset ↔
      position.number + offset.toInt ≤ int32Max := by
  obtain ⟨view, located, hreached⟩ :=
    reached_positioned hopened hdecodes hcalls hopened.viewAt
  have hresult : start.afterMoves calls = start.positioned view located :=
    hreached
  rw [hresult] at hplaced ⊢
  exact ⟨range_of_movesBy hundisturbed hplaced hposition,
    movesBy_of_range hopened hdecodes hundisturbed hplaced hposition⟩

/-- The first of two rows, after a fetch. -/
def firstRow : Position twoIntegers.count := .row ⟨0, by decide⟩

theorem twoIntegers_undisturbed : twoIntegers.Undisturbed unowned :=
  ⟨rfl, rfl, rfl, rfl⟩

theorem fetched_placed :
    twoIntegers.Placed (twoIntegers.afterMoves [(unowned, .fetch)]).view
      (twoIntegers.afterMoves [(unowned, .fetch)]).located firstRow :=
  ⟨rfl, _, rfl, rfl⟩

/-- From the first row by the largest `int`: 1 + 2147483647. -/
theorem relative_overflows :
    ¬ twoIntegers.MovesBy unowned (twoIntegers.afterMoves [(unowned, .fetch)])
      firstRow 2147483647 := by
  intro hmoves
  have hrange := range_of_movesBy twoIntegers_undisturbed fetched_placed
    (by decide) hmoves
  exact absurd hrange (by decide)

theorem relative_moves_iff_twoIntegers :
    twoIntegers.MovesBy unowned (twoIntegers.afterMoves [(unowned, .fetch)])
      firstRow 1 := by
  refine (relative_moves_iff twoIntegers_opened twoIntegers_decodes
    [(unowned, .fetch)] unowned (fun call member => ?_) twoIntegers_undisturbed
    firstRow (by decide) fetched_placed 1).mpr (by decide)
  obtain rfl := List.mem_singleton.mp member
  exact twoIntegers_undisturbed

end Libsqli.Result
