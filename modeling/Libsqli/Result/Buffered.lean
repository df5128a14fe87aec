import Libsqli.Result.Navigation

namespace Libsqli

open Layout

/-! A client-buffered result as a position among its rows. -/

/-- A position in `{before, 1..count, after}`; rows are counted from zero. -/
inductive Position (count : Nat) where
  | before
  | row (index : Fin count)
  | after
  deriving DecidableEq

namespace Position

variable {count : Nat}

/-- Rows are numbered from one, with `before` and `after` around them. -/
def number : Position count → Int
  | before => 0
  | row index => index + 1
  | after => count + 1

def place (count : Nat) (target : Int) : Position count :=
  if htarget : 0 < target ∧ target ≤ count then
    .row ⟨(target - 1).toNat, by omega⟩
  else if target ≤ 0 then .before
  else .after

def onRow : Position count → Bool
  | row _ => true
  | _ => false

/-- The number a move asks for; relative moves are not part of this model. -/
def target (position : Position count) : Move → Option Int
  | .fetch | .next => some (position.number + 1)
  | .previous => some (position.number - 1)
  | .first => some 1
  | .last => some count
  | .absolute wanted => if wanted.toInt ≤ 0 then none else some wanted.toInt
  | .relative _ => none

def step (position : Position count) (move : Move) :
    Outcome × Position count :=
  match position.target move with
  | none => (move.report false, position)
  | some target =>
      (move.report (place count target).onRow, place count target)

def afterMoves (position : Position count) : List Move → Position count
  | [] => position
  | move :: moves => afterMoves (position.step move).2 moves

theorem place_nonpos {target : Int} (htarget : target ≤ 0) :
    place count target = .before := by
  unfold place
  rw [dif_neg (by omega), if_pos htarget]

theorem place_beyond {target : Int} (htarget : (count : Int) < target) :
    place count target = .after := by
  unfold place
  rw [dif_neg (by omega), if_neg (by omega)]

theorem onRow_place {target : Int} (htarget : 0 < target ∧ target ≤ count) :
    (place count target).onRow = true := by
  unfold place
  rw [dif_pos htarget]
  rfl

theorem place_succ (index : Fin count) :
    place count (index + 1) = .row index := by
  unfold place
  rw [dif_pos (by omega)]
  simp

end Position

namespace Result

variable {start : Result} {setting : Setting}

/-- A result as the query functions hand it out. -/
structure Opened (start : Result) : Prop where
  view : start.view = .initial
  fetchStatus : start.fetchStatus = .ok
  sawError : start.sawError = false
  errorCode : start.errorCode = 0

/-- Every row's layout decodes. -/
structure Decodes (start : Result) : Prop where
  columns : start.columns ≠ []
  rows : ∀ row ∈ start.rows.val,
    ∃ located, locateRow row 0 start.columns = .ok located

/-- The result is neither scrolled by the server nor closed, and memory for its
row cache can be had. -/
structure Undisturbed (start : Result) (setting : Setting) : Prop where
  buffered : start.isServerScrollable setting = false
  alive : start.isClosedByCommit setting = false
  kept : isDiscarded setting = false
  calloc : setting.calloc = true

abbrev count (start : Result) : Nat := start.rows.val.length

/-- The one column of a stored row. -/
def columnOf (start : Result) (index : Fin start.count) (column : Nat) :
    Except Status (Column × List UInt8) :=
  match locateRow start.rows.val[index] 0 start.columns with
  | .error status => .error status
  | .ok located =>
      match start.columns[column]?, located[column]? with
      | some info, some entry => .ok (info,
          (start.rows.val[index].drop entry.start).take entry.length)
      | _, _ => .error .outOfRange

/-- What the accessors show at a position. -/
def Shows (start : Result) (setting : Setting) (result : Result) :
    Position start.count → Prop
  | .row index => result.rowNumber = index + 1 ∧
      result.view.cursor + 1 = index + 1 ∧
      result.view.tuple = some start.rows.val[index] ∧
      ∀ column, currentSpan setting result column =
        start.columnOf index column
  | _ => result.rowNumber = 0 ∧ result.view.tuple = none ∧
      ∀ column, ∃ status, currentSpan setting result column = .error status

/-- What a navigated result differs in from the one the query left. -/
def positioned (start : Result) (view : View)
    (located : Option (List Located)) : Result :=
  { start with view, located }

def rowView (start : Result) (index : Fin start.count) : View :=
  ⟨index, index + 1, false, false, some start.rows.val[index], index, index⟩

/-- How the position fields stand for a position.  Without rows the flags tell
nothing. -/
def ViewAt (start : Result) (view : View) (located : Option (List Located)) :
    Position start.count → Prop
  | .row index => view = start.rowView index ∧ ∃ entries,
      located = some entries ∧
        locateRow start.rows.val[index] 0 start.columns = .ok entries
  | .before => OffRow view ∧ (0 < start.count →
      view.atBeforeFirst = true ∧ view.atAfterLast = false)
  | .after => OffRow view ∧ (0 < start.count →
      view.atBeforeFirst = false ∧ view.atAfterLast = true)

@[simp] theorem positioned_view (view : View)
    (located : Option (List Located)) :
    (start.positioned view located).view = view := rfl

@[simp] theorem positioned_rowCount (view : View)
    (located : Option (List Located)) :
    (start.positioned view located).rowCount = start.count := rfl

@[simp] theorem positioned_isClosedByCommit (view : View)
    (located : Option (List Located)) :
    (start.positioned view located).isClosedByCommit setting =
      start.isClosedByCommit setting := rfl

@[simp] theorem positioned_isServerScrollable (view : View)
    (located : Option (List Located)) :
    (start.positioned view located).isServerScrollable setting =
      start.isServerScrollable setting := rfl

theorem moveToIndex_seats (hdecodes : start.Decodes)
    (hcalloc : setting.calloc = true) (view : View)
    (located : Option (List Located)) {number : Int}
    (hinside : 0 < number ∧ number ≤ start.count) :
    ∃ seat entries,
      moveToIndex setting.calloc (start.positioned view located) (number - 1) =
        (true, start.positioned seat (some entries)) ∧
      seat.atBeforeFirst = false ∧ seat.atAfterLast = false ∧
      start.ViewAt (seat.numbered number) (some entries)
        (.place start.count number) := by
  obtain ⟨index, rfl⟩ : ∃ index : Fin start.count, number = index + 1 :=
    ⟨⟨(number - 1).toNat, by omega⟩, by simp; omega⟩
  obtain ⟨entries, hentries⟩ :=
    hdecodes.rows start.rows.val[index] (List.getElem_mem _)
  have hlocate : (start.positioned view located).locate setting.calloc
      start.rows.val[index] = .ok entries := by
    have hcolumns : (start.positioned view located).columns ≠ [] :=
      hdecodes.columns
    unfold locate
    rw [if_neg hcolumns, if_neg (by simp [hcalloc])]
    exact hentries
  have hrow : (start.positioned view located).rowAt index =
      some start.rows.val[index] := rowAt_of_lt index.isLt
  rw [Int.add_sub_cancel, Position.place_succ]
  exact ⟨_, entries, moveToIndex_ok hrow hlocate, rfl, rfl, rfl, entries, rfl,
    hentries⟩

theorem moveToIndex_outside (view : View) (located : Option (List Located))
    {index : Int} (hindex : index < 0 ∨ start.count ≤ index) :
    moveToIndex setting.calloc (start.positioned view located) index =
      (false, start.positioned view located) :=
  moveToIndex_none (rowAt_eq_none_iff.mpr hindex)

/-- What a move that ends at a position returns and leaves. -/
def Lands (start : Result) (returned : Bool × Result)
    (position : Position start.count) : Prop :=
  ∃ view located, returned = (position.onRow, start.positioned view located) ∧
    start.ViewAt view located position

variable {view : View} {located : Option (List Located)}
  {position : Position start.count}

theorem ViewAt.offRow_of_empty (hat : start.ViewAt view located position)
    (hempty : start.count = 0) : OffRow view := by
  cases position with
  | before => exact hat.1
  | row index => exact absurd index.isLt (by omega)
  | after => exact hat.1

theorem viewAt_beforeFirst (view : View) (located : Option (List Located)) :
    start.ViewAt view.beforeFirst located .before :=
  ⟨offRow_beforeFirst view, fun _ => ⟨rfl, rfl⟩⟩

theorem viewAt_afterLast (view : View) (located : Option (List Located)) :
    start.ViewAt view.afterLast located .after :=
  ⟨offRow_afterLast view, fun _ => ⟨rfl, rfl⟩⟩

/-- Without rows every position off the rows is as good as another. -/
theorem OffRow.viewAt (hoff : OffRow view) (hempty : start.count = 0)
    (hrow : position.onRow = false) : start.ViewAt view located position := by
  have hnever : ¬ 0 < start.count := by omega
  cases position with
  | before => exact ⟨hoff, fun hpos => absurd hpos hnever⟩
  | row index => cases hrow
  | after => exact ⟨hoff, fun hpos => absurd hpos hnever⟩

theorem first_lands (hdecodes : start.Decodes)
    (hundisturbed : start.Undisturbed setting)
    (hblank : start.count = 0 → Blank view) :
    start.Lands (first setting (start.positioned view located))
      (.place start.count 1) := by
  simp only [first, positioned_isClosedByCommit, hundisturbed.alive,
    positioned_isServerScrollable, hundisturbed.buffered, Bool.false_eq_true,
    if_false]
  rcases Nat.eq_zero_or_pos start.count with hempty | hpos
  · rw [moveToIndex_outside _ _ (.inr (by omega)),
      Position.place_beyond (by omega)]
    exact ⟨_, _, rfl, (hblank hempty).unpositioned.viewAt hempty rfl⟩
  · have hinside : (0 : Int) < 1 ∧ (1 : Int) ≤ start.count := by omega
    obtain ⟨seat, entries, hmove, -, -, hview⟩ :=
      moveToIndex_seats hdecodes hundisturbed.calloc view located hinside
    rw [Int.sub_self] at hmove
    rw [hmove]
    exact ⟨_, _, by rw [Position.onRow_place hinside]; rfl, hview⟩

theorem last_lands (hdecodes : start.Decodes)
    (hundisturbed : start.Undisturbed setting)
    (hblank : start.count = 0 → Blank view) :
    start.Lands (last setting (start.positioned view located))
      (.place start.count start.count) := by
  simp only [last, positioned_isClosedByCommit, hundisturbed.alive,
    positioned_isServerScrollable, hundisturbed.buffered, Bool.false_eq_true,
    if_false, positioned_rowCount]
  rcases Nat.eq_zero_or_pos start.count with hempty | hpos
  · rw [moveToIndex_outside _ _ (.inl (by omega)),
      Position.place_nonpos (by omega)]
    exact ⟨_, _, rfl, (hblank hempty).unpositioned.viewAt hempty rfl⟩
  · have hinside : (0 : Int) < start.count ∧
        (start.count : Int) ≤ start.count := by omega
    obtain ⟨seat, entries, hmove, -, -, hview⟩ :=
      moveToIndex_seats hdecodes hundisturbed.calloc view located hinside
    rw [hmove]
    exact ⟨_, _, by rw [Position.onRow_place hinside]; rfl, hview⟩

/-- A position with its flags, also where there are no rows. -/
def Placed (start : Result) (view : View) (located : Option (List Located)) :
    Position start.count → Prop
  | .row index => start.ViewAt view located (.row index)
  | .before => Blank view ∧ view.atBeforeFirst = true ∧
      (0 < start.count → view.atAfterLast = false)
  | .after => Blank view ∧ view.atBeforeFirst = false ∧ view.atAfterLast = true

theorem Placed.viewAt (hseated : start.Placed view located position) :
    start.ViewAt view located position := by
  cases position with
  | row index => exact hseated
  | before =>
      obtain ⟨hblank, hbefore, hafter⟩ := hseated
      exact ⟨⟨hblank, .inl hbefore⟩, fun hpos => ⟨hbefore, hafter hpos⟩⟩
  | after =>
      obtain ⟨hblank, hbefore, hafter⟩ := hseated
      exact ⟨⟨hblank, .inr hafter⟩, fun _ => ⟨hbefore, hafter⟩⟩

theorem absolute_seats (hdecodes : start.Decodes)
    (hundisturbed : start.Undisturbed setting) {row : Int} (hrow : 0 < row) :
    ∃ seat entries, absolute setting (start.positioned view located) row =
        ((Position.place start.count row).onRow,
          start.positioned seat entries) ∧
      start.Placed seat entries (.place start.count row) := by
  simp only [absolute, positioned_isClosedByCommit, hundisturbed.alive,
    positioned_isServerScrollable, hundisturbed.buffered, Bool.false_eq_true,
    if_false]
  rw [if_neg (Int.not_le.mpr hrow)]
  by_cases hinside : row ≤ start.count
  · obtain ⟨seat, entries, hmove, -, -, hview⟩ :=
      moveToIndex_seats hdecodes hundisturbed.calloc view located
        ⟨hrow, hinside⟩
    have hplace : Position.place start.count row =
        .row ⟨(row - 1).toNat, by omega⟩ := dif_pos ⟨hrow, hinside⟩
    rw [hmove]
    rw [hplace] at hview ⊢
    exact ⟨_, _, rfl, hview⟩
  · rw [moveToIndex_outside _ _ (.inr (by omega)),
      Position.place_beyond (by omega)]
    exact ⟨_, _, rfl, (offRow_afterLast view).toBlank, rfl, rfl⟩

theorem absolute_lands (hdecodes : start.Decodes)
    (hundisturbed : start.Undisturbed setting) {row : Int} (hrow : 0 < row) :
    start.Lands (absolute setting (start.positioned view located) row)
      (.place start.count row) := by
  obtain ⟨seat, entries, habsolute, hseated⟩ :=
    @absolute_seats _ _ view located hdecodes hundisturbed _ hrow
  exact ⟨seat, entries, habsolute, hseated.viewAt⟩

theorem nextInternal_row_lands (hdecodes : start.Decodes)
    (hundisturbed : start.Undisturbed setting) (index : Fin start.count) :
    start.Lands
      (nextInternal setting (start.positioned (start.rowView index) located))
      (.place start.count (index + 2)) := by
  unfold nextInternal
  rw [if_neg (by simp [hundisturbed.alive]), if_neg (by simp [rowView]),
    if_neg (by simp [rowView])]
  by_cases hinside : (index : Int) + 1 < start.count
  · obtain ⟨seat, entries, hmove, -, -, hview⟩ :=
      @moveToIndex_seats _ _ hdecodes hundisturbed.calloc
        (start.rowView index) located (index + 2) (by omega)
    have hindex : (index : Int) + 2 - 1 = index + 1 := by omega
    have hnumber : (start.positioned (start.rowView index) located).nextNumber =
        index + 2 := by
      simp only [nextNumber, positioned_view, rowView]
      omega
    have hmax : (index : Int) + 1 ≠ int32Max := by
      have hle : (start.count : Int) ≤ int32Max := start.rowCount_le
      omega
    have hcursor :
        (start.positioned (start.rowView index) located).view.cursor + 1 =
          index + 1 := rfl
    rw [if_pos (by simpa [rowView] using hinside),
      if_neg (by simpa [rowView] using hmax), hcursor, ← hindex, hmove]
    simp only [hnumber]
    exact ⟨_, _, by rw [Position.onRow_place (by omega)]; rfl, hview⟩
  · rw [if_neg (by simpa [rowView] using hinside),
      if_neg (by simp [hundisturbed.buffered]),
      Position.place_beyond (by omega)]
    exact ⟨_, _, rfl, viewAt_afterLast _ _⟩

/-- The move from before the first row. -/
theorem nextInternal_entering_lands (hdecodes : start.Decodes)
    (hundisturbed : start.Undisturbed setting) (hblank : Blank view)
    (hbefore : view.atBeforeFirst = true) (hafter : view.atAfterLast = false) :
    start.Lands (nextInternal setting (start.positioned view located))
      (.place start.count 1) := by
  unfold nextInternal
  rw [if_neg (by simp [hundisturbed.alive]), if_neg (by simp [hafter]),
    if_pos (by simpa using hbefore)]
  have hentering : (start.positioned view located).withView
      view.leaveBeforeFirst =
        start.positioned view.leaveBeforeFirst located := rfl
  simp only [positioned_view, hentering]
  by_cases hpos : 0 < start.count
  · obtain ⟨seat, entries, hmove, hfirst, hlast, hview⟩ :=
      @moveToIndex_seats _ _ hdecodes hundisturbed.calloc view.leaveBeforeFirst
        located 1 (by omega)
    have hnumbered : { seat with absoluteRowNum := 1 } = seat.numbered 1 := by
      simp [View.numbered, hfirst, hlast]
    rw [Int.sub_self] at hmove
    rw [if_pos ⟨by rw [hblank.cursor]; decide, by simpa using hpos,
      hblank.absoluteRowNum⟩, hmove]
    refine ⟨_, _, ?_, hview⟩
    rw [Position.onRow_place (by omega), ← hnumbered]
    rfl
  · rw [if_neg fun hrows => hpos (by simpa using hrows.2.1)]
    exact first_lands hdecodes hundisturbed fun _ => hblank.leaveBeforeFirst

/-- After the last row nothing moves. -/
theorem nextInternal_staying_lands
    (hundisturbed : start.Undisturbed setting)
    (hlast : view.atAfterLast = true) (hat : start.ViewAt view located .after) :
    start.Lands (nextInternal setting (start.positioned view located))
      .after := by
  unfold nextInternal
  rw [if_neg (by simp [hundisturbed.alive]), if_pos (by simpa using hlast)]
  exact ⟨view, located, rfl, hat⟩

theorem nextInternal_lands (hdecodes : start.Decodes)
    (hundisturbed : start.Undisturbed setting)
    (hat : start.ViewAt view located position) :
    start.Lands (nextInternal setting (start.positioned view located))
      (.place start.count (position.number + 1)) := by
  cases position with
  | row index =>
      obtain ⟨rfl, -⟩ := hat
      have hnumber : (Position.row index).number + 1 = (index : Int) + 2 := by
        simp only [Position.number]
        omega
      rw [hnumber]
      exact nextInternal_row_lands hdecodes hundisturbed index
  | before =>
      obtain ⟨hoff, hflags⟩ := hat
      cases hlast : view.atAfterLast with
      | false =>
          have hbefore := hoff.flag.resolve_right (by simp [hlast])
          exact nextInternal_entering_lands hdecodes hundisturbed hoff.toBlank
            hbefore hlast
      | true =>
          have hempty : start.count = 0 := by
            by_contra hne
            simp [(hflags (Nat.pos_of_ne_zero hne)).2] at hlast
          rw [Position.place_beyond (by simp [Position.number, hempty])]
          exact nextInternal_staying_lands hundisturbed hlast
            (hoff.viewAt hempty rfl)
  | after =>
      obtain ⟨hoff, hflags⟩ := hat
      rw [Position.place_beyond (by simp only [Position.number]; omega)]
      cases hlast : view.atAfterLast with
      | true =>
          exact nextInternal_staying_lands hundisturbed hlast
            ⟨hoff, hflags⟩
      | false =>
          have hbefore := hoff.flag.resolve_right (by simp [hlast])
          have hempty : start.count = 0 := by
            by_contra hne
            simp [(hflags (Nat.pos_of_ne_zero hne)).2] at hlast
          have hlands := @nextInternal_entering_lands _ _ _ located hdecodes
            hundisturbed hoff.toBlank hbefore hlast
          rwa [Position.place_beyond (by omega)] at hlands

theorem previous_row_lands (hdecodes : start.Decodes)
    (hundisturbed : start.Undisturbed setting) (index : Fin start.count) :
    start.Lands
      (previous setting (start.positioned (start.rowView index) located))
      (.place start.count index) := by
  have hnumber : (start.positioned (start.rowView index) located).rowNumber =
      index + 1 :=
    rowNumber_of_pos rfl rfl (Int.natCast_pos.mpr index.val.succ_pos)
  unfold previous
  rw [if_neg (by simp [hundisturbed.alive]), if_neg (by simp [rowView]),
    hnumber]
  by_cases hfirst : (index : Int) + 1 ≤ 1
  · rw [if_pos hfirst, Position.place_nonpos (by omega)]
    exact ⟨_, _, rfl, viewAt_beforeFirst _ _⟩
  · have hinside : (0 : Int) < index ∧ (index : Int) ≤ start.count := by omega
    obtain ⟨seat, entries, hmove, -, -, hview⟩ :=
      moveToIndex_seats hdecodes hundisturbed.calloc (start.rowView index)
        located hinside
    have hcursor :
        (start.positioned (start.rowView index) located).view.cursor - 1 =
          index - 1 := rfl
    rw [if_neg hfirst, if_pos (.inl hundisturbed.buffered), hcursor, hmove]
    simp only [Int.add_sub_cancel]
    exact ⟨_, _, by rw [Position.onRow_place hinside]; rfl, hview⟩

/-- Off the rows a step back goes to the last row or before the first. -/
theorem previous_offRow_lands (hdecodes : start.Decodes)
    (hundisturbed : start.Undisturbed setting) (hoff : OffRow view)
    (htarget : Position.place start.count wanted =
      if view.atAfterLast then .place start.count start.count else .before) :
    start.Lands (previous setting (start.positioned view located))
      (.place start.count wanted) := by
  have hzero : (start.positioned view located).rowNumber = 0 :=
    rowNumber_of_flag hoff.flag
  unfold previous
  rw [if_neg (by simp [hundisturbed.alive]), htarget]
  cases hlast : view.atAfterLast with
  | true =>
      rw [if_pos (by simpa using hlast), if_pos rfl]
      exact last_lands hdecodes hundisturbed fun _ => hoff.toBlank
  | false =>
      rw [if_neg (by simp [hlast]), if_pos (by rw [hzero]; decide),
        if_neg (by simp)]
      exact ⟨_, _, rfl, viewAt_beforeFirst _ _⟩

theorem previous_lands (hdecodes : start.Decodes)
    (hundisturbed : start.Undisturbed setting)
    (hat : start.ViewAt view located position) :
    start.Lands (previous setting (start.positioned view located))
      (.place start.count (position.number - 1)) := by
  cases position with
  | row index =>
      obtain ⟨rfl, -⟩ := hat
      have hnumber : (Position.row index).number - 1 = (index : Int) := by
        simp [Position.number]
      rw [hnumber]
      exact previous_row_lands hdecodes hundisturbed index
  | before =>
      obtain ⟨hoff, hflags⟩ := hat
      refine previous_offRow_lands hdecodes hundisturbed hoff ?_
      rw [Position.place_nonpos (by simp [Position.number])]
      split
      · next hlast =>
        have hempty : start.count = 0 := by
          by_contra hne
          simp [(hflags (Nat.pos_of_ne_zero hne)).2] at hlast
        rw [Position.place_nonpos (by omega)]
      · rfl
  | after =>
      obtain ⟨hoff, hflags⟩ := hat
      refine previous_offRow_lands hdecodes hundisturbed hoff ?_
      have hnumber : (Position.after : Position start.count).number - 1 =
          (start.count : Int) := by
        simp [Position.number]
      rw [hnumber]
      split
      · rfl
      · next hlast =>
        have hempty : start.count = 0 := by
          by_contra hne
          exact hlast (hflags (Nat.pos_of_ne_zero hne)).2
        rw [Position.place_nonpos (by omega)]

theorem fetch_lands (hopened : start.Opened)
    (hundisturbed : start.Undisturbed setting)
    (hlands : start.Lands
      (nextInternal setting (start.positioned view located)) position) :
    ∃ view' located', fetch setting (start.positioned view located) =
        (if position.onRow then .ok else .eof,
          start.positioned view' located') ∧
      start.ViewAt view' located' position := by
  obtain ⟨view', located', hnext, hat⟩ := hlands
  refine ⟨view', located', ?_, hat⟩
  have hstatus (view : View) (located : Option (List Located)) :
      (start.positioned view located).fetchStatus = .ok := hopened.fetchStatus
  have herror : ¬((start.positioned view located).sawError = true ∨
      (start.positioned view located).errorCode ≠ 0) := by
    rintro (hsaw | hcode)
    · exact absurd (hopened.sawError.symm.trans hsaw) (by decide)
    · exact hcode hopened.errorCode
  unfold fetch
  rw [if_neg (by simp [hundisturbed.kept]), if_neg (by simp [hstatus]),
    if_neg (by simp [hundisturbed.alive]), if_neg herror, hnext]
  exact if_neg (by simp [hstatus])

/-- Every call but a relative move goes where the position goes. -/
theorem move_lands (hopened : start.Opened) (hdecodes : start.Decodes)
    (hundisturbed : start.Undisturbed setting)
    (hat : start.ViewAt view located position) (call : Move)
    (hcall : ∀ offset, call ≠ .relative offset) :
    ∃ view' located', (start.positioned view located).move setting call =
        ((position.step call).1, start.positioned view' located') ∧
      start.ViewAt view' located' (position.step call).2 := by
  have hblank : start.count = 0 → Blank view := fun hempty =>
    (hat.offRow_of_empty hempty).toBlank
  have hflagged {returned : Bool × Result} {target : Int}
      (hlands : start.Lands returned (.place start.count target)) :
      ∃ view' located', flagged returned =
          (.flag (Position.place start.count target).onRow,
            start.positioned view' located') ∧
        start.ViewAt view' located' (.place start.count target) := by
    obtain ⟨view', located', rfl, hview⟩ := hlands
    exact ⟨view', located', rfl, hview⟩
  have hfetch := fetch_lands hopened hundisturbed
    (nextInternal_lands hdecodes hundisturbed hat)
  cases call with
  | fetch =>
      obtain ⟨view', located', hreturned, hview⟩ := hfetch
      exact ⟨view', located', by rw [move, hreturned]; rfl, hview⟩
  | next =>
      obtain ⟨view', located', hreturned, hview⟩ := hfetch
      refine ⟨view', located', ?_, hview⟩
      rw [move, next, hreturned, flagged]
      cases hrow : (Position.place start.count (position.number + 1)).onRow <;>
        simp [Position.step, Position.target, Move.report, hrow]
  | first => exact hflagged (first_lands hdecodes hundisturbed hblank)
  | last => exact hflagged (last_lands hdecodes hundisturbed hblank)
  | absolute wanted =>
      rcases lt_or_ge 0 wanted.toInt with hpos | hnonpos
      · have hlands := hflagged
          (@absolute_lands _ _ view located hdecodes hundisturbed _ hpos)
        have hstep : position.step (.absolute wanted) =
            (.flag (Position.place start.count wanted.toInt).onRow,
              .place start.count wanted.toInt) := by
          simp only [Position.step, Position.target]
          rw [if_neg (Int.not_le.mpr hpos)]
          rfl
        rw [hstep]
        exact hlands
      · refine ⟨view, located, ?_, ?_⟩
        · simp only [move, absolute, positioned_isClosedByCommit,
            hundisturbed.alive, Position.step, Position.target]
          rw [if_neg (by simp), if_pos hnonpos, if_pos hnonpos]
          rfl
        · simpa [Position.step, Position.target, hnonpos] using hat
  | relative offset => exact absurd rfl (hcall offset)
  | previous => exact hflagged (previous_lands hdecodes hundisturbed hat)

theorem Opened.viewAt (hopened : start.Opened) :
    start.ViewAt start.view start.located .before := by
  rw [ViewAt, hopened.view]
  exact ⟨⟨⟨rfl, rfl, rfl, rfl⟩, .inl rfl⟩, fun _ => ⟨rfl, rfl⟩⟩

theorem afterMoves_positioned (hopened : start.Opened)
    (hdecodes : start.Decodes) {calls : List (Setting × Move)}
    (hcalls : ∀ call ∈ calls, start.Undisturbed call.1 ∧
      ∀ offset, call.2 ≠ .relative offset)
    (hat : start.ViewAt view located position) :
    ∃ view' located',
      (start.positioned view located).afterMoves calls =
        start.positioned view' located' ∧
      start.ViewAt view' located' (position.afterMoves (calls.map (·.2))) := by
  induction calls generalizing view located position with
  | nil => exact ⟨view, located, rfl, hat⟩
  | cons call calls ih =>
      obtain ⟨hundisturbed, hcall⟩ := hcalls call (by simp)
      obtain ⟨view', located', hmove, hview⟩ :=
        move_lands hopened hdecodes hundisturbed hat call.2 hcall
      have hrest := ih (fun other member => hcalls other (by simp [member]))
        hview
      rw [afterMoves, hmove]
      exact hrest

/-- The accessors read the row that the position names. -/
theorem ViewAt.shows (hopened : start.Opened)
    (hundisturbed : start.Undisturbed setting)
    (hat : start.ViewAt view located position) :
    start.Shows setting (start.positioned view located) position := by
  have hoffShows (hoff : OffRow view) :
      (start.positioned view located).rowNumber = 0 ∧ view.tuple = none ∧
        ∀ column, ∃ status,
          currentSpan setting (start.positioned view located) column =
            .error status := by
    refine ⟨rowNumber_of_flag hoff.flag, hoff.tuple, fun column => ?_⟩
    unfold currentSpan
    split
    · exact ⟨_, rfl⟩
    · rw [if_neg fun h => h hopened.fetchStatus,
        if_pos (.inr (.inl (by simp [hoff.currentRow])))]
      exact ⟨_, rfl⟩
  cases position with
  | before => exact hoffShows hat.1
  | after => exact hoffShows hat.1
  | row index =>
      obtain ⟨rfl, entries, rfl, hentries⟩ := hat
      refine ⟨rowNumber_of_pos rfl rfl
        (Int.natCast_pos.mpr index.val.succ_pos), rfl, rfl, fun column => ?_⟩
      have hcolumns : (start.positioned (start.rowView index)
          (some entries)).columns = start.columns := rfl
      have hlength := locateRow_length hentries
      unfold currentSpan columnOf
      rw [hcolumns, hentries]
      cases hcolumn : start.columns[column]? with
      | none => simp
      | some info =>
          have hlt : column < entries.length := by
            rw [hlength]
            exact (List.getElem?_eq_some_iff.mp hcolumn).1
          have hentry : entries[column]? = some entries[column] :=
            List.getElem?_eq_getElem hlt
          have hinside := locateRow_inside hentries _ (List.getElem_mem hlt)
          have hbounds : ¬(start.rows.val[index].length <
                entries[column].start ∨
              start.rows.val[index].length - entries[column].start <
                entries[column].length) := by
            omega
          simp only [hentry]
          rw [if_neg fun h => h hopened.fetchStatus,
            if_neg (by simp [rowView, hundisturbed.alive])]
          simp only [positioned, rowView, Option.bind_some, hentry]
          rw [if_neg hbounds]

/-- However a result is navigated, the last call returns what the position model
returns, and the accessors then show the position's row. -/
theorem buffered_refines (hopened : start.Opened) (hdecodes : start.Decodes)
    (calls : List (Setting × Move)) (setting : Setting) (call : Move)
    (hcalls : ∀ entry ∈ calls ++ [(setting, call)],
      start.Undisturbed entry.1 ∧ ∀ offset, entry.2 ≠ .relative offset) :
    let position : Position start.count :=
      Position.before.afterMoves (calls.map (·.2))
    let returned := (start.afterMoves calls).move setting call
    returned.1 = (position.step call).1 ∧
      start.Shows setting returned.2 (position.step call).2 := by
  intro position returned
  obtain ⟨hundisturbed, hcall⟩ := hcalls (setting, call) (by simp)
  obtain ⟨view, located, hcalled, hat⟩ := afterMoves_positioned hopened hdecodes
    (fun entry member => hcalls entry (List.mem_append_left _ member))
    hopened.viewAt
  obtain ⟨view', located', hmove, hview⟩ :=
    move_lands hopened hdecodes hundisturbed hat call hcall
  have hreturned : returned =
      ((position.step call).1, start.positioned view' located') := by
    rw [← hmove, ← hcalled]
    rfl
  rw [hreturned]
  exact ⟨rfl, hview.shows hopened hundisturbed⟩

/-- A result of two INTEGER rows, as no connection owns it. -/
def twoIntegers : Result where
  columns := [⟨typeInt, 4⟩]
  rowsAffected := 2
  generatedSerial := 0
  generatedSerial8 := 0
  hasGeneratedSerial := false
  hasGeneratedSerial8 := false
  statementType := selectStatement
  warnings := 0
  stmtId := -1
  cursorType := .forwardOnly
  holdability := .closeAtCommit
  commitEpoch := 0
  rollbackEpoch := 0
  rows := ⟨[[0, 0, 0, 7], [0, 0, 0, 8]], by decide⟩
  view := .initial
  eof := true
  errorCode := 0
  lastWasNull := false
  sawDone := true
  sawError := false
  located := none
  fetchStatus := .ok

def unowned : Setting where
  owner := none
  calloc := true
  scrollFetch := fun _ _ => ⟨.ioError, ⟨[], no_rows_le⟩, none, false, 0, false⟩

theorem twoIntegers_opened : twoIntegers.Opened := ⟨rfl, rfl, rfl, rfl⟩

theorem twoIntegers_decodes : twoIntegers.Decodes := by
  refine ⟨by decide, fun row member => ?_⟩
  rcases List.mem_cons.mp member with rfl | member
  · exact ⟨_, rfl⟩
  · cases List.mem_singleton.mp member
    exact ⟨_, rfl⟩

theorem buffered_refines_twoIntegers :
    ((twoIntegers.afterMoves [(unowned, .fetch), (unowned, .last)]).move
      unowned .fetch).1 = .returned .eof := by
  have hrefines := buffered_refines twoIntegers_opened twoIntegers_decodes
    [(unowned, .fetch), (unowned, .last)] unowned .fetch fun entry member => by
      have hsetting : entry.1 = unowned ∧ ∀ offset, entry.2 ≠ .relative offset := by
        simp only [List.cons_append, List.nil_append, List.mem_cons,
          List.not_mem_nil, or_false] at member
        rcases member with rfl | rfl | rfl <;> exact ⟨rfl, nofun⟩
      rw [hsetting.1]
      exact ⟨⟨rfl, rfl, rfl, rfl⟩, hsetting.2⟩
  exact hrefines.1

end Result

end Libsqli
