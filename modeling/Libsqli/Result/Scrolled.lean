import Libsqli.Result.Answers
import Libsqli.Result.Frame

namespace Libsqli.Result

/-! What a move on a server-scrollable result can do. -/

variable {server : List (List UInt8)} {result : Result} {setting : Setting}
  {number : Int}

/-- A server that holds the rows.  A reply that is received brings rows from the
requested one on; the last row comes with the number of rows. -/
structure Serves (server : List (List UInt8))
    (scrollFetch : ScrollType → Int → ScrollReply) : Prop where
  absolute : ∀ origin : Nat,
    (scrollFetch .absolute (origin + 1)).status = .ok →
      (scrollFetch .absolute (origin + 1)).rows.val <+: server.drop origin
  last : (scrollFetch .last 0).status = .ok →
    (scrollFetch .last 0).rows.val <+: server.drop (server.length - 1) ∧
      (scrollFetch .last 0).rowsAffected = some (server.length : Int)

/-- A position on a retained row that is the server's row of a given number. -/
structure OnServer (server : List (List UInt8)) (number : Int)
    (result : Result) : Prop where
  beforeFirst : result.view.atBeforeFirst = false
  afterLast : result.view.atAfterLast = false
  numbered : result.view.absoluteRowNum = number
  le_max : number ≤ int32Max
  row : ∃ row, result.rowAt result.view.cursor = some row ∧
    result.view.tuple = some row
  origin : ∃ origin : Nat, result.rows.val <+: server.drop origin ∧
    number = origin + result.view.cursor + 1

/-- The positions that moves lead to. -/
inductive Stands (server : List (List UInt8)) (result : Result) : Prop where
  | off (hoff : OffRow result.view)
  | on (number : Int) (hon : OnServer server number result)

/-- How a call ends that asks for the server's row of a given number. -/
inductive Landing (server : List (List UInt8)) (number : Int) :
    Bool × Result → Prop where
  | missed (next : Result) (hoff : OffRow next.view) :
      Landing server number (false, next)
  | landed (next : Result) (hon : OnServer server number next) :
      Landing server number (true, next)

/-- A call may also leave the result where it is. -/
inductive Arrival (server : List (List UInt8)) (number : Int)
    (result : Result) (returned : Bool × Result) : Prop where
  | still (success : Bool)
      (hsuccess : success = true → OnServer server number result)
      (hreturned : returned = (success, result))
  | moved (hlanding : Landing server number returned)

theorem OnServer.cursor_nonneg (hon : OnServer server number result) :
    0 ≤ result.view.cursor := by
  obtain ⟨row, hrow, _⟩ := hon.row
  exact rowAt_nonneg hrow

theorem OnServer.pos (hon : OnServer server number result) : 0 < number := by
  obtain ⟨origin, _, hnumber⟩ := hon.origin
  have hcursor := hon.cursor_nonneg
  omega

theorem OnServer.rowNumber (hon : OnServer server number result) :
    result.rowNumber = number := by
  rw [rowNumber_of_pos hon.beforeFirst hon.afterLast
    (by rw [hon.numbered]; exact hon.pos), hon.numbered]

/-- The exposed tuple is the server's row. -/
theorem OnServer.tuple (hon : OnServer server number result) :
    ∃ row, result.view.tuple = some row ∧
      server[(number - 1).toNat]? = some row := by
  obtain ⟨row, hrow, htuple⟩ := hon.row
  obtain ⟨origin, hretained, hnumber⟩ := hon.origin
  refine ⟨row, htuple, ?_⟩
  have hcursor := hon.cursor_nonneg
  have hindex : (number - 1).toNat = origin + result.view.cursor.toNat := by
    omega
  have hstored : result.rows.val[result.view.cursor.toNat]? = some row := by
    unfold rowAt at hrow
    rwa [if_neg (Int.not_lt.mpr hcursor)] at hrow
  obtain ⟨rest, hrest⟩ := hretained
  rw [hindex, ← List.getElem?_drop, ← hrest,
    List.getElem?_append_left (List.getElem?_eq_some_iff.mp hstored).1]
  exact hstored

/-- A retained row that was read, under its number on the server. -/
theorem onServer_numbered {origin : Nat} {index : Int} {row : List UInt8}
    (hretained : result.rows.val <+: server.drop origin)
    (hrow : result.rowAt index = some row) (located : List Layout.Located)
    (hnumber : number = origin + index + 1) (hmax : number ≤ int32Max) :
    OnServer server number ((result.settled index row located).withView
      ((result.settled index row located).view.numbered number)) :=
  ⟨rfl, rfl, rfl, hmax, ⟨row, hrow, rfl⟩, origin, hretained, hnumber⟩

theorem offRow_refused : OffRow View.initial.refused :=
  ⟨⟨rfl, rfl, rfl, rfl⟩, .inr rfl⟩

/-- A fetch from the server lands on the first row it brings. -/
theorem serverRefetch_landing
    (hscroll : result.isServerScrollable setting = true)
    {scroll : ScrollType} {index : Int} {origin : Nat}
    (hretained : (setting.scrollFetch scroll index).status = .ok →
      (setting.scrollFetch scroll index).rows.val <+: server.drop origin)
    (hposition : (setting.scrollFetch scroll index).status = .ok →
      (setting.scrollFetch scroll index).rows.val ≠ [] →
      (result.clearRows.receiveScroll
        (setting.scrollFetch scroll index)).scrollPosition scroll index =
          origin + 1)
    (hmax : (origin : Int) + 1 ≤ int32Max) :
    Landing server (origin + 1)
      (serverRefetch setting result scroll index) := by
  unfold serverRefetch
  rw [if_neg (by simp [hscroll])]
  simp only
  split
  · exact .missed _ offRow_refused
  · next hreceived =>
    rw [not_or, not_not, Int.not_le] at hreceived
    obtain ⟨hstatus, hcount⟩ := hreceived
    generalize hreply : setting.scrollFetch scroll index = reply at *
    have hattempt := moveToIndex_attempt setting.calloc
      ((result.clearRows.receiveScroll reply).withView
        ((result.clearRows.receiveScroll reply).view.numbered
          ((result.clearRows.receiveScroll reply).scrollPosition scroll index)))
      0
    generalize moveToIndex setting.calloc _ 0 = returned at hattempt
    have hrows : reply.rows.val ≠ [] := by
      intro hempty
      have hzero : (result.clearRows.receiveScroll reply).rowCount = 0 := by
        simp [rowCount, receiveScroll, hempty]
      omega
    cases hattempt with
    | outside hrow =>
        rcases rowAt_eq_none_iff.mp hrow with habsurd | habsurd
        · exact absurd habsurd (by decide)
        · rw [rowCount_withView] at habsurd
          omega
    | read row located hrow hlocate =>
        refine .landed _ ⟨rfl, rfl, hposition hstatus hrows, hmax,
          ⟨row, hrow, rfl⟩, origin, hretained hstatus, ?_⟩
        exact (Int.add_zero _).symm ▸ rfl
    | error row status hrow hlocate => exact .missed _ offRow_closed

theorem absolute_fetch (hserves : Serves server setting.scrollFetch)
    (hscroll : result.isServerScrollable setting = true) {row : Int}
    (hrow : 0 < row) (hmax : row ≤ int32Max) :
    Landing server row (serverRefetch setting result .absolute row) := by
  obtain ⟨origin, rfl⟩ : ∃ origin : Nat, row = origin + 1 :=
    ⟨(row - 1).toNat, by omega⟩
  exact serverRefetch_landing hscroll (hserves.absolute origin)
    (fun _ _ => rfl) hmax

theorem OnServer.number_le (hon : OnServer server number result) :
    number ≤ server.length := by
  obtain ⟨row, _, hrow⟩ := hon.tuple
  have hlt := (List.getElem?_eq_some_iff.mp hrow).1
  have hpos := hon.pos
  omega

/-- Nothing lands on an empty server, whatever was asked for. -/
theorem Landing.of_empty (hempty : server.length = 0)
    {returned : Bool × Result} (hlanding : Landing server number returned)
    (other : Int) : Landing server other returned := by
  cases hlanding with
  | missed next hoff => exact .missed next hoff
  | landed next hon =>
      have hpos := hon.pos
      have hle := hon.number_le
      omega

theorem last_fetch (hserves : Serves server setting.scrollFetch)
    (hscroll : result.isServerScrollable setting = true)
    (hsize : (server.length : Int) ≤ int32Max) :
    Landing server server.length (serverRefetch setting result .last 0) := by
  have hretained := fun hstatus => (hserves.last hstatus).1
  have hlanding := serverRefetch_landing hscroll hretained
    (fun hstatus hrows => by
      have hcount := (hserves.last hstatus).2
      have hpos : 0 < server.length := by
        rcases Nat.eq_zero_or_pos server.length with hzero | hpos
        · have hnone := List.length_eq_zero_iff.mp hzero
          rw [hnone] at hretained
          exact absurd (List.prefix_nil.mp (hretained hstatus)) hrows
        · exact hpos
      simp only [scrollPosition, receiveScroll, hcount, Option.getD_some]
      rw [if_pos (by omega), toInt32_eq_of_range (by omega) hsize]
      omega) (by unfold int32Max at *; omega)
  rcases Nat.eq_zero_or_pos server.length with hzero | hpos
  · exact hlanding.of_empty hzero _
  · have hnumber : ((server.length - 1 : Nat) : Int) + 1 = server.length := by
      omega
    rwa [hnumber] at hlanding

theorem first_landing (hserves : Serves server setting.scrollFetch)
    (hscroll : result.isServerScrollable setting = true) :
    Landing server 1 (first setting result) := by
  unfold first
  split
  · exact .missed _ offRow_closed
  · have hfetch := absolute_fetch hserves hscroll Int.one_pos (by decide)
    generalize serverRefetch setting result .absolute 1 = returned at hfetch
    cases hfetch with
    | missed next hoff => exact .missed _ hoff.unpositioned
    | landed next hon => exact .landed next hon

theorem last_landing (hserves : Serves server setting.scrollFetch)
    (hscroll : result.isServerScrollable setting = true)
    (hsize : (server.length : Int) ≤ int32Max) :
    Landing server server.length (last setting result) := by
  unfold last
  split
  · exact .missed _ offRow_closed
  · have hfetch := last_fetch hserves hscroll hsize
    generalize serverRefetch setting result .last 0 = returned at hfetch
    cases hfetch with
    | missed next hoff => exact .missed _ hoff.unpositioned
    | landed next hon => exact .landed next hon

theorem absolute_landing (hserves : Serves server setting.scrollFetch)
    (hscroll : result.isServerScrollable setting = true) {row : Int}
    (hrow : 0 < row) (hmax : row ≤ int32Max) :
    Landing server row (absolute setting result row) := by
  unfold absolute
  split
  · exact .missed _ offRow_closed
  · have hfetch := absolute_fetch hserves hscroll hrow hmax
    rw [if_neg (Int.not_le.mpr hrow)]
    generalize serverRefetch setting result .absolute row = returned at hfetch
    cases hfetch with
    | missed next hoff => exact .missed _ (offRow_afterLast _)
    | landed next hon => exact .landed next hon

theorem absolute_arrival (hserves : Serves server setting.scrollFetch)
    (hscroll : result.isServerScrollable setting = true) {row : Int}
    (hmax : row ≤ int32Max) :
    Arrival server row result (absolute setting result row) := by
  rcases lt_or_ge 0 row with hpos | hrow
  · exact .moved (absolute_landing hserves hscroll hpos hmax)
  · unfold absolute
    split
    · exact .moved (.missed _ offRow_closed)
    · exact .still false nofun rfl

theorem rowNumber_off (hoff : OffRow result.view) : result.rowNumber = 0 :=
  rowNumber_of_flag hoff.flag

/-- The sum of a row number and an offset that is not too small for `int` is
only taken for positive when it is exact. -/
theorem toInt32_sum {offset : Int32} (hnumber : 0 ≤ number)
    (hle : number ≤ int32Max) (hpos : 0 < toInt32 (number + offset.toInt)) :
    toInt32 (number + offset.toInt) = number + offset.toInt := by
  have hlower := Int32.le_toInt offset
  have hupper := Int32.toInt_lt offset
  unfold toInt32 at hpos ⊢
  unfold int32Max at hle
  rw [Int.bmod_def] at hpos ⊢
  split at hpos
  · omega
  · omega

theorem toInt32_le (value : Int) : toInt32 value ≤ int32Max := by
  have hlt := @Int.bmod_lt value (2 ^ 32) (by decide)
  unfold toInt32 int32Max
  omega

theorem Stands.rowNumber_bounds (hstands : Stands server result) :
    0 ≤ result.rowNumber ∧ result.rowNumber ≤ int32Max := by
  cases hstands with
  | off hoff =>
      rw [rowNumber_off hoff]
      decide
  | on number hon =>
      rw [hon.rowNumber]
      exact ⟨hon.pos.le, hon.le_max⟩

theorem relative_arrival (hserves : Serves server setting.scrollFetch)
    (hscroll : result.isServerScrollable setting = true)
    (hstands : Stands server result) (offset : Int32) :
    Arrival server (result.rowNumber + offset.toInt) result
      (relative setting result offset.toInt) := by
  unfold relative
  split
  · exact .moved (.missed _ offRow_closed)
  · split
    · next hzero =>
      refine .still _ (fun hsuccess => ?_) rfl
      cases hstands with
      | off hoff => simp [hoff.tuple] at hsuccess
      | on number hon =>
          rw [hzero, Int.add_zero, hon.rowNumber]
          exact hon
    · split
      · exact .still false nofun rfl
      · split
        · exact .moved (.missed _ (offRow_beforeFirst _))
        · next hpos =>
          have hsum := toInt32_sum hstands.rowNumber_bounds.1
            hstands.rowNumber_bounds.2 (Int.not_le.mp hpos)
          have hlanding := absolute_landing hserves hscroll
            (Int.not_le.mp hpos) (toInt32_le _)
          rw [hsum] at hlanding ⊢
          exact .moved hlanding

/-- The number that `sqli_result_previous` asks for. -/
def previousNumber (server : List (List UInt8)) (result : Result) : Int :=
  if result.view.atAfterLast then server.length else result.rowNumber - 1

theorem previous_arrival (hserves : Serves server setting.scrollFetch)
    (hscroll : result.isServerScrollable setting = true)
    (hstands : Stands server result)
    (hsize : result.view.atAfterLast = true →
      (server.length : Int) ≤ int32Max) :
    Arrival server (previousNumber server result) result
      (previous setting result) := by
  unfold previous
  split
  · exact .moved (.missed _ offRow_closed)
  · split
    · next hafter =>
      rw [previousNumber, if_pos hafter]
      exact .moved (last_landing hserves hscroll (hsize hafter))
    · next hafter =>
      split
      · exact .moved (.missed _ (offRow_beforeFirst _))
      · next hnumber =>
        rw [previousNumber, if_neg hafter]
        have hmax : result.rowNumber - 1 ≤ int32Max := by
          have hle := hstands.rowNumber_bounds.2
          omega
        have hpos : 0 < result.rowNumber - 1 := by omega
        obtain ⟨number, hon⟩ : ∃ number, OnServer server number result := by
          cases hstands with
          | off hoff =>
              rw [rowNumber_off hoff] at hnumber
              exact absurd (by decide) hnumber
          | on number hon => exact ⟨number, hon⟩
        split
        · have hattempt := moveToIndex_attempt setting.calloc result
            (result.view.cursor - 1)
          generalize moveToIndex setting.calloc result (result.view.cursor - 1) =
            returned at hattempt
          cases hattempt with
          | outside hrow =>
              exact .moved (absolute_landing hserves hscroll hpos hmax)
          | read row located hrow hlocate =>
              obtain ⟨origin, hretained, horigin⟩ := hon.origin
              refine .moved (.landed _ (onServer_numbered hretained hrow located ?_
                hmax))
              rw [hon.rowNumber, horigin]
              omega
          | error row status hrow hlocate =>
              have hfailed : (result.failed setting.calloc
                  status).isServerScrollable setting = true := hscroll
              exact .moved (absolute_landing hserves hfailed hpos hmax)
        · exact .moved (absolute_landing hserves hscroll hpos hmax)

/-- Before the first row, the retained rows are the server's first ones. -/
def FromFirst (server : List (List UInt8)) (result : Result) : Prop :=
  result.view.atBeforeFirst = true → result.view.atAfterLast = false →
    result.rows.val <+: server

theorem nextInternal_arrival (hserves : Serves server setting.scrollFetch)
    (hscroll : result.isServerScrollable setting = true)
    (hstands : Stands server result) (hfirst : FromFirst server result) :
    Arrival server (result.rowNumber + 1) result
      (nextInternal setting result) := by
  unfold nextInternal
  split
  · exact .moved (.missed _ offRow_closed)
  · split
    · exact .still false nofun rfl
    · next hafter =>
      split
      · next hbefore =>
        rw [rowNumber_of_flag (.inl hbefore)]
        simp only
        split
        · next hrows =>
          have hattempt := moveToIndex_attempt setting.calloc
            (result.withView result.view.leaveBeforeFirst) 0
          generalize moveToIndex setting.calloc
            (result.withView result.view.leaveBeforeFirst) 0 = returned
            at hattempt
          cases hattempt with
          | outside hrow =>
              rcases rowAt_eq_none_iff.mp hrow with habsurd | hempty
              · exact absurd habsurd (by decide)
              · rw [rowCount_withView] at hempty
                omega
          | read row located hrow hlocate =>
              have hretained := hfirst hbefore (eq_false_of_ne_true hafter)
              exact .moved (.landed _ ⟨rfl, rfl, rfl, by decide,
                ⟨row, hrow, rfl⟩, 0, hretained, rfl⟩)
          | error row status hrow hlocate =>
              exact .moved (.missed _ offRow_closed)
        · exact .moved (first_landing hserves
            (show (result.withView _).isServerScrollable setting = true
              from hscroll))
      · next hbefore =>
        obtain ⟨number, hon⟩ : ∃ number, OnServer server number result := by
          cases hstands with
          | off hoff =>
              rcases hoff.flag with hflag | hflag
              · exact absurd hflag hbefore
              · exact absurd hflag hafter
          | on number hon => exact ⟨number, hon⟩
        have hpos := hon.pos
        have hle := hon.le_max
        have hnumbered := hon.numbered
        rw [hon.rowNumber]
        split
        · split
          · exact .moved (.missed _ offRow_closed)
          · next hroom =>
            have hattempt := moveToIndex_attempt setting.calloc result
              (result.view.cursor + 1)
            generalize moveToIndex setting.calloc result
              (result.view.cursor + 1) = returned at hattempt
            cases hattempt with
            | outside hrow =>
                have hnonneg := hon.cursor_nonneg
                rcases rowAt_eq_none_iff.mp hrow with habsurd | habsurd <;> omega
            | read row located hrow hlocate =>
                obtain ⟨origin, hretained, horigin⟩ := hon.origin
                have hnext : result.nextNumber = number + 1 := by
                  rw [nextNumber, if_pos (by omega), hnumbered]
                rw [← hnext]
                refine .moved (.landed _ (onServer_numbered hretained hrow located
                  ?_ ?_))
                · rw [hnext, horigin]
                  omega
                · rw [hnext]
                  omega
            | error row status hrow hlocate =>
                exact .moved (.missed _ offRow_closed)
        · split
          · split
            · exact .moved (.missed _ offRow_closed)
            · next hroom =>
              rw [hnumbered] at hroom ⊢
              exact .moved (absolute_landing hserves hscroll (by omega)
                (by omega))
          · exact .moved (.missed _ (offRow_afterLast _))

theorem next_arrival (hserves : Serves server setting.scrollFetch)
    (hscroll : result.isServerScrollable setting = true)
    (hstands : Stands server result) (hfirst : FromFirst server result) :
    Arrival server (result.rowNumber + 1) result (next setting result) := by
  unfold next fetch
  split
  · exact .moved (.missed _ offRow_closed)
  · split
    · next hstatus =>
      simp only [beq_eq_false_iff_ne.mpr hstatus]
      exact .moved (.missed _ offRow_closed)
    · next hok =>
      rw [Ne, not_not] at hok
      split
      · exact .moved (.missed _ offRow_closed)
      · split
        · exact .moved (.missed _ offRow_closed)
        · have harrival := nextInternal_arrival hserves hscroll hstands hfirst
          generalize nextInternal setting result = returned at harrival ⊢
          cases harrival with
          | still success hsuccess hreturned =>
              simp only [hreturned, hok]
              refine .still success hsuccess ?_
              cases success <;> rfl
          | moved hlanding =>
              cases hlanding with
              | missed next hoff =>
                  simp only
                  split
                  · next hbad =>
                    simp only [beq_eq_false_iff_ne.mpr hbad]
                    exact .moved (.missed _ offRow_closed)
                  · exact .moved (.missed _ hoff)
              | landed next hon =>
                  simp only
                  split
                  · next hbad =>
                    simp only [beq_eq_false_iff_ne.mpr hbad]
                    exact .moved (.missed _ offRow_closed)
                  · exact .moved (.landed _ hon)

/-- The number of the row that a move asks for. -/
def asked (server : List (List UInt8)) (result : Result) : Move → Int
  | .fetch | .next => result.rowNumber + 1
  | .first => 1
  | .last => server.length
  | .absolute row => row.toInt
  | .relative offset => result.rowNumber + offset.toInt
  | .previous => previousNumber server result

/-- The moves that fetch the server's last row. -/
def asksLast (result : Result) : Move → Bool
  | .last => true
  | .previous => result.view.atAfterLast
  | _ => false

/-- A fetch from before the first row finds the server's first rows retained, and
no move asks for a last row whose number is not an `int`. -/
structure Sound (server : List (List UInt8)) (result : Result) (call : Move) :
    Prop where
  first : call = .fetch ∨ call = .next → FromFirst server result
  last : asksLast result call = true → (server.length : Int) ≤ int32Max

theorem move_arrival (hserves : Serves server setting.scrollFetch)
    (hscroll : result.isServerScrollable setting = true)
    (hstands : Stands server result) {call : Move}
    (hsound : Sound server result call) :
    Arrival server (asked server result call) result
      ((result.move setting call).1.success, (result.move setting call).2) := by
  cases call with
  | fetch =>
      exact next_arrival hserves hscroll hstands (hsound.first (.inl rfl))
  | next =>
      exact next_arrival hserves hscroll hstands (hsound.first (.inr rfl))
  | first => exact .moved (first_landing hserves hscroll)
  | last => exact .moved (last_landing hserves hscroll (hsound.last rfl))
  | absolute row =>
      exact absolute_arrival hserves hscroll (Int.le_of_lt_add_one
        (Int32.toInt_lt row))
  | relative offset => exact relative_arrival hserves hscroll hstands offset
  | previous => exact previous_arrival hserves hscroll hstands hsound.last

end Libsqli.Result
