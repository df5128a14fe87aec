import Libsqli.Result.Buffered
import Libsqli.Result.Scrolled

namespace Libsqli.Result

/-! Runs of moves on a server-scrollable result. -/

variable {server : List (List UInt8)} {start result : Result}
  {setting : Setting}

/-- A result as the query leaves it: before its rows, which are the server's
first ones. -/
structure Fetched (server : List (List UInt8)) (start : Result) : Prop where
  rows : start.rows.val <+: server
  view : start.view = .initial

def SoundAll (server : List (List UInt8)) (result : Result) :
    List (Setting × Move) → Prop
  | [] => True
  | entry :: calls => Sound server result entry.2 ∧
      SoundAll server (result.move entry.1 entry.2).2 calls

theorem Fetched.stands (hfetched : Fetched server start) :
    Stands server start := by
  refine .off ?_
  rw [hfetched.view]
  exact offRow_beforeFirst .initial

theorem Stands.move (hserves : Serves server setting.scrollFetch)
    (hscroll : result.isServerScrollable setting = true)
    (hstands : Stands server result) {call : Move}
    (hsound : Sound server result call) :
    Stands server (result.move setting call).2 := by
  cases move_arrival hserves hscroll hstands hsound with
  | still success hsuccess hreturned =>
      rw [congrArg Prod.snd hreturned]
      exact hstands
  | moved hlanding =>
      generalize (result.move setting call).1.success = success at hlanding
      generalize (result.move setting call).2 = next at hlanding ⊢
      cases hlanding with
      | missed _ hoff => exact .off hoff
      | landed _ hon => exact .on _ hon

theorem Stands.afterMoves (hstands : Stands server result)
    {calls rest : List (Setting × Move)}
    (hserves : ∀ entry ∈ calls, Serves server entry.1.scrollFetch)
    (hscroll : ∀ entry ∈ calls, result.isServerScrollable entry.1 = true)
    (hsound : SoundAll server result (calls ++ rest)) :
    Stands server (result.afterMoves calls) ∧
      SoundAll server (result.afterMoves calls) rest := by
  induction calls generalizing result with
  | nil => exact ⟨hstands, hsound⟩
  | cons entry calls ih =>
      refine ih (hstands.move (hserves entry (by simp)) (hscroll entry (by simp))
        hsound.1) (fun other member => hserves other (by simp [member])) ?_
        hsound.2
      intro other member
      rw [isServerScrollable_congr (terms_move entry.1 result entry.2)]
      exact hscroll other (by simp [member])

/-- A successful move exposes the server's row of the number it asks for, under
that number, in every run that fetches from before the first row only while the
server's first rows are retained. -/
theorem scroll_agrees (hfetched : Fetched server start)
    (calls : List (Setting × Move)) (setting : Setting) (call : Move)
    (hserves : ∀ entry ∈ calls ++ [(setting, call)],
      Serves server entry.1.scrollFetch)
    (hscroll : ∀ entry ∈ calls ++ [(setting, call)],
      start.isServerScrollable entry.1 = true)
    (hsound : SoundAll server start (calls ++ [(setting, call)])) :
    let returned := (start.afterMoves calls).move setting call
    let number := asked server (start.afterMoves calls) call
    returned.1.success = true →
      returned.2.rowNumber = number ∧ 0 < number ∧
        ∃ row, returned.2.view.tuple = some row ∧
          server[(number - 1).toNat]? = some row := by
  intro returned number hsuccess
  obtain ⟨hstands, hlast⟩ := hfetched.stands.afterMoves
    (fun entry member => hserves entry (List.mem_append_left _ member))
    (fun entry member => hscroll entry (List.mem_append_left _ member)) hsound
  have hready : (start.afterMoves calls).isServerScrollable setting = true := by
    rw [isServerScrollable_congr (terms_afterMoves start calls)]
    exact hscroll (setting, call) (by simp)
  have harrival := move_arrival (hserves (setting, call) (by simp)) hready hstands
    hlast.1
  have hon : OnServer server number returned.2 := by
    cases harrival with
    | still success hstill hreturned =>
        have hsame : returned.2 = start.afterMoves calls :=
          congrArg Prod.snd hreturned
        rw [hsame]
        exact hstill ((congrArg Prod.fst hreturned).symm.trans hsuccess)
    | moved hlanding =>
        have hflag : ((start.afterMoves calls).move setting call).1.success =
          true := hsuccess
        rw [hflag] at hlanding
        cases hlanding with
        | landed _ hon => exact hon
  exact ⟨hon.rowNumber, hon.pos, hon.tuple⟩

/-- A server that answers with all the rows it has. -/
def serveAll (server : List (List UInt8)) (scroll : ScrollType) (index : Int) :
    ScrollReply :=
  let rows := match scroll with
    | .absolute => server.drop (index - 1).toNat
    | .last => server.drop (server.length - 1)
  if hrows : (rows.length : Int) ≤ int32Max then
    ⟨.ok, ⟨rows, hrows⟩, some server.length, false, 0, true⟩
  else ⟨.allocFail, ⟨[], no_rows_le⟩, none, false, 0, false⟩

theorem serveAll_serves (server : List (List UInt8)) :
    Serves server (serveAll server) where
  absolute origin := by
    intro hstatus
    unfold serveAll at hstatus ⊢
    simp only [Int.add_sub_cancel, Int.toNat_natCast] at hstatus ⊢
    split at hstatus
    · next hrows =>
      rw [dif_pos hrows]
    · cases hstatus
  last := by
    intro hstatus
    unfold serveAll at hstatus ⊢
    simp only at hstatus ⊢
    split at hstatus
    · next hrows =>
      rw [dif_pos hrows]
      exact ⟨List.prefix_refl _, rfl⟩
    · cases hstatus

/-- Two INTEGER rows behind a scroll cursor. -/
def scrollIntegers : Result :=
  { twoIntegers with cursorType := .scrollInsensitive, stmtId := 3 }

def twoRows : List (List UInt8) := [[0, 0, 0, 7], [0, 0, 0, 8]]

def onTwoRows : Setting where
  owner := some ⟨.clear, .ready, 3, 0, 0⟩
  calloc := true
  scrollFetch := serveAll twoRows

theorem scroll_agrees_previous :
    ((scrollIntegers.afterMoves [(onTwoRows, .absolute 2)]).move onTwoRows
      .previous).2.view.tuple = some [0, 0, 0, 7] := by
  have hagrees := @scroll_agrees twoRows scrollIntegers
    ⟨List.prefix_refl _, rfl⟩ [(onTwoRows, .absolute 2)] onTwoRows .previous
    (fun entry member => by
      have hsetting : entry.1 = onTwoRows := by
        simp only [List.cons_append, List.nil_append, List.mem_cons,
          List.not_mem_nil, or_false] at member
        rcases member with rfl | rfl <;> rfl
      rw [hsetting]
      exact serveAll_serves twoRows)
    (fun entry member => by
      have hsetting : entry.1 = onTwoRows := by
        simp only [List.cons_append, List.nil_append, List.mem_cons,
          List.not_mem_nil, or_false] at member
        rcases member with rfl | rfl <;> rfl
      rw [hsetting]
      rfl)
    ⟨⟨nofun, nofun⟩, ⟨nofun, fun _ => by decide⟩, trivial⟩ rfl
  obtain ⟨_, _, row, htuple, hrow⟩ := hagrees
  rw [htuple]
  exact hrow.symm

/-- After a move to the second row and one before the first, a fetch exposes the
second row under the number of the first. -/
theorem scroll_misnumbered :
    let before := scrollIntegers.afterMoves
      [(onTwoRows, .absolute 2), (onTwoRows, .relative (-2))]
    let returned := before.move onTwoRows .next
    Fetched twoRows scrollIntegers ∧ Serves twoRows onTwoRows.scrollFetch ∧
      scrollIntegers.isServerScrollable onTwoRows = true ∧
      returned.1.success = true ∧ returned.2.rowNumber = 1 ∧
      returned.2.view.tuple = some [0, 0, 0, 8] ∧
      twoRows[0]? = some [0, 0, 0, 7] := by
  exact ⟨⟨List.prefix_refl _, rfl⟩, serveAll_serves twoRows, rfl, rfl, rfl, rfl,
    rfl⟩

end Libsqli.Result
