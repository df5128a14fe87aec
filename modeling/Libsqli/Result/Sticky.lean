import Libsqli.Result.Answers
import Libsqli.Result.Buffered
import Libsqli.Result.Frame
import Libsqli.Result.Getters

namespace Libsqli.Result

/-! What becomes of a result after a row that could not be read. -/

variable {start result : Result} {setting : Setting} {status : Status}

/-- The error is recorded and no row is exposed. -/
structure Failed (status : Status) (result : Result) : Prop where
  fetchStatus : result.fetchStatus = status
  offRow : OffRow result.view

/-- The call meets no stored row but one that cannot be read for the same reason,
and `sqli_result_fetch` has no other error to report. -/
structure Keeps (status : Status) (setting : Setting) (result : Result)
    (call : Move) : Prop where
  kept : call = .fetch → isDiscarded setting = false ∨ status = .invalidState
  unread : result.isClosedByCommit setting = false → ∀ row,
    (target setting result call).bind result.rowAt = some row →
      result.locate setting.calloc row = .error status

def KeepsAll (status : Status) (result : Result) :
    List (Setting × Move) → Prop
  | [] => True
  | entry :: calls => Keeps status entry.1 result entry.2 ∧
      KeepsAll status (result.move entry.1 entry.2).2 calls

theorem Settled.move (hbuffered : result.isServerScrollable setting = false)
    (hsettled : Settled result) (call : Move) :
    Settled (result.move setting call).2 := by
  have hanswer := move_answer hbuffered hsettled call
  generalize (result.move setting call).1.success = success at hanswer
  generalize (result.move setting call).2 = next at hanswer ⊢
  cases hanswer with
  | still _ hsuccess => exact hsettled
  | off _ hoff hstatus => exact .off hoff
  | seated _ row located hopen hrow hlocate hon hstatus => exact .on hon
  | broken _ row status hopen hrow hlocate hoff hstatus => exact .off hoff

/-- The call that records an error leaves no row exposed. -/
theorem failed_of_move (hbuffered : result.isServerScrollable setting = false)
    (hsettled : Settled result) (hok : result.fetchStatus = .ok) (call : Move)
    (hbad : (result.move setting call).2.fetchStatus ≠ .ok) :
    Failed (result.move setting call).2.fetchStatus
      (result.move setting call).2 := by
  have hanswer := move_answer hbuffered hsettled call
  generalize (result.move setting call).1.success = success at hanswer
  generalize (result.move setting call).2 = next at hanswer hbad ⊢
  cases hanswer with
  | still _ hsuccess => exact absurd hok hbad
  | off _ hoff hstatus => exact ⟨rfl, hoff⟩
  | seated _ row located hopen hrow hlocate hon hstatus =>
      exact absurd (hstatus.trans hok) hbad
  | broken _ row status hopen hrow hlocate hoff hstatus => exact ⟨rfl, hoff⟩

theorem Failed.move (hbad : status ≠ .ok) (hfailed : Failed status result)
    (hbuffered : result.isServerScrollable setting = false) {call : Move}
    (hkeeps : Keeps status setting result call) :
    (result.move setting call).1.success = false ∧
      Failed status (result.move setting call).2 := by
  have hanswer := move_answer hbuffered (.off hfailed.offRow) call
  generalize (result.move setting call).1.success = success at hanswer ⊢
  generalize (result.move setting call).2 = next at hanswer ⊢
  cases hanswer with
  | still _ hsuccess =>
      refine ⟨Bool.eq_false_of_not_eq_true fun htrue => ?_, hfailed⟩
      have hon := hsuccess htrue
      rcases hfailed.offRow.flag with hflag | hflag
      · exact absurd (hflag.symm.trans hon.beforeFirst) (by decide)
      · exact absurd (hflag.symm.trans hon.afterLast) (by decide)
  | off _ hoff hstatus =>
      have hsame := hstatus (by rw [hfailed.fetchStatus]; exact hbad)
      exact ⟨rfl, hsame.trans hfailed.fetchStatus, hoff⟩
  | seated _ row located hopen hrow hlocate hon hstatus =>
      have hunread := hkeeps.unread hopen row hrow
      rw [hlocate] at hunread
      cases hunread
  | broken _ row other hopen hrow hlocate hoff hstatus =>
      have hunread := hkeeps.unread hopen row hrow
      rw [hlocate] at hunread
      cases hunread
      exact ⟨rfl, hstatus, hoff⟩

theorem Failed.fetch (hbad : status ≠ .ok) (hfailed : Failed status result)
    (hkeeps : Keeps status setting result .fetch) :
    (result.move setting .fetch).1 = .returned status := by
  have hstatus : result.fetchStatus ≠ .ok := by
    rw [hfailed.fetchStatus]
    exact hbad
  simp only [Result.move, Result.fetch]
  split
  · next hdiscarded =>
    rcases hkeeps.kept rfl with hkept | rfl
    · exact absurd (hkept.symm.trans hdiscarded) (by decide)
    · rfl
  · simp only [hfailed.fetchStatus]

theorem Failed.gettersRefuse (hbad : status ≠ .ok)
    (hfailed : Failed status result) (setting : Setting) :
    GettersRefuse setting result := by
  refine gettersRefuse_of_error fun index => ?_
  unfold currentSpan
  split
  · exact ⟨_, by decide, rfl⟩
  · have hstatus : result.fetchStatus ≠ .ok := by
      rw [hfailed.fetchStatus]
      exact hbad
    rw [if_pos hstatus]
    exact ⟨_, hstatus, rfl⟩

theorem Settled.afterMoves (hsettled : Settled result)
    {calls : List (Setting × Move)}
    (hbuffered : ∀ entry ∈ calls, result.isServerScrollable entry.1 = false) :
    Settled (result.afterMoves calls) := by
  induction calls generalizing result with
  | nil => exact hsettled
  | cons entry calls ih =>
      refine ih (hsettled.move (hbuffered entry (by simp)) entry.2) ?_
      intro other member
      rw [isServerScrollable_congr (terms_move entry.1 result entry.2)]
      exact hbuffered other (by simp [member])

theorem Failed.afterMoves (hbad : status ≠ .ok) (hfailed : Failed status result)
    {calls rest : List (Setting × Move)}
    (hbuffered : ∀ entry ∈ calls, result.isServerScrollable entry.1 = false)
    (hkeeps : KeepsAll status result (calls ++ rest)) :
    Failed status (result.afterMoves calls) ∧
      KeepsAll status (result.afterMoves calls) rest := by
  induction calls generalizing result with
  | nil => exact ⟨hfailed, hkeeps⟩
  | cons entry calls ih =>
      refine ih (hfailed.move hbad (hbuffered entry (by simp)) hkeeps.1).2 ?_
        hkeeps.2
      intro other member
      rw [isServerScrollable_congr (terms_move entry.1 result entry.2)]
      exact hbuffered other (by simp [member])

theorem Opened.settled (hopened : start.Opened) : Settled start := by
  refine .off ?_
  rw [hopened.view]
  exact offRow_beforeFirst .initial

/-- Once a call has recorded an error, no call that keeps to the condition reports
success, every fetch returns the error and every checked getter refuses. -/
theorem failure_sticky (hopened : start.Opened)
    (before : List (Setting × Move)) (failing : Setting × Move)
    (calls : List (Setting × Move)) (setting : Setting) (call : Move)
    (hbuffered : ∀ entry ∈ before ++ failing :: (calls ++ [(setting, call)]),
      start.isServerScrollable entry.1 = false)
    (hok : (start.afterMoves before).fetchStatus = .ok)
    (hfails : ((start.afterMoves before).move failing.1 failing.2).2.fetchStatus
      = status) (hbad : status ≠ .ok)
    (hkeeps : KeepsAll status
      ((start.afterMoves before).move failing.1 failing.2).2
      (calls ++ [(setting, call)])) :
    let broken := ((start.afterMoves before).move failing.1 failing.2).2
    let returned := (broken.afterMoves calls).move setting call
    returned.1.success = false ∧
      (call = .fetch → returned.1 = .returned status) ∧
      ∀ other, GettersRefuse other (broken.afterMoves calls) ∧
        GettersRefuse other returned.2 := by
  intro broken returned
  have hsettled : Settled (start.afterMoves before) :=
    hopened.settled.afterMoves fun entry member =>
      hbuffered entry (List.mem_append_left _ member)
  have hterms : (start.afterMoves before).terms = start.terms :=
    terms_afterMoves start before
  have hfailing : (start.afterMoves before).isServerScrollable failing.1 =
      false := by
    rw [isServerScrollable_congr hterms]
    exact hbuffered failing (by simp)
  have hrest : ∀ entry ∈ calls ++ [(setting, call)],
      broken.isServerScrollable entry.1 = false := fun entry member => by
    rw [isServerScrollable_congr ((terms_move _ _ _).trans hterms)]
    exact hbuffered entry (by simp [member])
  have hbroken : Failed status broken := by
    have hfailed := failed_of_move hfailing hsettled hok failing.2
      (by rw [hfails]; exact hbad)
    rwa [hfails] at hfailed
  obtain ⟨hfailed, hlast⟩ := hbroken.afterMoves hbad
    (fun entry member => hrest entry (List.mem_append_left _ member)) hkeeps
  have hcall : (broken.afterMoves calls).isServerScrollable setting = false := by
    rw [isServerScrollable_congr (terms_afterMoves broken calls)]
    exact hrest (setting, call) (by simp)
  obtain ⟨hsuccess, hafter⟩ := hfailed.move hbad hcall hlast.1
  refine ⟨hsuccess, ?_, fun other =>
    ⟨hfailed.gettersRefuse hbad other, hafter.gettersRefuse hbad other⟩⟩
  rintro rfl
  exact hfailed.fetch hbad hlast.1

/-- Two INTEGER rows, the second cut short. -/
def shortSecond : Result :=
  { twoIntegers with rows := ⟨[[0, 0, 0, 7], [0, 0]], by decide⟩ }

theorem shortSecond_opened : shortSecond.Opened := ⟨rfl, rfl, rfl, rfl⟩

theorem failure_sticky_shortSecond :
    (((shortSecond.afterMoves [(unowned, .fetch), (unowned, .fetch)]).afterMoves
      [(unowned, .next)]).move unowned .fetch).1 =
        .returned .protoError := by
  have hsticky := failure_sticky shortSecond_opened [(unowned, .fetch)]
    (unowned, .fetch) [(unowned, .next)] unowned .fetch
    (fun entry member => by
      have hsetting : entry.1 = unowned := by
        simp only [List.cons_append, List.nil_append, List.mem_cons,
          List.not_mem_nil, or_false] at member
        rcases member with rfl | rfl | rfl | rfl <;> rfl
      rw [hsetting]
      rfl)
    rfl (show _ = Status.protoError from rfl) (by decide)
    ⟨⟨fun _ => .inl rfl, nofun⟩, ⟨fun _ => .inl rfl, nofun⟩, trivial⟩
  exact hsticky.2.1 rfl

/-- After the failed fetch of the second row, moving to the first succeeds. -/
theorem failure_forgotten :
    let broken := shortSecond.afterMoves [(unowned, .fetch), (unowned, .fetch)]
    broken.fetchStatus = .protoError ∧
      (broken.move unowned .first).1.success = true := by
  exact ⟨rfl, rfl⟩

end Libsqli.Result
