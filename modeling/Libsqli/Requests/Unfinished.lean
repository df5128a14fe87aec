import Libsqli.Prepare.Frame
import Libsqli.Requests.Boundary

namespace Libsqli.Requests

open Libsqli.Bind
open Libsqli.Data.Bytes
open Libsqli.Data.Program
open Libsqli.Wire

/-! The calls that fail in the middle of a message. -/

variable {setting : Setting} {sql name : List UInt8} {call : SavepointCall}
  {txn : Txn} {wire : Outgoing}

/-- A call that fails while every send completes has sent complete messages
and nothing else. -/
def LeavesWhole (setting : Setting) (call : Call) (txn : Txn) : Prop :=
  ∀ dialogue : Dialogue, dialogue.txn = txn → dialogue.wire.Open →
    dialogue.wire.sent = [] → ∀ status after,
      call.run setting dialogue = .error status after → Whole after.wire.sent

/-- The checks that a savepoint call makes before it sends anything. -/
def Refused (txn : Txn) (name : List UInt8) : Prop :=
  txn.verifyTxnReady ≠ .ok ∨ name = [] ∨
    (txn.inTransaction = false ∧ txn.autocommit = true)

/-- The text of a statement keeps an octet, and the name of a savepoint has room
behind a length of two octets, unless the call is refused. -/
def Call.Writable (setting : Setting) (txn : Txn) : Call → Prop
  | .query sql | .prepare sql =>
      txn.state = .ready → setting.encode sql ≠ .ok []
  | .savepoint _ name => Refused txn name ∨
      ∃ text, setting.encode name = .ok text ∧ text.length ≤ 0xFFFF
  | _ => True

theorem leavesWhole_of_keeps {call : Call} (hkeeps : Keeps (call.run setting)) :
    LeavesWhole setting call txn := by
  intro dialogue _ hopen hsent status after hrun
  have hclean := hkeeps dialogue ⟨hopen, hsent ▸ Whole.nil⟩
  rw [hrun] at hclean
  exact hclean.2

/-- A call that its first check stops. -/
theorem leavesWhole_of_check {call : Call} {status : Dialogue → Status}
    {rest : Unit → Speaker Unit}
    (hcall : call.run setting = check status >>= rest)
    (hstatus : ∀ dialogue : Dialogue, dialogue.txn = txn →
      status dialogue ≠ .ok) : LeavesWhole setting call txn := by
  intro dialogue htxn _ hsent failed after hrun
  rw [hcall, bind_apply, check, if_neg (hstatus dialogue htxn)] at hrun
  cases hrun
  exact hsent ▸ Whole.nil

theorem batchMark_leavesWhole {opcode : UInt8} {active : Bool} {call : Call}
    (hcall : call.run setting = batchMark opcode active) :
    LeavesWhole setting call txn := by
  have hmark : Holds Clean (say (send [0, opcode])) (fun _ _ => True)
      fun _ => Clean := by
    intro dialogue hclean
    unfold say
    rw [send_completes (by simp) (hclean.1 0)]
    trivial
  have hbatch : Holds Clean (batchMark opcode active) (fun _ _ => True)
      fun _ => Clean :=
    Holds.bind (Keeps.check _) fun _ => Holds.bind (Keeps.check _) fun _ =>
      hmark.bind fun _ _ _ => trivial
  intro dialogue _ hopen hsent status after hrun
  have hclean := hbatch dialogue ⟨hopen, hsent ▸ Whole.nil⟩
  rw [← hcall, hrun] at hclean
  exact hclean.2

theorem savepoint_leavesWhole
    (hwritable : (Call.savepoint call name).Writable setting txn) :
    LeavesWhole setting (.savepoint call name) txn := by
  rcases hwritable with hrefused | ⟨text, htext, hfits⟩
  · intro dialogue htxn _ hsent failed after hrun
    change savepoint setting call name dialogue = _ at hrun
    unfold savepoint at hrun
    by_cases hready : txn.verifyTxnReady = .ok
    · rw [check_pass (by rw [htxn, hready])] at hrun
      by_cases hname : name = []
      · rw [check_stop (by simp [hname])] at hrun
        cases hrun
        exact hsent ▸ Whole.nil
      · obtain ⟨hidle, hauto⟩ :=
          (hrefused.resolve_left (absurd hready)).resolve_left hname
        rw [check_pass (by simp [hname]),
          check_stop (by simp [htxn, hidle, hauto])] at hrun
        cases hrun
        exact hsent ▸ Whole.nil
    · rw [check_stop (by rwa [htxn])] at hrun
      cases hrun
      exact hsent ▸ Whole.nil
  · exact leavesWhole_of_keeps (keeps_savepoint htext hfits)

theorem leavesWhole_of_writable {call : Call}
    (hwritable : call.Writable setting txn) : LeavesWhole setting call txn := by
  have hunready {call : Call} {rest : Unit → Speaker Unit}
      (hcall : call.run setting = checkReady >>= rest)
      (hstate : txn.state ≠ .ready) : LeavesWhole setting call txn :=
    leavesWhole_of_check hcall fun dialogue htxn => by simp [htxn, hstate]
  cases call with
  | query sql =>
      by_cases hstate : txn.state = .ready
      · exact leavesWhole_of_keeps (keeps_query (hwritable hstate))
      · exact hunready rfl hstate
  | prepare sql =>
      by_cases hstate : txn.state = .ready
      · exact leavesWhole_of_keeps (keeps_prepare (hwritable hstate))
      · exact hunready rfl hstate
  | execute stmt => exact leavesWhole_of_keeps (keeps_execute setting stmt)
  | savepoint call name => exact savepoint_leavesWhole hwritable
  | begin => exact leavesWhole_of_keeps keeps_begin
  | commit => exact leavesWhole_of_keeps keeps_commit
  | rollback => exact leavesWhole_of_keeps keeps_rollback
  | batchBegin => exact batchMark_leavesWhole rfl
  | batchEnd => exact batchMark_leavesWhole rfl

/-! What is left unfinished. -/

theorem not_whole_header (session : Session) (sql : List UInt8) :
    ¬ Whole (Prepare.prepareHeader sql ++
      bigEndian (Prepare.lengthWidth session) 0) := by
  intro hwhole
  obtain ⟨closing, hclosing, hsuffix⟩ := hwhole.closing
    (by simp [Prepare.prepareHeader])
  have htwo : bigEndian 2 0 = [0, 0] := by decide
  have hfour : bigEndian 4 0 = [0, 0, 0, 0] := by decide
  have hcount := length_bigEndian 2 (Prepare.announcedPlaceholders sql)
  obtain ⟨high, low, hbytes⟩ := List.length_eq_two.mp hcount
  rw [List.suffix_iff_eq_drop, Prepare.prepareHeader, hbytes,
    Prepare.lengthWidth] at hsuffix
  simp only [closings, List.mem_cons, List.not_mem_nil, or_false] at hclosing
  by_cases hlimit : session.remove64kLimit = true
  · rw [if_pos hlimit, hfour] at hsuffix
    rcases hclosing with rfl | rfl | rfl | rfl <;>
      simp [beginMessage, commitMessage, rollbackMessage, sqEot, sqRbwork]
        at hsuffix
  · rw [if_neg hlimit, htwo] at hsuffix
    rcases hclosing with rfl | rfl | rfl | rfl <;>
      simp [beginMessage, commitMessage, rollbackMessage, sqEot, sqBegin,
        sqCmmtwork, Prepare.sqPrepare] at hsuffix

theorem not_whole_opcode (front : List UInt8) (call : SavepointCall) :
    ¬ Whole (front ++ [0, call.opcode]) := by
  intro hwhole
  obtain ⟨closing, hclosing, before, hsuffix⟩ := hwhole.closing (by simp)
  have hlast := congrArg List.getLast? hsuffix
  simp only [closings, List.mem_cons, List.not_mem_nil, or_false] at hclosing
  cases call <;> rcases hclosing with rfl | rfl | rfl | rfl <;>
    simp [beginMessage, commitMessage, rollbackMessage, sqEot, sqBegin,
      sqCmmtwork, SavepointCall.opcode, sqSetSvpt, sqRelSvpt, sqRbackSvpt]
      at hlast

theorem sendPrepare_empty
    (htext : encodeClientToDb setting.charset setting.session sql = .ok [])
    (hwire : wire.Open) :
    ∃ after, Prepare.sendPrepare setting.charset setting.session sql wire =
      .error .ioError after ∧ after.sent = wire.sent ++
        (Prepare.prepareHeader sql ++
          bigEndian (Prepare.lengthWidth setting.session) 0) := by
  have hwidth : 0 < Prepare.lengthWidth setting.session := by
    unfold Prepare.lengthWidth
    split <;> decide
  have hheader : Prepare.prepareHeader sql ≠ [] := by
    simp [Prepare.prepareHeader]
  have hopen := hwire.transmit (Prepare.prepareHeader sql)
  refine ⟨(wire.transmit (Prepare.prepareHeader sql)).transmit
    (bigEndian (Prepare.lengthWidth setting.session) 0), ?_, by simp⟩
  rw [Prepare.sendPrepare, bind_ok _ (require_eq_ok.mpr ⟨htext, rfl⟩),
    bind_ok _ (send_completes hheader (hwire 0)),
    bind_ok _ (send_completes (bigEndian_ne_nil hwidth _) (hopen 0))]
  refine bind_error _ ?_
  unfold send
  rw [tcpSend_empty, List.length_nil]

theorem sendSavepoint_unfit {encode : Encoder} (call : SavepointCall)
    (hunfit : ¬ ∃ text, encode name = .ok text ∧ text.length ≤ 0xFFFF)
    (hwire : wire.Open) :
    ∃ status, sendSavepoint encode call name wire =
      .error status (wire.transmit [0, call.opcode]) := by
  rw [sendSavepoint, bind_ok _ (send_completes (by simp) (hwire 0))]
  cases hencode : encode name with
  | error status =>
      refine ⟨status, bind_error _ (bind_error _ ?_)⟩
      rw [hencode]
      rfl
  | ok text =>
      have hlong : ¬ text.length ≤ 0xFFFF := fun hfits =>
        hunfit ⟨text, hencode, hfits⟩
      refine ⟨.invalidState, bind_error _ ?_⟩
      rw [sendCharPayload, bind_ok _ (require_eq_ok.mpr ⟨hencode, rfl⟩)]
      refine bind_error _ ?_
      rw [nameFits, if_neg hlong]
      rfl

/-- A dialogue before anything is sent, with two answers to come. -/
def opening (txn : Txn) : Dialogue where
  wire := openWire
  txn := txn
  inBatch := false
  cursorOpen := false
  facts := blankFacts
  heard := [(.ok, blankFacts), (.ok, blankFacts)]

theorem say_stops {sender : Sender Unit} {status : Status}
    (dialogue : Dialogue) {after : Outgoing}
    (hsender : sender dialogue.wire = .error status after) :
    say sender dialogue = .error status { dialogue with wire := after } := by
  rw [say, hsender]

/-- A run that stops with something unfinished. -/
theorem not_leavesWhole {call : Call} (status : Status) (after : Dialogue)
    (hrun : call.run setting (opening txn) = .error status after)
    (hpart : ¬ Whole after.wire.sent) : ¬ LeavesWhole setting call txn :=
  fun hleaves => hpart (hleaves (opening txn) rfl openWire_open rfl _ _ hrun)

theorem query_unfinished (hready : txn.state = .ready)
    (htext : setting.encode sql = .ok []) :
    ¬ LeavesWhole setting (.query sql) txn := by
  obtain ⟨after, hsend, hsent⟩ := sendPrepare_empty htext openWire_open
  have hpart : ¬ Whole after.sent := by
    rw [hsent]
    exact not_whole_header _ _
  have hnew : newResult (opening txn) =
      .ok () { opening txn with heard := [(.ok, blankFacts)] } := rfl
  refine not_leavesWhole .ioError
    { opening txn with heard := [(.ok, blankFacts)], wire := after } ?_ hpart
  change query setting sql (opening txn) = _
  rw [query, checkReady, check_pass (if_pos hready), bind_returns hnew]
  exact bind_stops (say_stops _ hsend)

theorem prepare_unfinished (hready : txn.state = .ready)
    (htext : setting.encode sql = .ok []) :
    ¬ LeavesWhole setting (.prepare sql) txn := by
  obtain ⟨after, hsend, hsent⟩ := sendPrepare_empty htext openWire_open
  have hpart : ¬ Whole after.sent := by
    rw [hsent]
    exact not_whole_header _ _
  refine not_leavesWhole .ioError { opening txn with wire := after } ?_ hpart
  change prepare setting sql (opening txn) = _
  rw [prepare, checkReady, check_pass (if_pos hready)]
  refine bind_stops ?_
  rw [reporting, say_stops (opening txn) hsend]

theorem savepoint_unfinished (haccepted : ¬ Refused txn name)
    (hunfit : ¬ ∃ text, setting.encode name = .ok text ∧
      text.length ≤ 0xFFFF) :
    ¬ LeavesWhole setting (.savepoint call name) txn := by
  simp only [Refused, not_or, not_not] at haccepted
  obtain ⟨hready, hname, hactive⟩ := haccepted
  have hbegun : ∃ middle, beginIfNone (opening txn) = .ok () middle ∧
      middle.wire.Open := by
    by_cases htransaction : txn.inTransaction = true
    · exact ⟨opening txn, if_pos htransaction, openWire_open⟩
    · refine ⟨{ opening txn with
          wire := openWire.transmit beginMessage
          txn := txn.started
          heard := [(.ok, blankFacts)] }, ?_, openWire_open.transmit _⟩
      rw [beginIfNone, if_neg (by simpa [opening] using htransaction), begin,
        native, check_pass hready,
        check_pass (if_pos (by simpa [opening] using htransaction))]
      rfl
  obtain ⟨middle, hbegin, hopen⟩ := hbegun
  obtain ⟨status, hsend⟩ :=
    sendSavepoint_unfit call hunfit hopen
  refine not_leavesWhole status
    { middle with wire := middle.wire.transmit [0, call.opcode] } ?_
    (not_whole_opcode middle.wire.sent call)
  change savepoint setting call name (opening txn) = _
  rw [savepoint, check_pass hready, check_pass (if_neg hname),
    check_pass (if_neg hactive), bind_returns hbegin]
  exact bind_stops (say_stops _ hsend)

/-- Exactly the texts that cannot be written in full leave a message
unfinished. -/
theorem leavesWhole_iff (setting : Setting) (call : Call) (txn : Txn) :
    LeavesWhole setting call txn ↔ call.Writable setting txn := by
  refine ⟨fun hleaves => ?_, leavesWhole_of_writable⟩
  cases call with
  | query sql => exact fun hready htext => query_unfinished hready htext hleaves
  | prepare sql =>
      exact fun hready htext => prepare_unfinished hready htext hleaves
  | savepoint call name =>
      by_contra hunwritable
      rw [Call.Writable, not_or] at hunwritable
      exact savepoint_unfinished hunwritable.1 hunwritable.2 hleaves
  | _ => trivial

/-! A connection in a transaction, a savepoint whose name takes 65536 octets, and
a statement without text. -/

def plainSetting : Setting where
  charset := Prepare.verbatimCharset
  session := Prepare.plainSession
  malloc := fun _ => true
  cursor := ⟨false, false⟩

def activeTxn : Txn where
  lifecycle := Lifecycle.clear
  state := .ready
  socketFd := 3
  inTransaction := true
  autocommit := false
  commitEpoch := 0
  rollbackEpoch := 0

theorem long_savepoint_unfinished :
    ¬ LeavesWhole plainSetting
        (.savepoint .release (List.replicate 65536 97)) activeTxn ∧
      ¬ LeavesWhole plainSetting (.query []) activeTxn := by
  refine ⟨savepoint_unfinished ?_ ?_, query_unfinished rfl rfl⟩
  · rintro (hready | hname | hidle)
    · exact hready rfl
    · exact absurd hname (List.ne_nil_of_length_pos
        (by rw [List.length_replicate]; decide))
    · cases hidle.1
  · rintro ⟨text, htext, hfits⟩
    have hverbatim : List.replicate 65536 97 = text := by
      injection htext
    rw [← hverbatim, List.length_replicate] at hfits
    exact absurd hfits (by decide)

end Libsqli.Requests
