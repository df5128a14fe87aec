import Libsqli.Session.Twins

namespace Libsqli.Session

open Libsqli.Data.Program
open Libsqli.Receive
open Layout

/-! What an execution reports, and what of it an earlier one can have left. -/

/-- What the functions of a result report, whatever row they are at. -/
structure Reports where
  rows : List (List UInt8)
  columns : List Column
  rowsAffected : Int
  serial : Bool × Int
  serial8 : Bool × Int
  wasNull : Bool
  fetchStatus : Status
  position : View

/-- An environment as a statement finds it. -/
def Client.resume (environment statement : Client) : Client :=
  { environment.withResult statement.result with
    cursorOpen := statement.cursorOpen }

/-- A statement after its executions, each in an environment of its own. -/
def executions (caps : Capabilities) (handle : Handle) (statement : Client)
    (history : List (CursorChoice × Client)) : Client :=
  history.foldl (fun statement execution => stateOf
    (execute caps execution.1 handle (execution.2.resume statement))) statement

variable {caps : Capabilities} {choice : CursorChoice} {handle : Handle}
  {earlier fresh : Result} {client other : Client}

/-- Two results that differ in what they have kept. -/
def TwinResults (caps : Capabilities) (left right : Retained)
    (client other : Client) : Prop :=
  ∃ base : Result,
    client.result = withRetained base (absorbAll caps client.taken left) ∧
      other.result = withRetained base (absorbAll caps client.taken right)

theorem Twin.results {left right : Retained}
    (htwin : Twin caps left right client other) :
    TwinResults caps left right client other := by
  obtain ⟨base, rfl, rfl⟩ := htwin
  exact ⟨base.result, rfl, rfl⟩

/-- The program changes neither the result nor the transaction. -/
def Keeps (program : Exchange Unit) : Prop :=
  ∀ client : Client,
    Holds (fun before => before.result = client.result ∧
        before.txn = client.txn) program
      (fun _ after => after.result = client.result ∧ after.txn = client.txn)
      (fun _ after => after.result = client.result ∧ after.txn = client.txn)

theorem Keeps.bind {first : Exchange Unit} {next : Unit → Exchange Unit}
    (hfirst : Keeps first) (hnext : ∀ value, Keeps (next value)) :
    Keeps (first >>= next) :=
  fun client => (hfirst client).bind fun value => hnext value client

theorem Keeps.request (wanted : Request) : Keeps (request wanted) := by
  intro client state hstate
  unfold Session.request
  cases state.sends 0 with
  | ok => exact hstate
  | _ => exact hstate

/-- A reception behind a throw-away result keeps both. -/
theorem Keeps.aside {program : Exchange Unit}
    (htxn : ∀ client : Client, (stateOf (program client)).txn = client.txn) :
    Keeps (aside program) := by
  intro client state hstate
  have hsame := htxn (state.withResult blankResult)
  unfold Session.aside
  cases hrun : program (state.withResult blankResult) with
  | ok value after =>
      rw [hrun] at hsame
      exact ⟨hstate.1, hsame.trans hstate.2⟩
  | error status after =>
      rw [hrun] at hsame
      exact ⟨hstate.1, hsame.trans hstate.2⟩

theorem Keeps.attempt {program : Exchange Unit} (hkeeps : Keeps program) :
    Keeps (attempt program) := by
  intro client state hstate
  have hrun := hkeeps client state hstate
  unfold Session.attempt stateOf
  cases hresult : program state with
  | ok value after =>
      rw [hresult] at hrun
      exact hrun
  | error status after =>
      rw [hresult] at hrun
      exact hrun

theorem ofReception_txn (reception : Client → Reception) (client : Client) :
    (stateOf (ofReception reception client)).txn = client.txn := by
  unfold ofReception
  split <;> rfl

theorem receive_txn (context : Context) (client : Client) :
    (stateOf (receive caps context client)).txn = client.txn := by
  unfold receive
  rw [bind_apply]
  exact ofReception_txn _ (client.took _)

theorem Keeps.drainTail : Keeps (drainTail caps) :=
  Keeps.aside fun client => ofReception_txn _ client

theorem Keeps.stmtControl (wanted : Request) :
    Keeps (stmtControl caps wanted) :=
  have hreceive : Keeps (Session.aside (receive caps .otherRecv)) :=
    Keeps.aside fun client => receive_txn _ client
  (Keeps.request wanted).bind fun _ => hreceive.bind fun _ =>
    Keeps.drainTail.attempt

theorem Keeps.setCursor (isOpen : Bool) : Keeps (setCursor isOpen) :=
  fun _ _ hstate => hstate

theorem Keeps.branch {condition : Client → Prop} [DecidablePred condition]
    {yes no : Exchange Unit} (hyes : Keeps yes) (hno : Keeps no) :
    Keeps (fun client => if condition client then yes client
      else no client) :=
  fun client => Holds.branch (fun state hstate => hyes client state hstate.1)
    fun state hstate => hno client state hstate.1

theorem Keeps.bestEffortControl (wanted : Request) :
    Keeps (bestEffortControl handle wanted) :=
  Keeps.branch (fun _ _ hstate => hstate) (Keeps.request wanted).attempt

/-- A program that keeps both, and then closes the cursor. -/
theorem closes_of_keeps {program : Exchange Unit} (hkeeps : Keeps program)
    (client : Client) :
    Holds (fun before => before.result = client.result ∧
        before.txn = client.txn)
      (do program; setCursor false)
      (fun _ after => after.cursorOpen = false ∧
        after.result = client.result ∧ after.txn = client.txn)
      fun _ _ => True := by
  refine Holds.bind ((hkeeps client).mono (fun _ h => h) (fun _ _ h => h)
    fun _ _ _ => trivial) fun _ => ?_
  intro state hstate
  exact ⟨rfl, hstate⟩

/-- After a close the cursor is gone, and nothing else has changed. -/
theorem closeCursorIfOpen_closes (client : Client) :
    Holds (fun before => before.result = client.result ∧
        before.txn = client.txn)
      (closeCursorIfOpen caps handle)
      (fun _ after => after.cursorOpen = false ∧
        after.result = client.result ∧ after.txn = client.txn)
      fun _ _ => True := by
  refine Holds.branch (fun state hstate => ⟨hstate.2, hstate.1⟩) ?_
  refine Holds.branch (fun state hstate => ⟨rfl, hstate.1.1⟩) ?_
  refine Holds.branch ?_ (Holds.branch ?_ ?_)
  · exact (closes_of_keeps (Keeps.stmtControl _) client).mono
      (fun _ h => h.1.1.1) (fun _ _ h => h) fun _ _ h => h
  · exact (closes_of_keeps (Keeps.bestEffortControl _) client).mono
      (fun _ h => h.1.1.1.1) (fun _ _ h => h) fun _ _ h => h
  · exact fun state hstate => ⟨rfl, hstate.1.1.1.1⟩

theorem closeCursorIfOpen_ok {ready : Client}
    (hclose : closeCursorIfOpen caps handle client = .ok () ready) :
    ready.cursorOpen = false ∧ ready.result = client.result ∧
      ready.txn = client.txn := by
  have hcloses := @closeCursorIfOpen_closes caps handle client client ⟨rfl, rfl⟩
  rw [hclose] at hcloses
  exact hcloses

theorem checkKept_eq_ok {value : Unit} {ready : Client} :
    checkKept client = .ok value ready ↔
      client.txn.lifecycle.discarded = false ∧ ready = client := by
  refine check_eq_ok.trans (and_congr_left' ?_)
  cases client.txn.lifecycle.discarded with
  | true => decide
  | false => decide

def sampleCaps : Capabilities := ⟨true, true, true, false⟩

def sampleChoice : CursorChoice := ⟨.forwardOnly, .holdOverCommit⟩

def sampleHandle : Handle := ⟨7, 3, false⟩

def sampleTxn : Txn := ⟨.clear, .ready, 3, false, true, 0, 0⟩

/-- A connection on which everything arrives at once. -/
def promptClient (answers : List (List Message)) : Client where
  incoming := []
  answers := answers
  sends := fun _ => .ok
  scene := ⟨fun _ => true, fun _ => true, blankResult, .clear⟩
  txn := sampleTxn
  cursorOpen := false
  delivered := []
  asked := []
  taken := []

end Libsqli.Session
