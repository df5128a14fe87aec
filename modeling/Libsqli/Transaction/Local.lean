import Libsqli.Lifecycle.Conn

namespace Libsqli

/-- What a connection knows of its transaction, beside the fields that admit a
request.  The epochs are counters that do not wrap. -/
structure Txn where
  lifecycle : Lifecycle
  state : ConnState
  socketFd : Int
  inTransaction : Bool
  autocommit : Bool
  commitEpoch : Nat
  rollbackEpoch : Nat
  deriving DecidableEq

namespace Txn

/-- `verify_txn_ready` -/
def verifyTxnReady (txn : Txn) : Status :=
  if txn.state ≠ .ready then .invalidState
  else if txn.socketFd < 0 then .invalidState
  else .ok

def started (txn : Txn) : Txn := { txn with inTransaction := true }

def committed (txn : Txn) : Txn :=
  { txn with inTransaction := false, commitEpoch := txn.commitEpoch + 1 }

def rolledBack (txn : Txn) : Txn :=
  { txn with inTransaction := false, rollbackEpoch := txn.rollbackEpoch + 1 }

/-- A native transaction command.  `wanted` is the transaction state it needs,
`exchange` what sending it and receiving its reply came to. -/
def command (wanted : Bool) (exchange : Status) (effect : Txn → Txn)
    (txn : Txn) : Status × Txn :=
  if txn.verifyTxnReady ≠ .ok then (txn.verifyTxnReady, txn)
  else if txn.inTransaction ≠ wanted then (.invalidState, txn)
  else if exchange ≠ .ok then (exchange, txn)
  else (.ok, effect txn)

/-- `sqli_begin` -/
def begin (exchange : Status) (txn : Txn) : Status × Txn :=
  txn.command false exchange started

/-- `sqli_commit` -/
def commit (exchange : Status) (txn : Txn) : Status × Txn :=
  txn.command true exchange committed

/-- `sqli_rollback` -/
def rollback (exchange : Status) (txn : Txn) : Status × Txn :=
  txn.command true exchange rolledBack

/-- `sqli_set_autocommit` -/
def setAutocommit (on : Bool) (txn : Txn) : Status × Txn :=
  if on ∧ txn.autocommit = false ∧ txn.inTransaction then (.invalidState, txn)
  else (.ok, { txn with autocommit := on })

/-- The statement types that start an implicit transaction. -/
def accessesData (statementType : Nat) : Bool :=
  2 ≤ statementType && statementType ≤ 8 || statementType == 32 ||
    statementType == 33 || statementType == 56

/-- `sqli_autobegin` -/
def autobegin (exchange : Status) (statementType : Nat) (txn : Txn) :
    Status × Txn :=
  if txn.autocommit ∨ txn.inTransaction then (.ok, txn)
  else if accessesData statementType then txn.begin exchange
  else (.ok, txn)

def beginStatement : Nat := 34
def commitStatement : Nat := 35
def rollbackStatement : Nat := 36

/-- `sqli_track_transaction_statement` -/
def trackTransactionStatement (statementType : Nat) (txn : Txn) : Txn :=
  if statementType = beginStatement then txn.started
  else if statementType = commitStatement then txn.committed
  else if statementType = rollbackStatement then txn.rolledBack
  else txn

variable {txn : Txn}

/-- A command fails and changes nothing, or it takes effect. -/
theorem command_cases (wanted : Bool) (exchange : Status)
    (effect : Txn → Txn) (txn : Txn) :
    (txn.command wanted exchange effect).1 ≠ .ok ∧
        (txn.command wanted exchange effect).2 = txn ∨
      exchange = .ok ∧ txn.inTransaction = wanted ∧
        txn.command wanted exchange effect = (.ok, effect txn) := by
  unfold command
  split
  · next hready => exact .inl ⟨hready, rfl⟩
  · split
    · exact .inl ⟨nofun, rfl⟩
    · next hwanted =>
      split
      · next hexchange => exact .inl ⟨hexchange, rfl⟩
      · next hexchange =>
        exact .inr ⟨not_not.mp hexchange, not_not.mp hwanted, rfl⟩

theorem autobegin_cases (exchange : Status) (statementType : Nat) (txn : Txn) :
    (txn.autobegin exchange statementType).2 = txn ∨
      exchange = .ok ∧ txn.inTransaction = false ∧
        txn.autobegin exchange statementType = (.ok, txn.started) := by
  unfold autobegin
  split
  · exact .inl rfl
  · split
    · rcases command_cases false exchange started txn with
        ⟨_, hsame⟩ | hstarted
      · exact .inl hsame
      · exact .inr hstarted
    · exact .inl rfl

end Txn

end Libsqli
