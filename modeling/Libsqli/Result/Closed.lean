import Libsqli.Result.Frame
import Libsqli.Result.Getters
import Libsqli.Transaction.Local
import Mathlib.Logic.Function.Basic

namespace Libsqli.Result

/-! Cursors closed by the end of a transaction. -/

/-- A connection and the results opened on it. -/
structure Client where
  txn : Txn
  results : Nat → Option Result

/-- What happens on a connection and to its results.  `link` stands for any other
change of the connection, `create` for every way a result is opened anew. -/
inductive Call where
  | begin (exchange : Status)
  | commit (exchange : Status)
  | rollback (exchange : Status)
  | autobegin (exchange : Status) (statementType : Nat)
  | track (statementType : Nat)
  | setAutocommit (on : Bool)
  | link (lifecycle : Lifecycle) (state : ConnState) (socketFd : Int)
  | create (name : Nat) (received : Result)
  | move (name : Nat) (calloc : Bool)
      (scrollFetch : ScrollType → Int → ScrollReply) (move : Move)

def ownerOf (txn : Txn) : Owner :=
  ⟨txn.lifecycle, txn.state, txn.socketFd, txn.commitEpoch, txn.rollbackEpoch⟩

def settingOf (txn : Txn) (calloc : Bool)
    (scrollFetch : ScrollType → Int → ScrollReply) : Setting :=
  ⟨some (ownerOf txn), calloc, scrollFetch⟩

/-- A result as it is opened: with the epochs of its connection. -/
def captured (txn : Txn) (received : Result) : Result :=
  { received with
    commitEpoch := txn.commitEpoch
    rollbackEpoch := txn.rollbackEpoch }

namespace Client

def withTxn (client : Client) (txn : Txn) : Client := { client with txn }

def withResult (client : Client) (name : Nat) (result : Result) : Client :=
  { client with results := Function.update client.results name (some result) }

def step (client : Client) : Call → Client
  | .begin exchange => client.withTxn (client.txn.begin exchange).2
  | .commit exchange => client.withTxn (client.txn.commit exchange).2
  | .rollback exchange => client.withTxn (client.txn.rollback exchange).2
  | .autobegin exchange statementType =>
      client.withTxn (client.txn.autobegin exchange statementType).2
  | .track statementType =>
      client.withTxn (client.txn.trackTransactionStatement statementType)
  | .setAutocommit on => client.withTxn (client.txn.setAutocommit on).2
  | .link lifecycle state socketFd =>
      client.withTxn { client.txn with lifecycle, state, socketFd }
  | .create name received =>
      client.withResult name (captured client.txn received)
  | .move name calloc scrollFetch move =>
      match client.results name with
      | none => client
      | some result => client.withResult name
          (result.move (settingOf client.txn calloc scrollFetch) move).2

def run (client : Client) : List Call → Client
  | [] => client
  | call :: calls => (client.step call).run calls

/-- The call commits: acknowledged, or as a tracked statement. -/
def commits (client : Client) : Call → Bool
  | .commit exchange => (client.txn.commit exchange).1 == .ok
  | .track statementType => statementType == Txn.commitStatement
  | _ => false

/-- The call rolls back. -/
def rollsBack (client : Client) : Call → Bool
  | .rollback exchange => (client.txn.rollback exchange).1 == .ok
  | .track statementType => statementType == Txn.rollbackStatement
  | _ => false

variable {client : Client} {name : Nat} {call : Call}

@[simp] theorem txn_withTxn (client : Client) (txn : Txn) :
    (client.withTxn txn).txn = txn := rfl

@[simp] theorem results_withTxn (client : Client) (txn : Txn) :
    (client.withTxn txn).results = client.results := rfl

@[simp] theorem txn_withResult (client : Client) (name : Nat)
    (result : Result) : (client.withResult name result).txn = client.txn := rfl

@[simp] theorem results_withResult (client : Client) (name : Nat)
    (result : Result) :
    (client.withResult name result).results name = some result := by
  simp [withResult]

theorem results_withResult_of_ne {other : Nat} (hne : other ≠ name)
    (client : Client) (result : Result) :
    (client.withResult name result).results other = client.results other := by
  simp [withResult, Function.update_of_ne hne]

theorem run_append (client : Client) (calls others : List Call) :
    client.run (calls ++ others) = (client.run calls).run others := by
  induction calls generalizing client with
  | nil => rfl
  | cons call calls ih => exact ih _

end Client

/-- The epochs of a later state, with the flag whether each moved on. -/
structure Advances (commits rollsBack : Bool) (txn later : Txn) : Prop where
  commitEpoch : later.commitEpoch =
    txn.commitEpoch + if commits then 1 else 0
  rollbackEpoch : later.rollbackEpoch =
    txn.rollbackEpoch + if rollsBack then 1 else 0

theorem Advances.of_eq {commits rollsBack : Bool} {txn later target : Txn}
    (hlater : later = target) (hadvances : Advances commits rollsBack txn target) :
    Advances commits rollsBack txn later := hlater ▸ hadvances

/-- The epochs count the commits and the rollbacks. -/
theorem advances_step (client : Client) (call : Call) :
    Advances (client.commits call) (client.rollsBack call) client.txn
      (client.step call).txn := by
  cases call with
  | begin exchange =>
      rcases Txn.command_cases false exchange Txn.started client.txn with
        ⟨_, hsame⟩ | ⟨_, _, hbegin⟩
      · exact .of_eq hsame ⟨rfl, rfl⟩
      · have hstarted := congrArg Prod.snd hbegin
        exact .of_eq hstarted ⟨rfl, rfl⟩
  | commit exchange =>
      rcases Txn.command_cases true exchange Txn.committed client.txn with
        ⟨hfailed, hsame⟩ | ⟨_, _, hcommit⟩
      · have hcommits : client.commits (.commit exchange) = false :=
          beq_false_of_ne hfailed
        rw [hcommits]
        exact .of_eq hsame ⟨rfl, rfl⟩
      · have hcommits : client.commits (.commit exchange) = true :=
          beq_iff_eq.mpr (congrArg Prod.fst hcommit)
        have hcommitted := congrArg Prod.snd hcommit
        rw [hcommits]
        exact .of_eq hcommitted ⟨rfl, rfl⟩
  | rollback exchange =>
      rcases Txn.command_cases true exchange Txn.rolledBack client.txn with
        ⟨hfailed, hsame⟩ | ⟨_, _, hrollback⟩
      · have hrolls : client.rollsBack (.rollback exchange) = false :=
          beq_false_of_ne hfailed
        rw [hrolls]
        exact .of_eq hsame ⟨rfl, rfl⟩
      · have hrolls : client.rollsBack (.rollback exchange) = true :=
          beq_iff_eq.mpr (congrArg Prod.fst hrollback)
        have hrolled := congrArg Prod.snd hrollback
        rw [hrolls]
        exact .of_eq hrolled ⟨rfl, rfl⟩
  | autobegin exchange statementType =>
      rcases Txn.autobegin_cases exchange statementType client.txn with
        hsame | ⟨_, _, hbegin⟩
      · exact .of_eq hsame ⟨rfl, rfl⟩
      · have hstarted := congrArg Prod.snd hbegin
        exact .of_eq hstarted ⟨rfl, rfl⟩
  | track statementType =>
      simp only [Client.step, Client.commits, Client.rollsBack,
        Txn.trackTransactionStatement]
      split
      · next hbegin => subst hbegin; exact ⟨rfl, rfl⟩
      · split
        · next hcommit => subst hcommit; exact ⟨rfl, rfl⟩
        · next hcommit =>
          rw [beq_false_of_ne hcommit]
          split
          · next hrollback => subst hrollback; exact ⟨rfl, rfl⟩
          · next hrollback =>
            rw [beq_false_of_ne hrollback]
            exact ⟨rfl, rfl⟩
  | setAutocommit on =>
      simp only [Client.step, Txn.setAutocommit]
      split <;> exact ⟨rfl, rfl⟩
  | link lifecycle state socketFd => exact ⟨rfl, rfl⟩
  | create name received => exact ⟨rfl, rfl⟩
  | move name calloc scrollFetch move =>
      simp only [Client.step]
      split <;> exact ⟨rfl, rfl⟩

end Libsqli.Result

namespace Libsqli.Result

/-! A cursor that the end of a transaction closed. -/

variable {result : Result} {setting : Setting} {client : Client} {name : Nat}

/-- No call on the result reports success or exposes a row. -/
structure Withheld (txn : Txn) (result : Result) : Prop where
  moves : ∀ calloc scrollFetch call,
    (result.move (settingOf txn calloc scrollFetch) call).1.success = false ∧
      OffRow (result.move (settingOf txn calloc scrollFetch) call).2.view
  getters : ∀ calloc scrollFetch,
    GettersRefuse (settingOf txn calloc scrollFetch) result

theorem fetch_of_closed (hclosed : result.isClosedByCommit setting = true) :
    (fetch setting result).1 ≠ .ok ∧ OffRow (fetch setting result).2.view := by
  unfold fetch
  split
  · exact ⟨nofun, offRow_closed⟩
  · split
    · next hstatus => exact ⟨hstatus, offRow_closed⟩
    · exact ⟨nofun, offRow_closed⟩

theorem move_of_closed (hclosed : result.isClosedByCommit setting = true)
    (call : Move) :
    (result.move setting call).1.success = false ∧
      OffRow (result.move setting call).2.view := by
  have hfetch := fetch_of_closed hclosed
  cases call with
  | fetch => exact ⟨beq_false_of_ne hfetch.1, hfetch.2⟩
  | next => exact ⟨beq_false_of_ne hfetch.1, hfetch.2⟩
  | first =>
      rw [Result.move, first, if_pos hclosed]
      exact ⟨rfl, offRow_closed⟩
  | last =>
      rw [Result.move, last, if_pos hclosed]
      exact ⟨rfl, offRow_closed⟩
  | absolute row =>
      rw [Result.move, absolute, if_pos hclosed]
      exact ⟨rfl, offRow_closed⟩
  | relative offset =>
      rw [Result.move, relative, if_pos hclosed]
      exact ⟨rfl, offRow_closed⟩
  | previous =>
      rw [Result.move, previous, if_pos hclosed]
      exact ⟨rfl, offRow_closed⟩

theorem gettersRefuse_of_closed
    (hclosed : result.isClosedByCommit setting = true) :
    GettersRefuse setting result := by
  refine gettersRefuse_of_error fun index => ?_
  unfold currentSpan
  split
  · exact ⟨.outOfRange, nofun, rfl⟩
  · split
    · next hstatus => exact ⟨_, hstatus, rfl⟩
    · rw [if_pos (.inl hclosed)]
      exact ⟨.invalidState, nofun, rfl⟩

theorem Withheld.of_closed {txn : Txn}
    (hclosed : ∀ calloc scrollFetch,
      result.isClosedByCommit (settingOf txn calloc scrollFetch) = true) :
    Withheld txn result where
  moves calloc scrollFetch := move_of_closed (hclosed calloc scrollFetch)
  getters calloc scrollFetch :=
    gettersRefuse_of_closed (hclosed calloc scrollFetch)

/-- The epochs of an open result are not ahead of its connection's. -/
structure Captured (holdability : Holdability) (txn : Txn) (result : Result) :
    Prop where
  holdability : result.holdability = holdability
  commitEpoch : result.commitEpoch ≤ txn.commitEpoch
  rollbackEpoch : result.rollbackEpoch ≤ txn.rollbackEpoch

/-- An epoch has moved on that the result was to be closed by. -/
inductive Expired (txn : Txn) (result : Result) : Prop where
  | rolledBack (hepoch : result.rollbackEpoch < txn.rollbackEpoch)
  | committed (hcloses : result.holdability = .closeAtCommit)
      (hepoch : result.commitEpoch < txn.commitEpoch)

theorem Expired.withheld {txn : Txn} (hexpired : Expired txn result) :
    Withheld txn result := by
  refine .of_closed fun calloc scrollFetch => ?_
  simp only [isClosedByCommit, settingOf, ownerOf, Bool.or_eq_true,
    Bool.and_eq_true, bne_iff_ne, beq_iff_eq]
  cases hexpired with
  | rolledBack hepoch => exact .inl hepoch.ne'
  | committed hcloses hepoch => exact .inr ⟨hcloses, hepoch.ne'⟩

/-- The result is not opened anew by any of the calls. -/
def Kept (name : Nat) (calls : List Call) : Prop :=
  ∀ call ∈ calls, ∀ received, call ≠ .create name received

theorem Kept.head {call : Call} {calls : List Call}
    (hkept : Kept name (call :: calls)) (received : Result) :
    call ≠ .create name received :=
  hkept call List.mem_cons_self received

theorem Kept.tail {call : Call} {calls : List Call}
    (hkept : Kept name (call :: calls)) : Kept name calls :=
  fun other member => hkept other (List.mem_cons_of_mem call member)

/-- A result that is kept is moved or left alone. -/
theorem result_step {call : Call}
    (hresult : client.results name = some result)
    (hkept : ∀ received, call ≠ .create name received) :
    ∃ next, (client.step call).results name = some next ∧
      next.terms = result.terms := by
  cases call with
  | create other received =>
      have hne : name ≠ other := fun hsame =>
        hkept received (by rw [hsame])
      exact ⟨result, (Client.results_withResult_of_ne hne _ _).trans hresult, rfl⟩
  | move other calloc scrollFetch call =>
      by_cases hsame : name = other
      · subst hsame
        simp only [Client.step, hresult]
        exact ⟨_, Client.results_withResult _ _ _, terms_move _ _ _⟩
      · refine ⟨result, ?_, rfl⟩
        simp only [Client.step]
        split
        · exact hresult
        · exact (Client.results_withResult_of_ne hsame _ _).trans hresult
  | _ => exact ⟨result, hresult, rfl⟩

theorem Captured.step {holdability : Holdability} {call : Call} {next : Result}
    (hcaptured : Captured holdability client.txn result)
    (hterms : next.terms = result.terms) :
    Captured holdability (client.step call).txn next where
  holdability := (congrArg Terms.holdability hterms).trans hcaptured.holdability
  commitEpoch := by
    have hadvances := (advances_step client call).commitEpoch
    have hepoch : next.commitEpoch = result.commitEpoch :=
      congrArg Terms.commitEpoch hterms
    have hle := hcaptured.commitEpoch
    omega
  rollbackEpoch := by
    have hadvances := (advances_step client call).rollbackEpoch
    have hepoch : next.rollbackEpoch = result.rollbackEpoch :=
      congrArg Terms.rollbackEpoch hterms
    have hle := hcaptured.rollbackEpoch
    omega

/-- The call ends the result: it rolls back, or it commits and the result was
opened to be closed then. -/
def Ends (holdability : Holdability) (client : Client) (call : Call) : Prop :=
  client.rollsBack call = true ∨
    holdability = .closeAtCommit ∧ client.commits call = true

theorem Captured.expire {holdability : Holdability} {call : Call}
    {next : Result} (hcaptured : Captured holdability client.txn result)
    (hterms : next.terms = result.terms) (hends : Ends holdability client call) :
    Expired (client.step call).txn next := by
  have hadvances := advances_step client call
  rcases hends with hrolls | ⟨hcloses, hcommits⟩
  · refine .rolledBack ?_
    have hepoch : next.rollbackEpoch = result.rollbackEpoch :=
      congrArg Terms.rollbackEpoch hterms
    rw [hadvances.rollbackEpoch, hrolls, hepoch]
    exact Nat.lt_succ_of_le hcaptured.rollbackEpoch
  · refine .committed (((congrArg Terms.holdability hterms).trans
      hcaptured.holdability).trans hcloses) ?_
    have hepoch : next.commitEpoch = result.commitEpoch :=
      congrArg Terms.commitEpoch hterms
    rw [hadvances.commitEpoch, hcommits, hepoch]
    exact Nat.lt_succ_of_le hcaptured.commitEpoch

theorem Expired.step {call : Call} {next : Result}
    (hexpired : Expired client.txn result)
    (hterms : next.terms = result.terms) :
    Expired (client.step call).txn next := by
  have hadvances := advances_step client call
  cases hexpired with
  | rolledBack hepoch =>
      refine .rolledBack ?_
      have hsame : next.rollbackEpoch = result.rollbackEpoch :=
        congrArg Terms.rollbackEpoch hterms
      rw [hadvances.rollbackEpoch, hsame]
      exact Nat.lt_add_right _ hepoch
  | committed hcloses hepoch =>
      refine .committed ((congrArg Terms.holdability hterms).trans hcloses) ?_
      have hsame : next.commitEpoch = result.commitEpoch :=
        congrArg Terms.commitEpoch hterms
      rw [hadvances.commitEpoch, hsame]
      exact Nat.lt_add_right _ hepoch

/-- What every step keeps of a kept result holds of it at the end. -/
theorem result_run {Holds : Txn → Result → Prop} {calls : List Call}
    (hstep : ∀ {client : Client} {call : Call} {result next : Result},
      Holds client.txn result → next.terms = result.terms →
        Holds (client.step call).txn next)
    (hresult : client.results name = some result)
    (hholds : Holds client.txn result) (hkept : Kept name calls) :
    ∃ next, (client.run calls).results name = some next ∧
      Holds (client.run calls).txn next := by
  induction calls generalizing client result with
  | nil => exact ⟨result, hresult, hholds⟩
  | cons call calls ih =>
      obtain ⟨next, hnext, hterms⟩ := result_step hresult hkept.head
      exact ih hnext (hstep hholds hterms) hkept.tail

theorem captured_create (client : Client) (received : Result) :
    Captured received.holdability (client.step (.create name received)).txn
      (captured client.txn received) :=
  ⟨rfl, Nat.le_refl _, Nat.le_refl _⟩

/-- After a call that ends it, a result is withheld until it is opened anew. -/
theorem withheld_after_end (start : Client) (name : Nat) (received : Result)
    {before after : List Call} {ending : Call}
    (hkept : Kept name (before ++ ending :: after))
    (hends : Ends received.holdability
      ((start.step (.create name received)).run before) ending) :
    ∃ result,
      ((start.step (.create name received)).run
        (before ++ ending :: after)).results name = some result ∧
      Withheld ((start.step (.create name received)).run
        (before ++ ending :: after)).txn result := by
  obtain ⟨opened, hopened, hcaptured⟩ := result_run Captured.step
    (Client.results_withResult start name _) (captured_create start received)
    (fun call member => hkept call (List.mem_append_left _ member))
  obtain ⟨ended, hended, hterms⟩ := result_step hopened
    (hkept ending (by simp))
  have hafter : Kept name after := fun call member =>
    hkept call (by simp [member])
  obtain ⟨result, hresult, hexpired⟩ := result_run Expired.step hended
    (hcaptured.expire hterms hends) hafter
  rw [Client.run_append]
  exact ⟨result, hresult, hexpired.withheld⟩

end Libsqli.Result
