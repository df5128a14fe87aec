import Libsqli.Result.Buffered
import Libsqli.Result.Closed

namespace Libsqli.Result

/-! A cursor held over commits. -/

variable {result : Result} {setting other : Setting}

/-- Two settings that no call on the result can tell apart. -/
structure Alike (setting other : Setting) (result : Result) : Prop where
  calloc : other.calloc = setting.calloc
  scrollFetch : other.scrollFetch = setting.scrollFetch
  discarded : isDiscarded other = isDiscarded setting
  closed : result.isClosedByCommit other = result.isClosedByCommit setting
  scrollable : result.isServerScrollable other =
    result.isServerScrollable setting

theorem Alike.congr {next : Result} (halike : Alike setting other result)
    (hterms : next.terms = result.terms) : Alike setting other next where
  calloc := halike.calloc
  scrollFetch := halike.scrollFetch
  discarded := halike.discarded
  closed := by
    rw [isClosedByCommit_congr hterms, isClosedByCommit_congr hterms,
      halike.closed]
  scrollable := by
    rw [isServerScrollable_congr hterms, isServerScrollable_congr hterms,
      halike.scrollable]

theorem Alike.withView (halike : Alike setting other result) (view : View) :
    Alike setting other (result.withView view) := halike.congr rfl

theorem Alike.serverRefetch (halike : Alike setting other result)
    (scroll : ScrollType) (index : Int) :
    serverRefetch other result scroll index =
      serverRefetch setting result scroll index := by
  unfold Result.serverRefetch
  rw [halike.scrollable, halike.scrollFetch, halike.calloc]

theorem Alike.first (halike : Alike setting other result) :
    first other result = first setting result := by
  unfold Result.first
  rw [halike.closed, halike.scrollable, halike.calloc, halike.serverRefetch]

theorem Alike.last (halike : Alike setting other result) :
    last other result = last setting result := by
  unfold Result.last
  rw [halike.closed, halike.scrollable, halike.calloc, halike.serverRefetch]

theorem Alike.absolute (halike : Alike setting other result) (row : Int) :
    absolute other result row = absolute setting result row := by
  unfold Result.absolute
  rw [halike.closed, halike.scrollable, halike.calloc, halike.serverRefetch]

theorem Alike.relative (halike : Alike setting other result) (offset : Int) :
    relative other result offset = relative setting result offset := by
  unfold Result.relative
  rw [halike.closed, halike.absolute]

theorem Alike.previous (halike : Alike setting other result) :
    previous other result = previous setting result := by
  have hterms := terms_moveToIndex setting.calloc result
    (result.view.cursor - 1)
  unfold Result.previous
  rw [halike.closed, halike.scrollable, halike.calloc, halike.last,
    halike.absolute]
  generalize moveToIndex setting.calloc result (result.view.cursor - 1) =
    returned at hterms
  obtain ⟨success, next⟩ := returned
  cases success with
  | true => rfl
  | false => simp only [(halike.congr hterms).absolute]

theorem Alike.nextInternal (halike : Alike setting other result) :
    nextInternal other result = nextInternal setting result := by
  unfold Result.nextInternal
  simp only [halike.closed, halike.scrollable, halike.calloc, halike.absolute,
    (halike.withView _).first]

theorem Alike.fetch (halike : Alike setting other result) :
    fetch other result = fetch setting result := by
  unfold Result.fetch
  rw [halike.discarded, halike.closed, halike.nextInternal]

theorem Alike.move (halike : Alike setting other result) (call : Move) :
    result.move other call = result.move setting call := by
  cases call with
  | fetch => simp only [Result.move, halike.fetch]
  | next => simp only [Result.move, next, halike.fetch]
  | first => simp only [Result.move, halike.first]
  | last => simp only [Result.move, halike.last]
  | absolute row => simp only [Result.move, halike.absolute]
  | relative offset => simp only [Result.move, halike.relative]
  | previous => simp only [Result.move, halike.previous]

/-- Every checked getter reads the same under both settings. -/
structure GettersAgree (setting other : Setting) (result : Result) : Prop where
  int : ∀ services index out, getInt other services result index out =
    getInt setting services result index out
  int64 : ∀ services index out, getInt64 other services result index out =
    getInt64 setting services result index out
  double : ∀ services floats index out,
    getDouble other services floats result index out =
      getDouble setting services floats result index out
  bool : ∀ index out, getBool other result index out =
    getBool setting result index out
  decimal : ∀ malloc index out, getDecimal other malloc result index out =
    getDecimal setting malloc result index out
  date : ∀ index out, getDate other result index out =
    getDate setting result index out
  datetime : ∀ index out, getDatetime other result index out =
    getDatetime setting result index out
  interval : ∀ index out, getInterval other result index out =
    getInterval setting result index out
  stringLen : ∀ services index out,
    getStringLen other services result index out =
      getStringLen setting services result index out
  bytes : ∀ services index out, getBytes other services result index out =
    getBytes setting services result index out

theorem currentSpan_congr
    (hclosed : result.isClosedByCommit other = result.isClosedByCommit setting) :
    currentSpan other result = currentSpan setting result := by
  funext index
  unfold currentSpan
  rw [hclosed]

/-- A getter reads the connection for nothing but the span of its column. -/
theorem gettersAgree_of_closed
    (hclosed : result.isClosedByCommit other = result.isClosedByCommit setting) :
    GettersAgree setting other result := by
  have hspan := currentSpan_congr hclosed
  have hdecimal (malloc : Nat → Bool) (index : Nat) (out : Decimal) :
      getDecimal other malloc result index out =
        getDecimal setting malloc result index out := by
    simp only [getDecimal, readColumn, hspan]
  have hdatetime (index : Nat) (out : Datetime) :
      getDatetime other result index out =
        getDatetime setting result index out := by
    simp only [getDatetime, readColumn, hspan]
  have hinterval (index : Nat) (out : Interval) :
      getInterval other result index out =
        getInterval setting result index out := by
    simp only [getInterval, readColumn, hspan]
  have hdate (index : Nat) (out : Temporal.Date) :
      getDate other result index out = getDate setting result index out := by
    simp only [getDate, readColumn, hspan]
  have hint64 (services : Services) (index : Nat) (out : Cell Int) :
      getInt64 other services result index out =
        getInt64 setting services result index out := by
    simp only [getInt64, decimalInteger, readColumn, hspan, hdecimal]
  exact {
    int := fun _ _ _ => by simp only [getInt, hint64]
    int64 := hint64
    double := fun _ _ _ _ => by
      simp only [getDouble, decodeDouble, readColumn, hspan, hdecimal]
    bool := fun _ _ => by simp only [getBool, readColumn, hspan]
    decimal := hdecimal
    date := hdate
    datetime := hdatetime
    interval := hinterval
    stringLen := fun _ _ _ => by
      simp only [getStringLen, columnText, readColumn, hspan, hdecimal,
        hdatetime, hinterval, hdate]
    bytes := fun _ _ _ => by simp only [getBytes, readColumn, hspan] }

/-! The runs of a connection as one of its results meets them. -/

/-- What a result meets: a rollback, or a call on itself in the state the
connection is in. -/
inductive Seen where
  | rolledBack
  | moved (lifecycle : Lifecycle) (state : ConnState) (socketFd : Int)
      (calloc : Bool) (scrollFetch : ScrollType → Int → ScrollReply)
      (move : Move)

namespace Client

def seen (client : Client) (name : Nat) (call : Call) : List Seen :=
  match call with
  | .move other calloc scrollFetch move =>
      if other = name then
        [.moved client.txn.lifecycle client.txn.state client.txn.socketFd
          calloc scrollFetch move]
      else []
  | _ => if client.rollsBack call then [.rolledBack] else []

/-- What a call returns on the result, and the result after it. -/
def observe (client : Client) (name : Nat) (call : Call) :
    List (Outcome × Result) :=
  match call, client.results name with
  | .move other calloc scrollFetch move, some result =>
      if other = name then
        [result.move (settingOf client.txn calloc scrollFetch) move]
      else []
  | _, _ => []

def trace (client : Client) (name : Nat) : List Call → List Seen
  | [] => []
  | call :: calls =>
      client.seen name call ++ (client.step call).trace name calls

def observations (client : Client) (name : Nat) :
    List Call → List (Outcome × Result)
  | [] => []
  | call :: calls =>
      client.observe name call ++ (client.step call).observations name calls

end Client

/-- A connection that never commits. -/
def uncommitted (lifecycle : Lifecycle) (state : ConnState) (socketFd : Int)
    (rollbackEpoch : Nat) : Txn :=
  ⟨lifecycle, state, socketFd, false, true, 0, rollbackEpoch⟩

/-- What a result returns without any commit. -/
def replay (rollbackEpoch : Nat) (result : Result) :
    List Seen → List (Outcome × Result)
  | [] => []
  | .rolledBack :: rest => replay (rollbackEpoch + 1) result rest
  | .moved lifecycle state socketFd calloc scrollFetch move :: rest =>
      let returned := result.move (settingOf (uncommitted lifecycle state
        socketFd rollbackEpoch) calloc scrollFetch) move
      returned :: replay rollbackEpoch returned.2 rest

/-- The rollback epoch and the result at the end of a replay. -/
def replayed (rollbackEpoch : Nat) (result : Result) :
    List Seen → Nat × Result
  | [] => (rollbackEpoch, result)
  | .rolledBack :: rest => replayed (rollbackEpoch + 1) result rest
  | .moved lifecycle state socketFd calloc scrollFetch move :: rest =>
      let returned := result.move (settingOf (uncommitted lifecycle state
        socketFd rollbackEpoch) calloc scrollFetch) move
      replayed rollbackEpoch returned.2 rest

/-- A result held over commits, and the rollbacks of its connection. -/
structure Holding (client : Client) (name rollbackEpoch : Nat)
    (result : Result) : Prop where
  opened : client.results name = some result
  holdability : result.holdability = .holdOverCommit
  rollbackEpoch : client.txn.rollbackEpoch = rollbackEpoch

variable {client : Client} {name rollbackEpoch : Nat} {call : Call}

theorem isClosedByCommit_of_held (hheld : result.holdability = .holdOverCommit)
    {txn later : Txn} (hepoch : later.rollbackEpoch = txn.rollbackEpoch)
    (calloc : Bool) (scrollFetch : ScrollType → Int → ScrollReply) :
    result.isClosedByCommit (settingOf later calloc scrollFetch) =
      result.isClosedByCommit (settingOf txn calloc scrollFetch) := by
  have hcloses : (Holdability.holdOverCommit == .closeAtCommit) = false := rfl
  simp [isClosedByCommit, settingOf, ownerOf, hheld, hepoch, hcloses]

/-- A held result answers a call as it would without any commit. -/
theorem Holding.move (hholding : Holding client name rollbackEpoch result)
    (calloc : Bool) (scrollFetch : ScrollType → Int → ScrollReply)
    (move : Move) :
    result.move (settingOf client.txn calloc scrollFetch) move =
      result.move (settingOf (uncommitted client.txn.lifecycle client.txn.state
        client.txn.socketFd rollbackEpoch) calloc scrollFetch) move := by
  have hclosed := isClosedByCommit_of_held hholding.holdability
    (show client.txn.rollbackEpoch = (uncommitted client.txn.lifecycle
      client.txn.state client.txn.socketFd rollbackEpoch).rollbackEpoch
      from hholding.rollbackEpoch) calloc scrollFetch
  have halike : Alike (settingOf (uncommitted client.txn.lifecycle
      client.txn.state client.txn.socketFd rollbackEpoch) calloc scrollFetch)
      (settingOf client.txn calloc scrollFetch) result :=
    ⟨rfl, rfl, rfl, hclosed, rfl⟩
  exact halike.move move

/-- A call on the connection or on another result is met as a rollback, or not
at all. -/
theorem Holding.elsewhere (hholding : Holding client name rollbackEpoch result)
    (hresult : (client.step call).results name = some result)
    (hseen : client.seen name call =
      if client.rollsBack call then [.rolledBack] else []) :
    client.seen name call = [] ∧
        Holding (client.step call) name rollbackEpoch result ∨
      client.seen name call = [.rolledBack] ∧
        Holding (client.step call) name (rollbackEpoch + 1) result := by
  have hepoch := (advances_step client call).rollbackEpoch
  rw [hholding.rollbackEpoch] at hepoch
  cases hrolls : client.rollsBack call with
  | false =>
      rw [hrolls] at hseen hepoch
      exact .inl ⟨hseen, hresult, hholding.holdability, hepoch⟩
  | true =>
      rw [hrolls] at hseen hepoch
      exact .inr ⟨hseen, hresult, hholding.holdability, hepoch⟩

theorem Holding.moved (hholding : Holding client name rollbackEpoch result)
    (calloc : Bool) (scrollFetch : ScrollType → Int → ScrollReply)
    (move : Move) :
    Holding (client.step (.move name calloc scrollFetch move)) name
      rollbackEpoch
      (result.move (settingOf client.txn calloc scrollFetch) move).2 := by
  simp only [Client.step, hholding.opened]
  refine ⟨Client.results_withResult _ _ _, ?_, hholding.rollbackEpoch⟩
  exact (congrArg Terms.holdability (terms_move _ _ _)).trans
    hholding.holdability

/-- The calls on a connection show in a held result as its own trace replayed. -/
theorem Holding.replay (hholding : Holding client name rollbackEpoch result)
    {calls : List Call} (hkept : Kept name calls) :
    client.observations name calls =
        replay rollbackEpoch result (client.trace name calls) ∧
      Holding (client.run calls) name
        (replayed rollbackEpoch result (client.trace name calls)).1
        (replayed rollbackEpoch result (client.trace name calls)).2 := by
  induction calls generalizing client rollbackEpoch result with
  | nil => exact ⟨rfl, hholding⟩
  | cons call calls ih =>
      have helsewhere (hresult : (client.step call).results name = some result)
          (hobserve : client.observe name call = [])
          (hseen : client.seen name call =
            if client.rollsBack call then [.rolledBack] else []) :
          client.observations name (call :: calls) = Result.replay
              rollbackEpoch result (client.trace name (call :: calls)) ∧
            Holding (client.run (call :: calls)) name
              (replayed rollbackEpoch result
                (client.trace name (call :: calls))).1
              (replayed rollbackEpoch result
                (client.trace name (call :: calls))).2 := by
        simp only [Client.observations, Client.trace, Client.run, hobserve,
          List.nil_append]
        rcases hholding.elsewhere hresult hseen with
          ⟨hseen, hnext⟩ | ⟨hseen, hnext⟩
        · rw [hseen]
          exact ih hnext hkept.tail
        · rw [hseen]
          exact ih hnext hkept.tail
      cases call with
      | create other received =>
          have hne : name ≠ other := fun hsame =>
            hkept.head received (by rw [hsame])
          exact helsewhere
            ((Client.results_withResult_of_ne hne _ _).trans hholding.opened)
            (by simp [Client.observe]) rfl
      | move other calloc scrollFetch move =>
          by_cases hsame : other = name
          · subst hsame
            have hrest := ih (hholding.moved calloc scrollFetch move) hkept.tail
            simp only [Client.observations, Client.trace, Client.run,
              Client.observe, Client.seen, hholding.opened, if_true,
              List.singleton_append, Result.replay, replayed,
              ← hholding.move]
            exact ⟨congrArg _ hrest.1, hrest.2⟩
          · refine helsewhere ?_ ?_ ?_
            · simp only [Client.step]
              split
              · exact hholding.opened
              · exact (Client.results_withResult_of_ne (Ne.symm hsame) _
                  _).trans hholding.opened
            · simp [Client.observe, hholding.opened, hsame]
            · simp [Client.seen, hsame, Client.rollsBack]
      | _ => exact helsewhere hholding.opened (by simp [Client.observe]) rfl

theorem holding_create (start : Client) (name : Nat) {received : Result}
    (hheld : received.holdability = .holdOverCommit) :
    Holding (start.step (.create name received)) name
      start.txn.rollbackEpoch (captured start.txn received) :=
  ⟨Client.results_withResult _ _ _, hheld, rfl⟩

/-- A result that the end of a transaction closed is withheld until it is opened
anew.  What a held result returns and how it is read is settled by its trace,
in which no commit shows. -/
theorem closed_cursors_withheld (start : Client) (name : Nat)
    (received : Result) :
    let opened := start.step (.create name received)
    (∀ before ending after, Kept name (before ++ ending :: after) →
      Ends received.holdability (opened.run before) ending →
        ∃ result, (opened.run (before ++ ending :: after)).results name =
            some result ∧
          Withheld (opened.run (before ++ ending :: after)).txn result) ∧
    (received.holdability = .holdOverCommit → ∀ calls others,
      Kept name calls → Kept name others →
      opened.trace name calls = opened.trace name others →
        opened.observations name calls = opened.observations name others ∧
        ∃ result, (opened.run calls).results name = some result ∧
          (opened.run others).results name = some result ∧
          ∀ calloc scrollFetch,
            GettersAgree (settingOf (opened.run calls).txn calloc scrollFetch)
              (settingOf (opened.run others).txn calloc scrollFetch)
              result) := by
  intro opened
  refine ⟨fun before ending after hkept hends =>
    withheld_after_end start name received hkept hends, ?_⟩
  intro hheld calls others hcalls hothers htrace
  obtain ⟨hobserved, hholding⟩ := (holding_create start name hheld).replay hcalls
  obtain ⟨hobserved', hholding'⟩ :=
    (holding_create start name hheld).replay hothers
  rw [← htrace] at hobserved' hholding'
  refine ⟨hobserved.trans hobserved'.symm, _, hholding.opened, hholding'.opened,
    fun calloc scrollFetch => gettersAgree_of_closed ?_⟩
  exact isClosedByCommit_of_held hholding.holdability
    (hholding'.rollbackEpoch.trans hholding.rollbackEpoch.symm) _ _

/-- A connection in a transaction, without results. -/
def inTransaction : Client where
  txn := ⟨.clear, .ready, 3, true, false, 0, 0⟩
  results _ := none

/-- Two INTEGER rows, held over commits. -/
def heldIntegers : Result := { twoIntegers with holdability := .holdOverCommit }

theorem closed_cursors_withheld_commit :
    (∃ result, ((inTransaction.step (.create 0 twoIntegers)).run
        [.commit .ok]).results 0 = some result ∧
      Withheld ((inTransaction.step (.create 0 twoIntegers)).run
        [.commit .ok]).txn result) ∧
    (inTransaction.step (.create 0 heldIntegers)).observations 0
        [.commit .ok, .move 0 true unowned.scrollFetch .fetch] =
      (inTransaction.step (.create 0 heldIntegers)).observations 0
        [.move 0 true unowned.scrollFetch .fetch] :=
  ⟨(closed_cursors_withheld inTransaction 0 twoIntegers).1 [] (.commit .ok) []
      (by simp [Kept]) (.inr ⟨rfl, rfl⟩),
    ((closed_cursors_withheld inTransaction 0 heldIntegers).2 rfl _ _
      (by simp [Kept]) (by simp [Kept]) rfl).1⟩

end Libsqli.Result
