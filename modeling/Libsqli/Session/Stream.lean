import Libsqli.Receive.Streams
import Libsqli.Result.Frame
import Libsqli.Session.Query

namespace Libsqli.Session

open Libsqli.Data.Program
open Libsqli.Receive

/-! `sqli_query_stream`. -/

/-- What the delivery of rows finds beside the connection; `aborts` is what the
callback says of a row, given the rows it was called with before. -/
structure Streaming where
  calloc : Bool
  scrollFetch : ScrollType → Int → ScrollReply
  aborts : List (List UInt8) → Result → Bool

def Streaming.setting (streaming : Streaming) (txn : Txn) : Setting where
  owner := some ⟨txn.lifecycle, txn.state, txn.socketFd, txn.commitEpoch,
    txn.rollbackEpoch⟩
  calloc := streaming.calloc
  scrollFetch := streaming.scrollFetch

/-- A result that is read, and the rows that the callback has been called with. -/
structure Delivery where
  delivered : List (List UInt8)
  result : Result

/-- The loop of `sqli_stream_deliver_rows`; its rounds are bounded as row numbers
are. -/
def deliverLoop (setting : Setting)
    (aborts : List (List UInt8) → Result → Bool) :
    Nat → Delivery → Status × Delivery
  | 0, delivery => (.ok, delivery)
  | rounds + 1, delivery =>
      match delivery.result.fetch setting with
      | (.ok, next) =>
          let called : Delivery :=
            ⟨delivery.delivered ++ [next.view.tuple.getD []], next⟩
          if aborts delivery.delivered next then (.err, called)
          else deliverLoop setting aborts rounds called
      | (.eof, next) => (.ok, { delivery with result := next })
      | (status, next) => (status, { delivery with result := next })

/-- More rounds than there are row numbers. -/
def deliverRounds : Nat := int32Max.toNat + 1

/-- `sqli_stream_deliver_rows` -/
def deliverRows (streaming : Option Streaming) : Exchange Unit :=
  fun client =>
    match streaming with
    | none => .ok () client
    | some streaming =>
        let after := deliverLoop (streaming.setting client.txn)
          streaming.aborts deliverRounds ⟨client.delivered, client.result⟩
        let left := { client.withResult after.2.result with
          delivered := after.2.delivered }
        if after.1 = .ok then .ok () left else .error after.1 left

/-- The count that decides whether the fetch loop goes on. -/
def gotRows : Exchange Int := fun client => .ok client.rowCount client

/-- One round of the fetch loop: a group of rows is received, delivered and
dropped.  Their number is returned. -/
def streamRound (caps : Capabilities) (streaming : Option Streaming) :
    Exchange Int := do
  receive caps .fetchRecv
  let got ← gotRows
  deliverRows streaming
  updateResult Result.clearRows
  pure got

/-- `SQLI_SFETCH_ABSOLUTE` -/
def sfetchAbsolute : UInt16 := 1

/-- The request for more rows; that of a scroll cursor names a row. -/
def streamFetch (choice : CursorChoice) (stmtId index : Int) : Exchange Unit :=
  if choice.cursorType = .scrollInsensitive then do
    updateResult clearEof
    request (.scrollFetch stmtId sfetchAbsolute index)
  else nextFetch stmtId

/-- The messages that can still be received. -/
def Client.pending (client : Client) : Nat :=
  client.incoming.length + client.answers.flatten.length

/-- What decreases from round to round: a group takes up a message, unless the
result has been ended before. -/
def Client.streamRoom (client : Client) : Nat :=
  2 * client.pending + client.result.eof.toNat

theorem receive_ok {caps : Capabilities} {context : Context}
    {client after : Client} (hreceive : receive caps context client =
      .ok () after) :
    (receiveDispatch caps context client.incoming client.scene).status = .ok ∧
      after = (client.took (takenBy caps context client.rowCount
        client.incoming client.scene)).after
          (receiveDispatch caps context client.incoming client.scene) := by
  change (if (receiveDispatch caps context client.incoming
    client.scene).status = .ok then _ else _) = _ at hreceive
  split at hreceive
  · next hok =>
    cases hreceive
    exact ⟨hok, rfl⟩
  · cases hreceive

theorem receive_room {caps : Capabilities} {context : Context}
    {client after : Client}
    (hreceive : receive caps context client = .ok () after) :
    2 * after.pending < client.streamRoom := by
  obtain ⟨hok, rfl⟩ := receive_ok hreceive
  have hanswers : 2 * ((receiveDispatch caps context client.incoming
      client.scene).messages.length + client.answers.flatten.length) <
        2 * (client.incoming.length + client.answers.flatten.length) +
          client.result.eof.toNat := by
    cases heof : client.result.eof with
    | false =>
        have hread := receiveLoop_reads heof hok
        change (receiveDispatch caps context client.incoming
          client.scene).messages.length < _ at hread
        omega
    | true =>
        have hread := @receiveLoop_suffix caps context
          client.scene.result.rowCount client.incoming client.scene
        have hlength := hread.sublist.length_le
        change (receiveDispatch caps context client.incoming
          client.scene).messages.length ≤ _ at hlength
        rw [Bool.toNat_true]
        omega
  exact hanswers

theorem deliverRows_pending {streaming : Option Streaming}
    {client after : Client}
    (hdeliver : deliverRows streaming client = .ok () after) :
    after.pending = client.pending := by
  unfold deliverRows at hdeliver
  cases streaming with
  | none =>
      cases hdeliver
      rfl
  | some streaming =>
      dsimp only at hdeliver
      split at hdeliver
      · cases hdeliver
        rfl
      · cases hdeliver

theorem streamRound_ok {caps : Capabilities} {streaming : Option Streaming}
    {got : Int} {client after : Client}
    (hround : streamRound caps streaming client = .ok got after) :
    ∃ received left, receive caps .fetchRecv client = .ok () received ∧
      got = received.rowCount ∧
      deliverRows streaming received = .ok () left ∧
      after = left.withResult left.result.clearRows := by
  unfold streamRound at hround
  obtain ⟨⟨⟩, received, hreceive, hround⟩ := bind_eq_ok.mp hround
  obtain ⟨count, counted, hcount, hround⟩ := bind_eq_ok.mp hround
  cases hcount
  obtain ⟨⟨⟩, left, hdeliver, hround⟩ := bind_eq_ok.mp hround
  obtain ⟨⟨⟩, cleared, hclear, hround⟩ := bind_eq_ok.mp hround
  cases hclear
  cases hround
  exact ⟨received, left, hreceive, rfl, hdeliver, rfl⟩

theorem streamFetch_ok {choice : CursorChoice} {stmtId index : Int}
    {client after : Client}
    (hnext : streamFetch choice stmtId index client = .ok () after) :
    ∃ wanted, after =
      (client.withResult (clearEof client.result)).answered wanted := by
  have hasked {wanted : Request}
      (hrun : (do updateResult clearEof; request wanted : Exchange Unit) client =
        .ok () after) :
      after =
        (client.withResult (clearEof client.result)).answered wanted := by
    rw [bind_apply] at hrun
    change request _ _ = _ at hrun
    unfold request at hrun
    split at hrun
    · cases hrun
      rfl
    · cases hrun
  unfold streamFetch at hnext
  split at hnext
  · exact ⟨_, hasked hnext⟩
  · exact ⟨_, hasked hnext⟩

theorem answered_pending (client : Client) (wanted : Request) :
    (client.answered wanted).pending = client.pending := by
  change (client.incoming ++ client.answers.headD []).length +
    client.answers.tail.flatten.length = _
  unfold Client.pending
  cases client.answers with
  | nil => simp
  | cons first rest =>
      rw [List.length_append, List.headD_cons, List.tail_cons,
        List.flatten_cons, List.length_append]
      omega

theorem streamRound_room {caps : Capabilities} {streaming : Option Streaming}
    {choice : CursorChoice} {stmtId index got : Int}
    {client after behind : Client}
    (hround : streamRound caps streaming client = .ok got after)
    (hnext : streamFetch choice stmtId index after = .ok () behind) :
    behind.streamRoom < client.streamRoom := by
  obtain ⟨received, left, hreceive, -, hdeliver, rfl⟩ := streamRound_ok hround
  have hroom := receive_room hreceive
  have hleft := deliverRows_pending hdeliver
  obtain ⟨wanted, rfl⟩ := streamFetch_ok hnext
  change 2 * ((left.withResult (clearEof left.result.clearRows)).answered
    wanted).pending + 0 < _
  rw [answered_pending]
  change 2 * left.pending + 0 < _
  rw [hleft]
  exact hroom

/-- The fetch loop goes on as long as rows come. -/
def streamLoop (caps : Capabilities) (choice : CursorChoice)
    (streaming : Option Streaming) (stmtId : Int) : Exchange Unit :=
  fun client =>
    match _hround : streamRound caps streaming client with
    | .error status after => .error status after
    | .ok got after =>
        if got ≤ 0 then .ok () after
        else
          match _hnext : streamFetch choice stmtId (got + 1) after with
          | .error status behind => .error status behind
          | .ok () behind => streamLoop caps choice streaming stmtId behind
termination_by client => client.streamRoom
decreasing_by exact streamRound_room _hround _hnext

/-- The loop without its measure. -/
theorem streamLoop_apply (caps : Capabilities) (choice : CursorChoice)
    (streaming : Option Streaming) (stmtId : Int) (client : Client) :
    streamLoop caps choice streaming stmtId client =
      match streamRound caps streaming client with
      | .error status after => .error status after
      | .ok got after =>
          if got ≤ 0 then .ok () after
          else
            (do
              streamFetch choice stmtId (got + 1)
              streamLoop caps choice streaming stmtId : Exchange Unit)
              after := by
  rw [streamLoop]
  split
  · next hround => rw [hround]
  · next got after hround =>
    rw [hround]
    dsimp only
    by_cases hgot : got ≤ 0
    · rw [if_pos hgot, if_pos hgot]
    · rw [if_neg hgot, if_neg hgot, bind_apply]
      split <;> next hnext => rw [hnext]

def streamSelect (caps : Capabilities) (choice : CursorChoice)
    (streaming : Option Streaming) (stmtId : Int) : Exchange Unit := do
  request (.open stmtId)
  receive caps .otherRecv
  streamFetch choice stmtId 1
  streamLoop caps choice streaming stmtId
  closeRelease caps stmtId
  updateResult forgetStatement

def streamExecute (caps : Capabilities) (streaming : Option Streaming)
    (stmtId : Int) : Exchange Unit := do
  request (.execute stmtId)
  receive caps .otherRecv
  deliverRows streaming

def runStream (caps : Capabilities) (choice : CursorChoice)
    (streaming : Option Streaming) : Exchange Unit := fun client =>
  if selects client.result then
    streamSelect caps choice streaming client.result.stmtId client
  else streamExecute caps streaming client.result.stmtId client

def answerStream (caps : Capabilities) (choice : CursorChoice)
    (streaming : Option Streaming) : Exchange Unit := do
  receive caps .prepareRecv
  autobegin caps
  checkPrepared
  runStream caps choice streaming
  track

/-- `sqli_query_stream` -/
def queryStream (caps : Capabilities) (choice : CursorChoice)
    (streaming : Option Streaming) (sql : List UInt8) : Exchange Unit := do
  checkReady
  newResult choice
  request (.prepare sql)
  onError (answerStream caps choice streaming) (destroyResult caps)
  destroyResult caps

end Libsqli.Session
