import Libsqli.Sblob.LobReaders
import Libsqli.Sblob.Writes

namespace Libsqli.Sblob

open Libsqli.Data.Bytes
open Libsqli.Data.Program
open Libsqli.Data.Stream
open Libsqli.Octets
open Libsqli.Receive (Done ServerError)
open Libsqli.Wire (Outgoing)

variable {remove64k longRowId : Bool} {done : Done} {own : List Look}
  {nbytes count : Nat} {lofd : Int} {data front : List UInt8}
  {wire : Outgoing}

/-! The replies of a server to a write. -/

/-- A message behind an acknowledgement. -/
inductive Behind where
  | done (done : Done)
  | err (error : ServerError)

def errorBytes (error : ServerError) : List UInt8 :=
  bigEndian 2 error.sqlcode.toUInt16.toNat ++
    (bigEndian 2 error.isamcode.toUInt16.toNat ++ (error.skipped ++
      (bigEndian 2 error.text.length ++ padEven error.text)))

def Behind.bytes (longRowId : Bool) : Behind → List UInt8
  | .done done => [0, 15] ++ doneBytes longRowId done
  | .err error => [0, 13] ++ errorBytes error

/-- The reply behind its leading ends: an SQ_LODATA and what stands behind it, or
another message in its place. -/
inductive WriteAnswer where
  | acknowledged (optype : UInt16) (size : UInt32) (behind : List Behind)
  | refused (high low : UInt8) (message : List UInt8)
      (heot : word high low ≠ Opcode.eot)
      (hlodata : word high low ≠ Opcode.lodata)

def WriteAnswer.bytes (longRowId : Bool) : WriteAnswer → List UInt8
  | .acknowledged optype size behind =>
      [0, 97] ++ (lodataBytes optype.toNat size.toNat ++
        (behind.flatMap (Behind.bytes longRowId) ++ eotBytes))
  | .refused high low message _ _ => [high, low] ++ message

/-- The transport brings the first `arrived` octets of it. -/
structure WriteReply where
  leading : Nat
  answer : WriteAnswer
  arrived : Nat

namespace WriteReply

def whole (longRowId : Bool) (reply : WriteReply) : List UInt8 :=
  ends reply.leading ++ reply.answer.bytes longRowId

def octets (longRowId : Bool) (reply : WriteReply) : List UInt8 :=
  (reply.whole longRowId).take reply.arrived

/-- An acknowledgement of operation 2, whatever size it reports. -/
def Accepts (reply : WriteReply) (behind : List Behind) : Prop :=
  ∃ size, reply.answer = .acknowledged 2 size behind

/-- All of it arrives: an acknowledgement, and no SQ_ERR up to the end. -/
def Confirms (longRowId : Bool) (reply : WriteReply) : Prop :=
  (∃ behind, reply.Accepts behind ∧ ∀ error, Behind.err error ∉ behind) ∧
    (reply.whole longRowId).length ≤ reply.arrived

end WriteReply

/-- The loop behind an answer finds its way past it. -/
def Behind.Skipped (longRowId : Bool) : Behind → Prop
  | .done done => SkippedWhole longRowId done
  | .err _ => False

/-- An acknowledgement of operation 2 does not report a negative size. Behind it
there is no SQ_ERR, and no DONE that its first ten octets do not lead past. -/
def WriteReply.Regular (longRowId : Bool) (reply : WriteReply) : Prop :=
  ∀ size behind, reply.answer = .acknowledged 2 size behind →
    0 ≤ toInt32 size.toNat ∧ ∀ message ∈ behind, message.Skipped longRowId

/-! `sqli_sblob_write` and its loop. -/

/-- What the connection has to do with it. -/
structure WriteConn where
  ready : Bool
  remove64k : Bool
  longRowId : Bool

def arrive (octets : List UInt8) : OctetReader Unit := fun state =>
  .ok () { state with unread := state.unread ++ octets }

/-- `sqli_sblob_write`. The server replies to a request that it has whole. -/
def write (conn : WriteConn) (lofd : Int) (data : List UInt8) (wire : Outgoing)
    (reply : WriteReply) : OctetReader Nat :=
  match sendWrite conn.ready lofd data wire with
  | .error status _ => throw status
  | .ok false _ => pure 0
  | .ok true _ => do
      arrive (reply.octets conn.longRowId)
      sblobWrite conn.remove64k data.length

/-- What a call of the reader returns and leaves in the buffer. -/
structure Callback where
  status : Status
  nread : Nat
  chunk : { octets : List UInt8 // octets.length = bufsize }

def Callback.block (callback : Callback) : List UInt8 :=
  callback.chunk.val.take callback.nread

/-- A round of the loop: the call of the reader, and the wire and the reply of the
write that may follow. -/
structure Exchange where
  callback : Callback
  wire : Outgoing
  reply : WriteReply

/-- The status and `*bytes_written`, once it has returned. -/
def streamFrom (conn : WriteConn) (lofd : Int) :
    List Exchange → Nat → Incoming (List Look) → Option (Status × Nat)
  | [], _, _ => none
  | exchange :: exchanges, total, state =>
      let callback := exchange.callback
      if callback.status ≠ .ok then some (callback.status, total)
      else if callback.nread = 0 then some (.ok, total)
      else if bufsize < callback.nread then some (.err, total)
      else if 2 ^ 64 - 1 - total < callback.nread then
        some (.limitExceeded, total)
      else
        match write conn lofd callback.block exchange.wire exchange.reply
            state with
        | .error status _ => some (status, total)
        | .ok written after =>
            if callback.nread < written then some (.protoError, total)
            else if written ≠ callback.nread then some (.err, total + written)
            else streamFrom conn lofd exchanges (total + written) after

/-- `sqli_sblob_t` -/
structure SblobHandle where
  isOpen : Bool
  lofd : Int

def SblobHandle.Usable (handle : SblobHandle) : Prop :=
  handle.isOpen = true ∧ 0 ≤ handle.lofd

instance (handle : SblobHandle) : Decidable handle.Usable :=
  inferInstanceAs (Decidable (_ ∧ _))

/-- `sqli_sblob_write_stream`, with nothing unread on the socket. -/
def writeStream (conn : WriteConn) (handle : SblobHandle)
    (exchanges : List Exchange) (looks : List Look) : Option (Status × Nat) :=
  if handle.Usable then streamFrom conn handle.lofd exchanges 0 ⟨[], looks⟩
  else some (.invalidState, 0)

/-! Which writes count. -/

/-- The server has the request and confirms it. -/
def Confirmed (conn : WriteConn) (lofd : Int) (data : List UInt8)
    (wire : Outgoing) (reply : WriteReply) : Prop :=
  (∃ after, sendWrite conn.ready lofd data wire = .ok true after) ∧
    reply.Confirms conn.longRowId

namespace Exchange

def Confirmed (conn : WriteConn) (lofd : Int) (exchange : Exchange) : Prop :=
  Sblob.Confirmed conn lofd exchange.callback.block exchange.wire exchange.reply

/-- The reader brings a block and the total has room for it. -/
def Offers (total : Nat) (exchange : Exchange) : Prop :=
  exchange.callback.status = .ok ∧ 0 < exchange.callback.nread ∧
    exchange.callback.nread ≤ bufsize ∧
      total + exchange.callback.nread < 2 ^ 64

/-- The end of the data. -/
def Ends (exchange : Exchange) : Prop :=
  exchange.callback.status = .ok ∧ exchange.callback.nread = 0

end Exchange

/-- The writes in front are confirmed, and what they add to the total is theirs; the
round that the call returns from brings no confirmed write, and with SQLI_OK it
is the end of the data. -/
def Accounts (conn : WriteConn) (handle : SblobHandle)
    (exchanges : List Exchange) (total : Nat) (status : Status)
    (written : Nat) : Prop :=
  ∃ confirmed rest, exchanges = confirmed ++ rest ∧
    (∀ exchange ∈ confirmed, exchange.Confirmed conn handle.lofd) ∧
    written = total +
      (confirmed.map fun exchange => exchange.callback.block.length).sum ∧
    (∀ last ∈ rest.head?, handle.Usable → last.Offers written →
      ¬ last.Confirmed conn handle.lofd) ∧
    (status = .ok → ∃ last ∈ rest.head?, last.Ends)

/-! More octets change nothing of a write that returns. -/

theorem extends_tcpRead {count : Nat} : Extends (tcpRead count) :=
  Extends.ite (Extends.throw _) (Extends.readExact count)

theorem extends_tcpWord : Extends tcpWord := extends_tcpRead.map natOfBytes

theorem extends_drainTrailing : Extends drainTrailing := by
  refine Extends.forever (fun _ => ?_) ()
  refine extends_tcpWord.bind fun opcode => ?_
  refine Extends.ite (Extends.pure _) (Extends.ite ?_ (Extends.pure _))
  exact extends_tcpRead.map _

theorem extends_replyOpcode : Extends replyOpcode := by
  refine Extends.forever (fun _ => ?_) ()
  exact extends_tcpWord.bind fun opcode =>
    Extends.ite (Extends.pure _) (Extends.pure _)

theorem expectOpcode_ok {wanted opcode : Nat} {state : Incoming (List Look)}
    (hrun : expectOpcode remove64k wanted opcode state = .ok value after) :
    opcode = wanted ∧ opcode ≠ Opcode.err ∧ after = state := by
  unfold expectOpcode at hrun
  by_cases herr : opcode = Opcode.err
  · rw [if_pos herr] at hrun
    obtain ⟨_, _, -, hthrow⟩ := bind_eq_ok.mp hrun
    cases hthrow
  · rw [if_neg herr] at hrun
    by_cases hwanted : opcode = wanted
    · rw [if_neg (not_not.mpr hwanted)] at hrun
      cases hrun
      exact ⟨hwanted, herr, rfl⟩
    · rw [if_pos hwanted] at hrun
      cases hrun

theorem extends_expectOpcode (wanted opcode : Nat) :
    Extends (expectOpcode remove64k wanted opcode) := by
  intro unread more own value after hrun
  obtain ⟨rfl, herr, rfl⟩ := expectOpcode_ok hrun
  rw [expectOpcode, if_neg herr, if_neg (not_not.mpr rfl)]
  rfl

theorem extends_lodataHeader : Extends (lodataHeader remove64k) :=
  extends_replyOpcode.bind fun _ => (extends_expectOpcode _ _).bind fun _ =>
    extends_tcpRead.bind fun _ => Extends.pure _

theorem extends_sblobWrite : Extends (sblobWrite remove64k nbytes) :=
  extends_lodataHeader.bind fun _ => extends_drainTrailing.bind fun _ =>
    Extends.ite (Extends.throw _) (Extends.pure _)

/-! The loop behind an answer, message by message. -/

theorem takes_drainTrailing {behind : List Behind}
    (hskipped : ∀ message ∈ behind, message.Skipped longRowId) :
    Takes drainTrailing
      (behind.flatMap (Behind.bytes longRowId) ++ eotBytes) () := by
  intro rest own
  induction behind with
  | nil => exact drainTrailing_eot (by decide) rest
  | cons message behind ih =>
      obtain ⟨hmessage, hrest⟩ := List.forall_mem_cons.mp hskipped
      cases message with
      | err error => cases hmessage
      | done done =>
          rw [List.flatMap_cons, List.append_assoc, List.append_assoc]
          exact (passed_done hmessage _ _).trans
            (List.append_assoc _ _ rest ▸ ih hrest)

/-! When a write returns. -/

theorem takes_header (reply : WriteReply) {optype : UInt16} {size : UInt32} :
    Takes (lodataHeader remove64k)
      (ends reply.leading ++ [0, 97] ++ lodataBytes optype.toNat size.toNat)
      (optype.toNat, toInt32 size.toNat) :=
  takes_lodataHeader optype.toNat_lt size.toNat_lt reply.leading

/-- It returns if all of a regular acknowledgement has arrived. -/
theorem sblobWrite_accepts {reply : WriteReply} {behind : List Behind}
    {size : UInt32} (hanswer : reply.answer = .acknowledged 2 size behind)
    (hregular : reply.Regular longRowId) :
    Takes (sblobWrite remove64k nbytes) (reply.whole longRowId) nbytes := by
  obtain ⟨hsize, hskipped⟩ := hregular size behind hanswer
  have hwhole : reply.whole longRowId =
      ends reply.leading ++ [0, 97] ++
        lodataBytes (2 : UInt16).toNat size.toNat ++
        (behind.flatMap (Behind.bytes longRowId) ++ eotBytes) := by
    simp [WriteReply.whole, WriteAnswer.bytes, hanswer]
  rw [hwhole]
  refine (takes_header reply).bind ((takes_drainTrailing hskipped).then ?_)
  rw [if_neg (by simpa using hsize)]
  exact Takes.pure nbytes

/-- It does not return if the reply does not accept the write. -/
theorem sblobWrite_ok {reply : WriteReply} {found : Nat}
    {after : Incoming (List Look)}
    (hrun : sblobWrite remove64k nbytes ⟨reply.whole longRowId, own⟩ =
      .ok found after) :
    found = nbytes ∧
      ∃ size behind, reply.answer = .acknowledged 2 size behind := by
  obtain ⟨header, middle, hheader, hrest⟩ := bind_eq_ok.mp hrun
  obtain ⟨_, last, -, hlast⟩ := bind_eq_ok.mp hrest
  by_cases hfails : header.1 ≠ 2 ∨ header.2 < 0
  · rw [if_pos hfails] at hlast
    cases hlast
  · rw [if_neg hfails] at hlast
    cases hlast
    refine ⟨rfl, ?_⟩
    match hanswer : reply.answer with
    | .acknowledged optype size behind =>
        have hwhole : reply.whole longRowId =
            ends reply.leading ++ [0, 97] ++
              lodataBytes optype.toNat size.toNat ++
              (behind.flatMap (Behind.bytes longRowId) ++ eotBytes) := by
          simp [WriteReply.whole, WriteAnswer.bytes, hanswer]
        rw [hwhole, takes_header reply] at hheader
        cases hheader
        simp only [not_or, not_not, Int.not_lt] at hfails
        have hoptype : optype = 2 := by
          simpa [← UInt16.toNat_inj] using hfails.1
        exact ⟨size, behind, by rw [hoptype]⟩
    | .refused high low message heot hlodata =>
        have hwhole : reply.whole longRowId =
            ends reply.leading ++ [high, low] ++ message := by
          simp [WriteReply.whole, WriteAnswer.bytes, hanswer]
        unfold lodataHeader at hheader
        rw [hwhole, (takes_replyOpcode heot reply.leading).bind_eq] at hheader
        obtain ⟨_, _, hexpect, -⟩ := bind_eq_ok.mp hheader
        exact absurd (expectOpcode_ok hexpect).1 hlodata

theorem sblobWrite_confirms {reply : WriteReply} {found : Nat}
    {after : Incoming (List Look)} (hregular : reply.Regular longRowId) :
    sblobWrite remove64k nbytes ⟨reply.octets longRowId, own⟩ =
        .ok found after ↔
      reply.Confirms longRowId ∧ found = nbytes ∧ after = ⟨[], own⟩ := by
  constructor
  · intro hrun
    have hextended := extends_sblobWrite _
      ((reply.whole longRowId).drop reply.arrived) own found after hrun
    rw [WriteReply.octets, List.take_append_drop] at hextended
    obtain ⟨hfound, size, behind, hanswer⟩ := sblobWrite_ok hextended
    have hskipped := (hregular size behind hanswer).2
    have hwhole := @sblobWrite_accepts remove64k longRowId nbytes reply behind
      size hanswer hregular [] own
    rw [List.append_nil, hextended, EStateM.Result.ok.injEq,
      Incoming.mk.injEq, List.append_eq_nil_iff, List.drop_eq_nil_iff] at hwhole
    obtain ⟨-, ⟨hunread, harrived⟩, hown⟩ := hwhole
    refine ⟨⟨⟨behind, ⟨size, hanswer⟩, ?_⟩, harrived⟩, hfound, ?_⟩
    · exact fun error hmember => hskipped _ hmember
    · rw [← hunread, ← hown]
  · rintro ⟨⟨⟨behind, ⟨size, hanswer⟩, -⟩, harrived⟩, rfl, rfl⟩
    have htakes := @sblobWrite_accepts remove64k longRowId found reply behind
      size hanswer hregular [] own
    rwa [List.append_nil, ← List.take_of_length_le harrived] at htakes

/-! No failure is reported as success. -/

abbrev Fails (program : EStateM Status σ α) : Prop :=
  Holds (fun _ => True) program (fun _ _ => True)
    fun error _ => error ≠ Status.ok

theorem Fails.pure (value : α) :
    Fails (Pure.pure value : EStateM Status σ α) :=
  Holds.pure fun _ _ => trivial

theorem Fails.throw {status : Status} (hstatus : status ≠ .ok) :
    Fails (throw status : EStateM Status σ α) :=
  fun _ _ => hstatus

theorem Fails.of_waits {program : OctetReader α} (hwaits : Waits program) :
    Fails program :=
  hwaits.mono (fun _ _ => trivial) (fun _ _ _ => trivial) fun error _ herror => by
    rw [show error = .ioError from herror]
    decide

theorem fails_lodataHeader : Fails (lodataHeader remove64k) := by
  have hopcode : Fails replyOpcode :=
    Fails.of_waits <| Holds.forever
      (fun _ => (waits_tcpWord).bind fun _ =>
        Holds.ite (fun _ => Holds.pure fun _ _ => trivial)
          fun _ => Holds.pure fun _ _ => trivial) (fun _ _ => rfl) ()
  have herror : Fails (heedless (receiveError remove64k)) :=
    fun _ _ => trivial
  have hexpect (opcode : Nat) :
      Fails (expectOpcode remove64k Opcode.lodata opcode) :=
    Holds.ite
      (fun _ => herror.bind fun _ => Fails.throw (by decide))
      fun _ => Holds.ite (fun _ => Fails.throw (by decide))
        fun _ => Fails.pure ()
  exact hopcode.bind fun _ => (hexpect _).bind fun _ =>
    (Fails.of_waits (waits_tcpRead 6)).bind fun _ => Fails.pure _

theorem fails_sblobWrite : Fails (sblobWrite remove64k nbytes) :=
  fails_lodataHeader.bind fun _ =>
    (Fails.of_waits waits_drainTrailing).bind fun _ =>
      Holds.ite (fun _ => Fails.throw (by decide)) fun _ => Fails.pure _

theorem fails_send (bytes : List UInt8) : Fails (Wire.send bytes) := by
  intro state _
  unfold Wire.send
  cases htcp : Wire.tcpSend bytes state with
  | mk complete after =>
      cases complete with
      | true => trivial
      | false => exact fun hstatus => nomatch hstatus

theorem fails_sendChunks (data : List UInt8) : Fails (sendChunks data) := by
  fun_induction sendChunks data with
  | case1 => exact Fails.pure ()
  | case2 data hdata ih =>
      have hchunk (chunk : List UInt8) : Fails (sendChunk chunk) :=
        (fails_send _).bind fun _ => (fails_send _).bind fun _ =>
          Holds.ite (fun _ => fails_send _) fun _ => Fails.pure ()
      exact (hchunk _).bind fun _ => ih

theorem fails_sendWrite (ready : Bool) (lofd : Int) (data : List UInt8) :
    Fails (sendWrite ready lofd data) := by
  have hrequest : Fails (requestWrite lofd data) :=
    (fails_send _).bind fun _ => (fails_sendChunks data).bind fun _ =>
      (fails_send _).bind fun _ => Fails.pure true
  intro wire _
  unfold sendWrite
  by_cases hlofd : lofd < 0
  · rw [if_pos hlofd]
    exact fun hstatus => nomatch hstatus
  · rw [if_neg hlofd]
    by_cases hdata : data = []
    · rw [if_pos hdata]
      trivial
    · rw [if_neg hdata]
      by_cases hclosed : wire.fd < 0 ∨ ready = false
      · rw [if_pos hclosed]
        exact fun hstatus => nomatch hstatus
      · rw [if_neg hclosed]
        exact hrequest wire trivial

/-! One write. -/

variable {conn : WriteConn} {reply : WriteReply} {handle : SblobHandle}

theorem sendWrite_false {after : Outgoing}
    (hrun : sendWrite ready lofd data wire = .ok false after) : data = [] := by
  unfold sendWrite at hrun
  by_contra hdata
  rw [if_neg hdata] at hrun
  split at hrun
  · cases hrun
  · split at hrun
    · cases hrun
    · cases requestWrite_true hrun

/-- A write of some octets returns exactly where the server confirms it, with all
of them written and the reply read. -/
theorem write_eq_ok (hregular : reply.Regular conn.longRowId) (hdata : data ≠ [])
    {written : Nat} {after : Incoming (List Look)} :
    write conn lofd data wire reply ⟨[], own⟩ = .ok written after ↔
      Confirmed conn lofd data wire reply ∧ written = data.length ∧
        after = ⟨[], own⟩ := by
  unfold write Confirmed
  cases hsend : sendWrite conn.ready lofd data wire with
  | error status final =>
      refine iff_of_false nofun ?_
      rintro ⟨⟨⟨_, hok⟩, -⟩, -⟩
      cases hok
  | ok made final =>
      cases made with
      | false => exact absurd (sendWrite_false hsend) hdata
      | true =>
          have hreply := @sblobWrite_confirms conn.remove64k conn.longRowId own
            data.length reply written after hregular
          refine hreply.trans ?_
          have hsent : ∃ other, (.ok true final : EStateM.Result Status
              Outgoing Bool) = .ok true other := ⟨final, rfl⟩
          rw [and_iff_right hsent]

theorem write_error {status : Status} {state after : Incoming (List Look)}
    (hrun : write conn lofd data wire reply state = .error status after) :
    status ≠ .ok := by
  unfold write at hrun
  cases hsend : sendWrite conn.ready lofd data wire with
  | error failure final =>
      have hfails := fails_sendWrite conn.ready lofd data wire trivial
      rw [hsend] at hrun hfails
      cases hrun
      exact hfails
  | ok made final =>
      rw [hsend] at hrun
      cases made with
      | false => cases hrun
      | true =>
          have hfails := @fails_sblobWrite conn.remove64k data.length
            { state with unread := state.unread ++ reply.octets conn.longRowId }
            trivial
          change sblobWrite conn.remove64k data.length _ = _ at hrun
          rw [hrun] at hfails
          exact hfails

/-! The loop. -/

theorem Callback.length_block {callback : Callback}
    (hnread : callback.nread ≤ bufsize) :
    callback.block.length = callback.nread := by
  rw [Callback.block, List.length_take, callback.chunk.property]
  exact Nat.min_eq_left hnread

theorem Accounts.stop {exchange : Exchange} {exchanges : List Exchange}
    {total : Nat} {status : Status}
    (hunconfirmed : exchange.Offers total →
      ¬ exchange.Confirmed conn handle.lofd)
    (hends : status = .ok → exchange.Ends) :
    Accounts conn handle (exchange :: exchanges) total status total := by
  refine ⟨[], exchange :: exchanges, rfl, by simp, by simp, ?_, ?_⟩
  · rintro last hlast -
    cases hlast
    exact hunconfirmed
  · exact fun hstatus => ⟨exchange, rfl, hends hstatus⟩

theorem Accounts.next {exchange : Exchange} {exchanges : List Exchange}
    {total written : Nat} {status : Status}
    (hconfirmed : exchange.Confirmed conn handle.lofd)
    (haccounts : Accounts conn handle exchanges
      (total + exchange.callback.block.length) status written) :
    Accounts conn handle (exchange :: exchanges) total status written := by
  obtain ⟨confirmed, rest, rfl, hall, hwritten, hlast, hend⟩ := haccounts
  refine ⟨exchange :: confirmed, rest, rfl, ?_, ?_, hlast, hend⟩
  · exact List.forall_mem_cons.mpr ⟨hconfirmed, hall⟩
  · rw [hwritten, List.map_cons, List.sum_cons, Nat.add_assoc]

theorem streamFrom_accounts {exchanges : List Exchange} {total : Nat}
    (hregular : ∀ exchange ∈ exchanges,
      exchange.reply.Regular conn.longRowId)
    (hstream : streamFrom conn handle.lofd exchanges total ⟨[], own⟩ =
      some (status, written)) :
    Accounts conn handle exchanges total status written := by
  induction exchanges generalizing total with
  | nil => cases hstream
  | cons exchange exchanges ih =>
      obtain ⟨hreply, hrest⟩ := List.forall_mem_cons.mp hregular
      unfold streamFrom at hstream
      dsimp only at hstream
      by_cases hstatus : exchange.callback.status = .ok
      · rw [if_neg (not_not.mpr hstatus)] at hstream
        by_cases hnread : exchange.callback.nread = 0
        · rw [if_pos hnread] at hstream
          cases hstream
          refine Accounts.stop (fun hoffers => ?_) fun _ => ⟨hstatus, hnread⟩
          exact absurd hnread hoffers.2.1.ne'
        · rw [if_neg hnread] at hstream
          by_cases hsize : bufsize < exchange.callback.nread
          · rw [if_pos hsize] at hstream
            cases hstream
            refine Accounts.stop (fun hoffers => ?_) nofun
            exact absurd hoffers.2.2.1 (Nat.not_le.mpr hsize)
          · rw [if_neg hsize] at hstream
            by_cases hlimit : 2 ^ 64 - 1 - total < exchange.callback.nread
            · rw [if_pos hlimit] at hstream
              cases hstream
              refine Accounts.stop (fun hoffers => ?_) nofun
              have hroom := hoffers.2.2.2
              omega
            · rw [if_neg hlimit] at hstream
              have hlength := Callback.length_block (Nat.not_lt.mp hsize)
              have hblock : exchange.callback.block ≠ [] := by
                refine List.ne_nil_of_length_pos ?_
                omega
              cases hwrite : write conn handle.lofd exchange.callback.block
                  exchange.wire exchange.reply ⟨[], own⟩ with
              | error failure after =>
                  rw [hwrite] at hstream
                  cases hstream
                  refine Accounts.stop (fun _ hconfirmed => ?_)
                    fun hok => absurd hok (write_error hwrite)
                  have hok : write conn handle.lofd exchange.callback.block
                      exchange.wire exchange.reply ⟨[], own⟩ =
                        .ok exchange.callback.block.length ⟨[], own⟩ :=
                    (write_eq_ok hreply hblock).mpr ⟨hconfirmed, rfl, rfl⟩
                  rw [hok] at hwrite
                  cases hwrite
              | ok count after =>
                  obtain ⟨hconfirmed, rfl, rfl⟩ :=
                    (write_eq_ok hreply hblock).mp hwrite
                  rw [hwrite] at hstream
                  dsimp only at hstream
                  rw [if_neg (by omega), if_neg (by omega)] at hstream
                  exact Accounts.next hconfirmed (ih hrest hstream)
      · rw [if_pos hstatus] at hstream
        cases hstream
        refine Accounts.stop (fun hoffers => ?_) fun hok => absurd hok hstatus
        exact absurd hoffers.1 hstatus

theorem sendWrite_carried (hlofd : 0 ≤ lofd) (hdata : data ≠ [])
    (hwire : ∀ index, wire.Completes index) :
    ∃ after, sendWrite true lofd data wire = .ok true after := by
  obtain ⟨made, after, hrun, -⟩ := carried_requestWrite lofd data wire hwire
  obtain rfl := requestWrite_true hrun
  exact ⟨after, (sendWrite_request hlofd hdata (hwire 0).1).trans hrun⟩

/-- With regular replies only. Every write of some octets that returns SQLI_OK is
confirmed, and a stream counts what is. -/
theorem writes_confirmed (conn : WriteConn) (handle : SblobHandle)
    (exchanges : List Exchange) (looks : List Look)
    (hregular : ∀ exchange ∈ exchanges,
      exchange.reply.Regular conn.longRowId) :
    (∀ exchange ∈ exchanges, ∀ lofd data written after, data ≠ [] →
      write conn lofd data exchange.wire exchange.reply ⟨[], looks⟩ =
        .ok written after →
      Confirmed conn lofd data exchange.wire exchange.reply ∧
        written = data.length) ∧
    ∀ status written,
      writeStream conn handle exchanges looks = some (status, written) →
      Accounts conn handle exchanges 0 status written := by
  constructor
  · intro exchange hmember lofd data written after hdata hrun
    obtain ⟨hconfirmed, hwritten, -⟩ :=
      (write_eq_ok (hregular exchange hmember) hdata).mp hrun
    exact ⟨hconfirmed, hwritten⟩
  · intro status written hstream
    unfold writeStream at hstream
    by_cases husable : handle.Usable
    · rw [if_pos husable] at hstream
      exact streamFrom_accounts hregular hstream
    · rw [if_neg husable] at hstream
      cases hstream
      refine ⟨[], exchanges, rfl, by simp, by simp, ?_, nofun⟩
      exact fun _ _ hopen => absurd hopen husable

/-- A reader with one block of five octets. -/
def sampleCallback (nread : Nat) : Callback :=
  ⟨.ok, nread, ⟨List.replicate bufsize 7, List.length_replicate⟩⟩

def sampleReply : WriteReply := ⟨1, .acknowledged 2 5 [.done ⟨0, 1, 0, 7⟩], 100⟩

def sampleExchanges : List Exchange :=
  [⟨sampleCallback 5, Wire.openWire, sampleReply⟩,
    ⟨sampleCallback 0, Wire.openWire, ⟨0, .acknowledged 2 0 [], 0⟩⟩]

theorem sampleReply_regular : sampleReply.Regular true := by
  rintro size behind hanswer
  cases hanswer
  refine ⟨by decide, List.forall_mem_cons.mpr ⟨?_, by simp⟩⟩
  change SkippedWhole true ⟨0, 1, 0, 7⟩
  decide +kernel

theorem write_sample :
    write ⟨true, false, true⟩ 3 [7, 7, 7, 7, 7] Wire.openWire sampleReply
      ⟨[], []⟩ = .ok 5 ⟨[], []⟩ := by
  refine (@write_eq_ok [] 3 _ _ ⟨true, false, true⟩ _ sampleReply_regular
    (by simp) _ _).mpr ⟨⟨?_, ?_⟩, rfl, rfl⟩
  · exact sendWrite_carried (by decide) (by simp) Wire.openWire_completes
  · refine ⟨⟨_, ⟨5, rfl⟩, by simp⟩, ?_⟩
    decide

theorem writeStream_sample :
    writeStream ⟨true, false, true⟩ ⟨true, 3⟩ sampleExchanges [] =
      some (.ok, 5) := by
  have hblock : (sampleCallback 5).block = [7, 7, 7, 7, 7] := by
    change (List.replicate bufsize 7).take 5 = _
    rw [List.take_replicate]
    rfl
  unfold writeStream sampleExchanges
  rw [if_pos ⟨rfl, by decide⟩]
  unfold streamFrom
  dsimp only
  have hstatus : ¬ (sampleCallback 5).status ≠ .ok := not_not.mpr rfl
  rw [if_neg hstatus, if_neg (by decide), if_neg (by decide),
    if_neg (by decide), hblock, write_sample]
  rfl

theorem writes_confirmed_samples :
    Accounts ⟨true, false, true⟩ ⟨true, 3⟩ sampleExchanges 0 .ok 5 := by
  refine (writes_confirmed ⟨true, false, true⟩ ⟨true, 3⟩ sampleExchanges []
    ?_).2 .ok 5 writeStream_sample
  refine List.forall_mem_cons.mpr ⟨sampleReply_regular,
    List.forall_mem_cons.mpr ⟨?_, by simp⟩⟩
  rintro size behind hanswer
  cases hanswer
  exact ⟨by decide, by simp⟩

/-- An acknowledgement and the error that takes it back. -/
def withdrawn : WriteReply :=
  ⟨0, .acknowledged 2 5 [.err ⟨-271, -131, [0, 0], []⟩], 100⟩

/-- An acknowledgement that reports the size -1. -/
def negative : WriteReply := ⟨0, .acknowledged 2 0xFFFFFFFF [], 100⟩

theorem write_withdrawn :
    (∃ after, write ⟨true, false, true⟩ 3 [1, 2, 3, 4, 5] Wire.openWire withdrawn
      ⟨[], []⟩ = .ok 5 after) ∧
    ¬ withdrawn.Confirms true ∧
    (∃ after, write ⟨true, false, true⟩ 3 [1, 2, 3, 4, 5] Wire.openWire negative
      ⟨[], []⟩ = .error .err after) ∧
    Confirmed ⟨true, false, true⟩ 3 [1, 2, 3, 4, 5] Wire.openWire negative := by
  obtain ⟨after, hsend⟩ := @sendWrite_carried 3 [1, 2, 3, 4, 5] Wire.openWire
    (by decide) (by simp) Wire.openWire_completes
  refine ⟨⟨⟨[], []⟩, ?_⟩, ?_, ⟨⟨[], []⟩, ?_⟩, ⟨after, hsend⟩, ?_⟩
  · unfold write
    rw [hsend]
    rfl
  · rintro ⟨⟨behind, ⟨size, hanswer⟩, hnone⟩, -⟩
    cases hanswer
    exact hnone ⟨-271, -131, [0, 0], []⟩ (by simp)
  · unfold write
    rw [hsend]
    rfl
  · exact ⟨⟨[], ⟨0xFFFFFFFF, rfl⟩, by simp⟩, by decide⟩

end Libsqli.Sblob
