import Libsqli.Bind.Lob
import Libsqli.Prepare.Frame
import Libsqli.Wire.Send

namespace Libsqli.Requests

open Libsqli.Bind
open Libsqli.Data.Bytes
open Libsqli.Wire

/-! The messages that the public calls put on the wire, and their senders. -/

def sqNfetch : UInt8 := 9
def sqClose : UInt8 := 10
def sqRelease : UInt8 := 11
def sqCmmtwork : UInt8 := 19
def sqRbwork : UInt8 := 20
def sqSfetch : UInt8 := 23
def sqBegin : UInt8 := 35
def sqRetType : UInt8 := 100
def sqSetSvpt : UInt8 := 137
def sqRelSvpt : UInt8 := 138
def sqRbackSvpt : UInt8 := 139
def sqBatchstart : UInt8 := 141
def sqBatchend : UInt8 := 142

def idBytes (stmtId : Int32) : List UInt8 :=
  [0, sqId] ++ bigEndian 2 stmtId.toUInt32.toNat

/-- A statement without parameters, as a query prepares it. -/
def bareStatement (stmtId : Int32) : Statement := ⟨stmtId, 0, 0, [], []⟩

/-- What a request for rows says beside the statement: the columns announced with
SQ_RET_TYPE, if any, the size of the buffer, and where to scroll to. -/
structure FetchForm where
  retTypes : Option (List (UInt8 × UInt32))
  bufsize : UInt32
  scroll : Option (UInt16 × Int32)

def retTypesHeader (columns : List (UInt8 × UInt32)) : List UInt8 :=
  [0, sqRetType, 0, 1] ++ bigEndian 2 columns.length

def retTypeBytes (column : UInt8 × UInt32) : List UInt8 :=
  [0, column.1] ++ bigEndian 4 column.2.toNat

def FetchForm.rowsBytes (form : FetchForm) : List UInt8 :=
  match form.scroll with
  | none => [0, sqNfetch] ++ bigEndian 4 form.bufsize.toNat ++ [0, 0]
  | some (scrollType, index) =>
      [0, sqSfetch] ++ bigEndian 2 scrollType.toNat ++
        bigEndian 4 index.toUInt32.toNat ++ bigEndian 4 form.bufsize.toNat

def FetchForm.retBytes (form : FetchForm) : List UInt8 :=
  match form.retTypes with
  | none => []
  | some columns => retTypesHeader columns ++ columns.flatMap retTypeBytes

def beginMessage : List UInt8 := [0, sqEot, 0, sqBegin]
def commitMessage : List UInt8 := [0, sqEot, 0, sqCmmtwork]
def rollbackMessage : List UInt8 := [0, sqEot, 0, sqRbwork, 0, 0]

/-- The octets after the name, for the call that has them. -/
inductive SavepointCall where
  | set (unique : Bool)
  | release
  | rollback

def SavepointCall.opcode : SavepointCall → UInt8
  | .set _ => sqSetSvpt
  | .release => sqRelSvpt
  | .rollback => sqRbackSvpt

def SavepointCall.flag : SavepointCall → List UInt8
  | .set unique => [0, if unique then 1 else 0]
  | .release => []
  | .rollback => []

/-- `SQ_ID`, the opcode and `SQ_EOT` -/
def controlBytes (stmtId : Int32) (opcode : UInt8) : List UInt8 :=
  idBytes stmtId ++ [0, opcode] ++ [0, sqEot]

/-- A message of the client. The native transaction commands have their SQ_EOT in
front; every other message ends in one. -/
inductive Message where
  | prepare (session : Session) (sql text : List UInt8)
  | bind (encode : Encoder) (stmt : Statement)
  | execution (encode : Encoder) (stmt : Statement)
  | execute (stmtId : Int32)
  | open (cursor : CursorOptions) (stmt : Statement)
  | fetch (form : FetchForm) (stmtId : Int32)
  | control (stmtId : Int32) (opcode : UInt8)
  | begin
  | commit
  | rollback
  | savepoint (call : SavepointCall) (name : List UInt8)

/-- What BIND and the streams leave to say for SQ_EXECUTE. -/
def boundBytes (encode : Encoder) (stmt : Statement) : List UInt8 :=
  if stmt.params = [] then idBytes stmt.stmtId
  else buildBindMsg encode stmt false ++ lobsBytes encode stmt.streamed

def Message.octets : Message → List UInt8
  | .prepare session sql text =>
      Prepare.prepareHeader sql ++
        (bigEndian (Prepare.lengthWidth session) text.length ++
          (text ++ ((if text.length % 2 = 1 then [0] else []) ++
            Prepare.prepareTail)))
  | .bind encode stmt => buildBindMsg encode stmt true
  | .execution encode stmt => boundBytes encode stmt ++ executeMessage
  | .execute stmtId => idBytes stmtId ++ executeMessage
  | .open cursor stmt => openBytes cursor stmt
  | .fetch form stmtId =>
      idBytes stmtId ++ (form.retBytes ++ (form.rowsBytes ++ [0, sqEot]))
  | .control stmtId opcode => controlBytes stmtId opcode
  | .begin => beginMessage
  | .commit => commitMessage
  | .rollback => rollbackMessage
  | .savepoint call name =>
      [0, call.opcode] ++ ((bigEndian 2 name.length ++ (name ++
        (if name.length % 2 = 1 then [0] else []))) ++
          (call.flag ++ [0, sqEot]))

/-! The senders. -/

/-- `sqli_send_execute` -/
def sendExecuteMessage (stmtId : Int32) : Sender Unit :=
  send (idBytes stmtId ++ executeMessage)

def sendRetTypeColumns : List (UInt8 × UInt32) → Sender Unit
  | [] => return
  | column :: columns => do
      send (retTypeBytes column)
      sendRetTypeColumns columns

def sendRetTypes (form : FetchForm) : Sender Unit :=
  match form.retTypes with
  | none => return
  | some columns => do
      send (retTypesHeader columns)
      sendRetTypeColumns columns

/-- `sqli_send_fetch` and `sqli_send_scroll_fetch` -/
def sendFetch (form : FetchForm) (stmtId : Int32) : Sender Unit := do
  send (idBytes stmtId)
  sendRetTypes form
  send form.rowsBytes
  send [0, sqEot]

def nameFits (name : List UInt8) : Except Status Unit :=
  if name.length ≤ 0xFFFF then .ok () else .error .invalidState

/-- `send_char_payload` -/
def sendCharPayload (encode : Encoder) (name : List UInt8) : Sender Unit := do
  let enc ← require (encode name)
  require (nameFits enc)
  send (bigEndian 2 enc.length)
  sendIf (enc ≠ []) enc
  sendIf (enc.length % 2 = 1) [0]

/-- The sends of `savepoint_send_core`. -/
def sendSavepoint (encode : Encoder) (call : SavepointCall)
    (name : List UInt8) : Sender Unit := do
  send [0, call.opcode]
  sendCharPayload encode name
  sendIf (call.flag ≠ []) call.flag
  send [0, sqEot]

/-! What the senders send while every send completes. -/

theorem sends_sendIf {condition : Bool} {bytes : List UInt8}
    (hbytes : condition = true → bytes ≠ []) :
    Sends (sendIf condition bytes) (if condition then bytes else []) := by
  cases condition with
  | true => exact .send (hbytes rfl)
  | false => exact .pure

theorem sends_prepare {charset : Charset} {session : Session}
    {sql text : List UInt8}
    (htext : encodeClientToDb charset session sql = .ok text)
    (hnonempty : text ≠ []) :
    Sends (Prepare.sendPrepare charset session sql)
      (Message.prepare session sql text).octets := by
  have hpad : Sends (Prepare.sendPad text)
      (if text.length % 2 = 1 then [0] else []) := by
    unfold Prepare.sendPad
    split
    · exact .sendUnchecked (by simp)
    · exact .pure
  have hwidth : 0 < Prepare.lengthWidth session := by
    unfold Prepare.lengthWidth
    split <;> decide
  exact .require htext <|
    .bind (.send (by simp [Prepare.prepareHeader])) <|
    .bind (.send (bigEndian_ne_nil hwidth _)) <|
    .bind (.send hnonempty) <|
    hpad.bind (.send (by simp [Prepare.prepareTail]))

theorem sends_open (cursor : CursorOptions) (stmt : Statement) :
    Sends (sendOpen cursor stmt) (Message.open cursor stmt).octets :=
  .bind (.send (by simp [idMessage])) <|
  .bind (.send (by decide)) <|
  .bind (.send (by decide)) <|
  .bind (sends_sendIf fun _ => by decide) <|
  .bind (sends_sendIf fun _ => by decide) <|
  .bind (.send (by decide)) (.send (by decide))

theorem sends_retTypeColumns (columns : List (UInt8 × UInt32)) :
    Sends (sendRetTypeColumns columns) (columns.flatMap retTypeBytes) := by
  induction columns with
  | nil => exact .pure
  | cons column columns ih =>
      rw [List.flatMap_cons]
      exact .bind (.send (by simp [retTypeBytes])) ih

theorem sends_retTypes (form : FetchForm) :
    Sends (sendRetTypes form) form.retBytes := by
  unfold sendRetTypes FetchForm.retBytes
  split
  · exact .pure
  · exact .bind (.send (by simp [retTypesHeader])) (sends_retTypeColumns _)

theorem sends_fetch (form : FetchForm) (stmtId : Int32) :
    Sends (sendFetch form stmtId) (Message.fetch form stmtId).octets := by
  have hrows : form.rowsBytes ≠ [] := by
    unfold FetchForm.rowsBytes
    split <;> simp
  exact .bind (.send (by simp [idBytes])) <|
    .bind (sends_retTypes form) (.bind (.send hrows) (.send (by decide)))

theorem sends_chunk {chunk : List UInt8} (hchunk : chunk ≠ []) :
    Sends (sendChunk chunk) (chunkBytes chunk) := by
  have hpad : Sends (if chunk.length % 2 = 1 then send [0] else return)
      (List.replicate (chunk.length % 2) 0) := by
    rcases Nat.mod_two_eq_zero_or_one chunk.length with heven | hodd
    · rw [if_neg (by omega), heven]
      exact .pure
    · rw [if_pos hodd, hodd]
      exact .send (by decide)
  rw [chunkBytes, padEven]
  exact .bind (.send (by simp)) (.bind (.send hchunk) hpad)

theorem sends_chunks (data : List UInt8) :
    Sends (sendChunks data) ((chunks data).flatMap chunkBytes) := by
  have hnonempty : ∀ chunk ∈ chunks data, chunk ≠ [] :=
    fun chunk hchunk => (chunks_bounded data chunk hchunk).1
  fun_induction chunks data with
  | case1 =>
      rw [sendChunks, if_pos rfl]
      exact .pure
  | case2 data hdata ih =>
      rw [List.forall_mem_cons] at hnonempty
      rw [sendChunks, if_neg hdata, List.flatMap_cons]
      exact .bind (sends_chunk hnonempty.1) (ih hnonempty.2)

theorem sends_streams (encode : Encoder) (typed : List (UInt8 × BoundParam)) :
    Sends (sendStreams encode typed) (typed.flatMap fun entry =>
      Bind.streamBytes (lobData encode entry.1 entry.2)) := by
  induction typed with
  | nil => exact .pure
  | cons entry typed ih =>
      rw [List.flatMap_cons]
      exact .bind (.bind (sends_chunks _) (.send (by decide))) ih

theorem sends_lobs (encode : Encoder) (stmt : Statement) :
    Sends (sendLobs encode stmt) (lobsBytes encode stmt.streamed) := by
  unfold sendLobs lobsBytes
  split
  · exact .pure
  · exact .bind (.send (by simp)) (sends_streams encode _)

theorem sends_bind {malloc : Nat → Bool} {encode : Encoder}
    {stmt : Statement} {terminateGroup : Bool} (hparams : stmt.params ≠ [])
    (hmalloc : malloc (estimateBindMsgSize stmt terminateGroup) = true) :
    Sends (sendBindIfNeeded malloc encode stmt terminateGroup)
      (buildBindMsg encode stmt terminateGroup) := by
  unfold sendBindIfNeeded
  rw [if_neg hparams, if_pos hmalloc]
  exact .send (by simp [buildBindMsg, bindHeader])

theorem sends_execution {malloc : Nat → Bool} {encode : Encoder}
    {stmt : Statement} (hmalloc : stmt.params ≠ [] →
      malloc (estimateBindMsgSize stmt false) = true) :
    Sends (sendExecute malloc encode stmt)
      (Message.execution encode stmt).octets := by
  unfold sendExecute
  change Sends _ (boundBytes encode stmt ++ executeMessage)
  unfold boundBytes
  by_cases hparams : stmt.params = []
  · simp only [if_pos hparams]
    exact .bind (.send (by simp [idMessage])) (.send (by decide))
  · simp only [if_neg hparams]
    rw [List.append_assoc]
    exact .bind (sends_bind hparams (hmalloc hparams))
      (.bind (sends_lobs encode stmt) (.send (by decide)))

theorem sends_savepoint {encode : Encoder} {call : SavepointCall}
    {name enc : List UInt8} (henc : encode name = .ok enc)
    (hfits : enc.length ≤ 0xFFFF) :
    Sends (sendSavepoint encode call name)
      (Message.savepoint call enc).octets := by
  have hname : Sends (sendIf (enc ≠ []) enc) enc := by
    have hsends := @sends_sendIf (enc ≠ []) enc fun h => of_decide_eq_true h
    by_cases hempty : enc = []
    · simpa [hempty] using hsends
    · simpa [hempty] using hsends
  have hflag : Sends (sendIf (call.flag ≠ []) call.flag) call.flag := by
    have hsends := @sends_sendIf (call.flag ≠ []) call.flag
      fun h => of_decide_eq_true h
    by_cases hempty : call.flag = []
    · simpa [hempty] using hsends
    · simpa [hempty] using hsends
  have hpad := @sends_sendIf (enc.length % 2 = 1) [0] fun _ => by decide
  simp only [decide_eq_true_eq] at hpad
  have hchars : nameFits enc = .ok () := by rw [nameFits, if_pos hfits]
  exact .bind (.send (by simp)) <|
    .bind (.require henc <| .require hchars <|
      .bind (.send (bigEndian_ne_nil (by decide) _)) (hname.bind hpad)) <|
    hflag.bind (.send (by decide))

/-! Complete messages, one behind the other. -/

def Whole (sent : List UInt8) : Prop :=
  ∃ messages : List Message, sent = messages.flatMap Message.octets

theorem Whole.nil : Whole [] := ⟨[], rfl⟩

theorem Whole.append {sent : List UInt8} (hsent : Whole sent)
    (message : Message) : Whole (sent ++ message.octets) := by
  obtain ⟨messages, rfl⟩ := hsent
  exact ⟨messages ++ [message], by simp⟩

/-- How a message may end. -/
def closings : List (List UInt8) :=
  [[0, sqEot], beginMessage, commitMessage, rollbackMessage]

theorem octets_closing (message : Message) :
    ∃ closing ∈ closings, closing <:+ message.octets := by
  have heot : [0, sqEot] ∈ closings := .head _
  have hexecute : [0, sqEot] <:+ executeMessage := ⟨[0, sqExecute], rfl⟩
  cases message with
  | prepare session sql text =>
      have htail : [0, sqEot] <:+ Prepare.prepareTail :=
        ⟨[0, Prepare.sqNdescribe, 0, Prepare.sqWantdone], rfl⟩
      exact ⟨_, heot, htail.trans <| List.suffix_append_of_suffix <|
        List.suffix_append_of_suffix <| List.suffix_append_of_suffix <|
        List.suffix_append _ _⟩
  | bind encode stmt => exact ⟨_, heot, List.suffix_append _ _⟩
  | execution encode stmt =>
      exact ⟨_, heot, hexecute.trans (List.suffix_append _ _)⟩
  | execute stmtId =>
      exact ⟨_, heot, hexecute.trans (List.suffix_append _ _)⟩
  | «open» cursor stmt =>
      exact ⟨_, heot, List.suffix_append_of_suffix <|
        List.suffix_append_of_suffix <| List.suffix_append_of_suffix <|
        List.suffix_append_of_suffix <| List.suffix_append_of_suffix <|
        List.suffix_append _ _⟩
  | fetch form stmtId =>
      exact ⟨_, heot, List.suffix_append_of_suffix <|
        List.suffix_append_of_suffix <| List.suffix_append _ _⟩
  | control stmtId opcode => exact ⟨_, heot, List.suffix_append _ _⟩
  | begin => exact ⟨_, .tail _ (.head _), List.suffix_refl _⟩
  | commit => exact ⟨_, .tail _ (.tail _ (.head _)), List.suffix_refl _⟩
  | rollback =>
      exact ⟨_, .tail _ (.tail _ (.tail _ (.head _))), List.suffix_refl _⟩
  | savepoint call name =>
      exact ⟨_, heot, List.suffix_append_of_suffix <|
        List.suffix_append_of_suffix <| List.suffix_append _ _⟩

theorem Whole.closing {sent : List UInt8} (hsent : Whole sent)
    (hnonempty : sent ≠ []) : ∃ closing ∈ closings, closing <:+ sent := by
  obtain ⟨messages, rfl⟩ := hsent
  rcases List.eq_nil_or_concat messages with rfl | ⟨earlier, last, rfl⟩
  · exact absurd rfl hnonempty
  · obtain ⟨closing, hclosing, hlast⟩ := octets_closing last
    refine ⟨closing, hclosing, ?_⟩
    rw [List.concat_eq_append, List.flatMap_append, List.flatMap_singleton]
    exact List.suffix_append_of_suffix hlast

end Libsqli.Requests
