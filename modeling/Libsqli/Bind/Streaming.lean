import Libsqli.Bind.Faithful
import Libsqli.Bind.Lob

namespace Libsqli.Bind

open Libsqli.Data.Bytes
open Libsqli.Wire

/-- Non-NULL parameters that `build_bind_msg` frames as a LOB descriptor. -/
def Statement.framed (stmt : Statement) : List (UInt8 × BoundParam) :=
  stmt.typedParams.filter fun typed =>
    !typed.2.isNull && isLegacyLob typed.1 typed.2

def descriptorLength (descriptor : List UInt8) : Nat :=
  natOfBytes ((descriptor.drop 16).take 4)

/-- The length in the descriptor that ends the message of the parameter. -/
def framedLength (encode : Encoder) (typed : UInt8 × BoundParam) : Nat :=
  let message := paramMessage encode typed.1 typed.2
  descriptorLength (message.drop (message.length - lobDescriptorSize))

/-- The chunks carry the data that the descriptor announces. -/
structure StreamOf (encode : Encoder) (typed : UInt8 × BoundParam)
    (stream : List (List UInt8)) : Prop where
  bounded : ∀ chunk ∈ stream, chunk ≠ [] ∧ chunk.length ≤ chunkSize
  data_eq : stream.flatten = lobData encode typed.1 typed.2
  length_eq : framedLength encode typed = stream.flatten.length

/-- The bind message up to the end of its last parameter. -/
def bindPart (encode : Encoder) (stmt : Statement) : List UInt8 :=
  if stmt.params = [] then [] else buildBindMsg encode stmt false

/-- The rest of the request, which carries no parameter. -/
def closing (cursor : CursorOptions) (stmt : Statement) : List UInt8 :=
  if stmt.opensCursor then
    (if stmt.params = [] then [] else [0, sqEot]) ++ openBytes cursor stmt
  else (if stmt.params = [] then idMessage stmt else []) ++ executeMessage

/-- One stream for each framed parameter in order, as many as announced, and
every other value in line. -/
structure LobsAgree (encode : Encoder) (cursor : CursorOptions)
    (stmt : Statement) (sent : List UInt8) : Prop where
  streams : ∃ rest streams, sent = bindPart encode stmt ++ rest ∧
    readLobs rest =
      some ((stmt.framed.length, streams), closing cursor stmt) ∧
    List.Forall₂ (StreamOf encode) stmt.framed streams
  inlined : ∀ typed ∈ stmt.typedParams, typed.2.isNull = false →
    isLegacyLob typed.1 typed.2 = false →
    ∃ field, readParam (paramMessage encode typed.1 typed.2) =
        some (field, []) ∧
      Carries (fun text bytes => bytes = sentText encode text) typed.2 field

structure Statement.Streamable (encode : Encoder) (stmt : Statement) :
    Prop where
  count_lt : stmt.framed.length < 256 ^ 2
  framed_streams : ∀ typed ∈ stmt.framed, stmt.opensCursor = false ∧
    (typed.2.type = .bytes ∨ typed.2.type = .string) ∧
    (lobData encode typed.1 typed.2).length < 256 ^ 4
  inline_fits : ∀ typed ∈ stmt.typedParams,
    isLegacyLob typed.1 typed.2 = false → typed.2.Fits encode

/-- The parameters that the request really streams. -/
def Statement.sentStreams (stmt : Statement) : List (UInt8 × BoundParam) :=
  if stmt.opensCursor then [] else stmt.streamed

theorem framedLength_eq (encode : Encoder) {typed : UInt8 × BoundParam}
    (hnull : typed.2.isNull = false)
    (hframed : isLegacyLob typed.1 typed.2 = true) :
    framedLength encode typed =
      (lobData encode typed.1 typed.2).length % 256 ^ 4 := by
  have hmessage : paramMessage encode typed.1 typed.2 =
      ([0, wireType typed.1 typed.2] ++ extendedType typed.2 ++
        [0, 0, 0, 56]) ++
        lobDescriptor (lobData encode typed.1 typed.2).length := by
    simp [paramMessage, paramValue, hnull, hframed]
  have hsize : (lobDescriptor (lobData encode typed.1 typed.2).length).length =
      lobDescriptorSize := by
    simp [lobDescriptor, lobDescriptorSize]
  rw [framedLength, hmessage]
  simp only [List.length_append, hsize, Nat.add_sub_cancel]
  rw [← List.length_append, ← List.length_append, List.drop_left]
  simp [descriptorLength, lobDescriptor, natOfBytes_bigEndian]

theorem streamed_subset (stmt : Statement) :
    stmt.streamed = stmt.framed.filter fun typed =>
      needsLobStreaming typed.1 typed.2 := by
  unfold Statement.streamed Statement.framed
  rw [List.filter_filter]
  apply List.filter_congr
  intro typed _
  unfold needsLobStreaming isLegacyLob
  cases typed.2.type <;> simp

theorem needsLobStreaming_framed {typed : UInt8 × BoundParam}
    (hframed : typed ∈ Statement.framed stmt) :
    needsLobStreaming typed.1 typed.2 = true ↔
      typed.2.type = .bytes ∨ typed.2.type = .string := by
  have hlegacy := (List.mem_filter.mp hframed).2
  simp only [isLegacyLob, Bool.and_eq_true] at hlegacy
  simp [needsLobStreaming, hlegacy]

theorem closing_take (cursor : CursorOptions) (stmt : Statement) :
    (closing cursor stmt).take 2 ≠ [0, sqBbind] := by
  unfold closing
  split <;> split <;>
    simp [openBytes, idMessage, executeMessage, sqId, sqEot, sqBbind, sqExecute]

theorem bindPart_terminated (encode : Encoder) (stmt : Statement) :
    (if stmt.params = [] then [] else buildBindMsg encode stmt true) =
      bindPart encode stmt ++ if stmt.params = [] then [] else [0, sqEot] := by
  unfold bindPart
  split
  · rfl
  · simp [buildBindMsg]

theorem delivers_sendExecution (malloc : Nat → Bool) (encode : Encoder)
    (cursor : CursorOptions) (stmt : Statement) :
    Delivers (sendExecution malloc encode cursor stmt)
      (bindPart encode stmt ++ (lobsBytes encode stmt.sentStreams ++
        closing cursor stmt)) := by
  unfold sendExecution Statement.sentStreams closing
  cases hcursor : stmt.opensCursor with
  | true =>
      simp only [if_true]
      have hbind := delivers_sendBind malloc encode stmt true
      rw [bindPart_terminated] at hbind
      have hsend := hbind.bind fun _ => delivers_sendOpen cursor stmt
      simpa [lobsBytes, sendSelect] using hsend
  | false =>
      simp only [Bool.false_eq_true, if_false]
      unfold sendExecute bindPart
      by_cases hparams : stmt.params = []
      · have hstreamed : stmt.streamed = [] := by
          simp [Statement.streamed, Statement.typedParams, hparams,
            withServerTypes]
        simp only [hparams, if_true, hstreamed, lobsBytes, List.nil_append]
        exact (Delivers.send _).bind fun _ => Delivers.send _
      · simp only [hparams, if_false, List.nil_append]
        have hbind := delivers_sendBind malloc encode stmt false
        rw [if_neg hparams] at hbind
        exact hbind.bind fun _ => (delivers_sendLobs encode stmt).bind fun _ =>
          Delivers.send executeMessage

theorem sentStreams_eq_framed {stmt : Statement}
    (hstreamable : stmt.Streamable encode) :
    stmt.sentStreams = stmt.framed := by
  unfold Statement.sentStreams
  cases hcursor : stmt.opensCursor with
  | true =>
      symm
      apply List.eq_nil_iff_forall_not_mem.mpr
      intro typed member
      have hexecute := (hstreamable.framed_streams typed member).1
      rw [hcursor] at hexecute
      cases hexecute
  | false =>
      rw [if_neg (by simp), streamed_subset, List.filter_eq_self]
      intro typed member
      exact (needsLobStreaming_framed member).mpr
        (hstreamable.framed_streams typed member).2.1

theorem framed_eq_sentStreams {stmt : Statement}
    (hlength : stmt.framed.length = stmt.sentStreams.length) :
    ∀ typed ∈ stmt.framed, stmt.opensCursor = false ∧
      (typed.2.type = .bytes ∨ typed.2.type = .string) := by
  intro typed member
  unfold Statement.sentStreams at hlength
  cases hcursor : stmt.opensCursor with
  | true =>
      rw [hcursor, if_pos rfl, List.length_nil,
        List.length_eq_zero_iff] at hlength
      rw [hlength] at member
      cases member
  | false =>
      rw [hcursor, if_neg (by simp), streamed_subset,
        eq_comm, List.length_filter_eq_length_iff] at hlength
      exact ⟨rfl, (needsLobStreaming_framed member).mp (hlength typed member)⟩

theorem sentStreams_length_le (stmt : Statement) :
    stmt.sentStreams.length ≤ stmt.framed.length := by
  unfold Statement.sentStreams
  split
  · simp
  · rw [streamed_subset]
    exact List.length_filter_le _ _

theorem streamOf_chunks (hframed : typed ∈ Statement.framed stmt)
    (hlength : (lobData encode typed.1 typed.2).length < 256 ^ 4) :
    StreamOf encode typed (chunks (lobData encode typed.1 typed.2)) := by
  have hlegacy := (List.mem_filter.mp hframed).2
  simp only [Bool.and_eq_true, Bool.not_eq_true'] at hlegacy
  refine ⟨chunks_bounded _, flatten_chunks _, ?_⟩
  rw [framedLength_eq encode hlegacy.1 hlegacy.2, flatten_chunks,
    Nat.mod_eq_of_lt hlength]

theorem StreamOf.length_lt (hstream : StreamOf encode typed stream)
    (hframed : typed ∈ Statement.framed stmt) :
    (lobData encode typed.1 typed.2).length < 256 ^ 4 := by
  have hlegacy := (List.mem_filter.mp hframed).2
  simp only [Bool.and_eq_true, Bool.not_eq_true'] at hlegacy
  have hlength := hstream.length_eq
  rw [framedLength_eq encode hlegacy.1 hlegacy.2, hstream.data_eq] at hlength
  rw [← hlength]
  exact Nat.mod_lt _ (by decide)

theorem lobsAgree_of_streamable {stmt : Statement}
    (hcomplete : ∀ param ∈ stmt.params, param.Complete)
    (hstreamable : stmt.Streamable encode) :
    LobsAgree encode cursor stmt (bindPart encode stmt ++
      (lobsBytes encode stmt.sentStreams ++ closing cursor stmt)) := by
  refine ⟨⟨_, stmt.framed.map fun typed =>
    chunks (lobData encode typed.1 typed.2), rfl, ?_, ?_⟩, ?_⟩
  · rw [sentStreams_eq_framed hstreamable]
    exact readLobs_lobsBytes hstreamable.count_lt (closing_take cursor stmt)
  · rw [List.forall₂_map_right_iff, List.forall₂_same]
    intro typed member
    exact streamOf_chunks member (hstreamable.framed_streams typed member).2.2
  · intro typed member hnull hinline
    have hparam := hcomplete _ (mem_params_of_typed member)
    refine ⟨_, (reads_paramMessage hparam hinline
      (hstreamable.inline_fits typed member hinline)).all, ?_⟩
    exact carries_field hparam fun _ _ _ _ => rfl

theorem inline_fits_of_carries {param : BoundParam}
    (hcomplete : param.Complete)
    (hread : readParam (paramMessage encode serverType param) =
      some (field, []))
    (hcarries : Carries (fun text bytes => bytes = sentText encode text)
      param field) : param.Fits encode := by
  intro htype hnull
  obtain ⟨text, htext⟩ := hcomplete.string_value htype hnull
  have hbounded := yields_readParam _ _ _ hread
  obtain ⟨value, hvalue⟩ : ∃ value, field.value = some value := by
    apply Option.ne_none_iff_exists'.mp
    intro hnone
    rw [hcarries.null_iff.mp hnone] at hnull
    cases hnull
  cases hcarries.value_carried value hvalue with
  | string _ htext' hbytes =>
      have hlength := hbounded _ hvalue
      rwa [hbytes, ← Option.some.inj (htext.symm.trans htext'),
        show sentText encode text = stringData encode param by
          simp [stringData, htext]] at hlength
  | native hother => simp [htype] at hother
  | _ hother => simp [htype] at hother

theorem streamable_of_lobsAgree {stmt : Statement}
    (hcomplete : ∀ param ∈ stmt.params, param.Complete)
    (hagree : LobsAgree encode cursor stmt (bindPart encode stmt ++
      (lobsBytes encode stmt.sentStreams ++ closing cursor stmt))) :
    stmt.Streamable encode := by
  obtain ⟨⟨rest, streams, hsent, hread, hstreams⟩, hinlined⟩ := hagree
  cases List.append_cancel_left hsent
  have hcount := (readLobs_count hread).2
  have hle := sentStreams_length_le stmt
  have hactual := @readLobs_lobsBytes encode _ _
    (Nat.lt_of_le_of_lt hle hcount) (closing_take cursor stmt)
  rw [hactual] at hread
  simp only [Option.some.injEq, Prod.mk.injEq, and_true] at hread
  have htypes := framed_eq_sentStreams hread.1.symm
  refine ⟨hcount, ?_, ?_⟩
  · intro typed member
    refine ⟨(htypes typed member).1, (htypes typed member).2, ?_⟩
    obtain ⟨stream, -, hstream⟩ := exists_of_forall₂ hstreams member
    exact hstream.length_lt member
  · intro typed member hinline htype hnull
    obtain ⟨field, hfield, hcarries⟩ := hinlined typed member hnull hinline
    exact inline_fits_of_carries (hcomplete _ (mem_params_of_typed member))
      hfield hcarries htype hnull

/-- A request whose sends all completed agrees with its LOB framing exactly
when its parameters are streamable. -/
theorem lobsAgree_iff {stmt : Statement}
    (haccepted : ∀ param ∈ stmt.params, param.Accepted)
    (hsent : sendExecution malloc encode cursor stmt wire = .ok () after) :
    (∃ sent, after.sent = wire.sent ++ sent ∧
      LobsAgree encode cursor stmt sent) ↔ stmt.Streamable encode := by
  have hcomplete := fun param member => (haccepted param member).complete
  have hbytes := delivers_sendExecution _ _ _ _ _ _ _ hsent
  constructor
  · rintro ⟨sent, hafter, hagree⟩
    cases List.append_cancel_left (hafter.symm.trans hbytes)
    exact streamable_of_lobsAgree hcomplete hagree
  · intro hstreamable
    exact ⟨_, hbytes, lobsAgree_of_streamable hcomplete hstreamable⟩

def lobStatement (serverType : UInt8) (param : BoundParam) : Statement where
  stmtId := 1
  statementType := 6
  columnCount := 0
  params := [param]
  serverTypes := [serverType]

def plainCursor : CursorOptions := ⟨false, false⟩

def bytesParam (value : List UInt8) : BoundParam :=
  (setParamBytes (fun _ => true) value .zeroed).2

theorem bytesParam_accepted :
    (bytesParam [1, 2, 3]).Accepted :=
  ⟨fun _ => true, .bytes [1, 2, 3], lobStatement typeByte .zeroed, 0,
    lobStatement typeByte (bytesParam [1, 2, 3]), rfl, rfl⟩

theorem sendChunks_short {data : List UInt8} (hdata : data ≠ [])
    (hshort : data.length ≤ chunkSize) :
    sendChunks data = (do sendChunk data; return) := by
  rw [sendChunks, if_neg hdata, List.take_of_length_le hshort,
    List.drop_eq_nil_of_le hshort, sendChunks, if_pos rfl]

/-- A BYTE, an integer and a TEXT. -/
def memoStatement : Statement :=
  { lobStatement typeByte (bytesParam [1, 2, 3]) with
    params := [bytesParam [1, 2, 3], intParam 7, textParam [97, 98]]
    serverTypes := [typeByte, 2, typeText] }

theorem memoStatement_sends :
    ∃ after, sendExecution (fun _ => true) .ok plainCursor memoStatement
      openWire = .ok () after := by
  have hlobs : sendLobs .ok memoStatement =
      (do
        send ([0, sqBbind] ++ bigEndian 2 2)
        (do sendChunks [1, 2, 3]; send chunkEnd)
        (do sendChunks [97, 98]; send chunkEnd)
        return) := rfl
  rw [sendExecution, if_neg (by decide), sendExecute, if_neg (by decide),
    hlobs, sendChunks_short (by decide) (by decide),
    sendChunks_short (by decide) (by decide)]
  exact ⟨_, rfl⟩

/-- The BYTE and the TEXT go out in two streams, and the integer inline. -/
theorem lobsAgree_iff_memo :
    ∃ after, sendExecution (fun _ => true) .ok plainCursor memoStatement
        openWire = .ok () after ∧
      ∃ sent, after.sent = openWire.sent ++ sent ∧
        LobsAgree .ok plainCursor memoStatement sent := by
  obtain ⟨after, hsent⟩ := memoStatement_sends
  refine ⟨after, hsent, (lobsAgree_iff ?_ hsent).mpr ⟨by decide, ?_, ?_⟩⟩
  · intro param member
    simp only [memoStatement, List.mem_cons, List.not_mem_nil,
      or_false] at member
    rcases member with rfl | rfl | rfl
    · exact bytesParam_accepted
    · exact intParam_accepted 7
    · exact textParam_accepted [97, 98]
  · decide
  · -- the only string goes to the TEXT column, so it is not inline
    intro typed member hinline htype
    have hpairs : memoStatement.typedParams =
        [(typeByte, bytesParam [1, 2, 3]), (2, intParam 7),
          (typeText, textParam [97, 98])] := rfl
    simp only [hpairs, List.mem_cons, List.not_mem_nil, or_false] at member
    rcases member with rfl | rfl | rfl
    · cases htype
    · cases htype
    · exact absurd hinline (by decide)

/-- An integer bound to a TEXT column is framed and never streamed. -/
theorem lob_untransmitted :
    ¬ ∀ (stmt : Statement) (after : Outgoing),
      (∀ param ∈ stmt.params, param.Accepted) →
      sendExecution (fun _ => true) .ok plainCursor stmt openWire =
        .ok () after →
      ∃ sent, after.sent = openWire.sent ++ sent ∧
        LobsAgree .ok plainCursor stmt sent := by
  intro hagree
  have haccepted : ∀ param ∈ (lobStatement typeText (intParam 7)).params,
      param.Accepted := by
    intro param member
    rw [List.mem_singleton.mp member]
    exact intParam_accepted 7
  have hsent : sendExecution (fun _ => true) .ok plainCursor
      (lobStatement typeText (intParam 7)) openWire = .ok () _ := rfl
  obtain ⟨sent, hafter, hlobs⟩ := hagree _ _ haccepted hsent
  have hbytes := delivers_sendExecution _ _ _ _ _ _ _ hsent
  cases List.append_cancel_left (hafter.symm.trans hbytes)
  have hframed := (streamable_of_lobsAgree
    (fun param member => (haccepted param member).complete)
    hlobs).framed_streams (typeText, intParam 7) (by decide)
  exact absurd hframed.2.1 (by decide)

end Libsqli.Bind
