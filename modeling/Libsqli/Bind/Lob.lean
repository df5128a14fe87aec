import Libsqli.Bind.ReadBack

namespace Libsqli.Bind

open Libsqli.Data.Bytes
open Libsqli.Wire

/-! LOB streams: chunks of at most 1024 octets and an empty chunk. -/

def chunks (data : List UInt8) : List (List UInt8) :=
  if data = [] then []
  else data.take chunkSize :: chunks (data.drop chunkSize)
termination_by data.length
decreasing_by
  have := List.length_pos_iff.mpr ‹data ≠ []›
  simp [chunkSize]
  omega

@[simp] theorem chunks_nil : chunks [] = [] := by
  rw [chunks, if_pos rfl]

theorem flatten_chunks (data : List UInt8) : (chunks data).flatten = data := by
  fun_induction chunks data with
  | case1 => rfl
  | case2 data hdata ih =>
      rw [List.flatten_cons, ih, List.take_append_drop]

theorem chunks_bounded (data : List UInt8) :
    ∀ chunk ∈ chunks data, chunk ≠ [] ∧ chunk.length ≤ chunkSize := by
  fun_induction chunks data with
  | case1 => simp
  | case2 data hdata ih =>
      refine List.forall_mem_cons.mpr ⟨⟨?_, ?_⟩, ih⟩
      · intro hempty
        rcases List.take_eq_nil_iff.mp hempty with hsize | hnil
        · cases hsize
        · exact hdata hnil
      · exact List.length_take_le _ _

def chunkBytes (chunk : List UInt8) : List UInt8 :=
  [0, sqBlob] ++ bigEndian 2 chunk.length ++ padEven chunk

def chunkEnd : List UInt8 := [0, sqBlob, 0, 0]

def streamBytes (data : List UInt8) : List UInt8 :=
  (chunks data).flatMap chunkBytes ++ chunkEnd

theorem delivers_sendChunk (chunk : List UInt8) :
    Delivers (sendChunk chunk) (chunkBytes chunk) := by
  have hpad : Delivers (if chunk.length % 2 = 1 then send [0] else return)
      (List.replicate (chunk.length % 2) 0) := by
    rcases Nat.mod_two_eq_zero_or_one chunk.length with heven | hodd
    · rw [if_neg (by omega), heven]
      exact Delivers.pure _
    · rw [if_pos hodd, hodd]
      exact Delivers.send _
  rw [chunkBytes, padEven]
  exact (Delivers.send _).bind fun _ => (Delivers.send _).bind fun _ => hpad

theorem delivers_sendChunks (data : List UInt8) :
    Delivers (sendChunks data) ((chunks data).flatMap chunkBytes) := by
  fun_induction chunks data with
  | case1 =>
      rw [sendChunks, if_pos rfl]
      exact Delivers.pure _
  | case2 data hdata ih =>
      rw [sendChunks, if_neg hdata, List.flatMap_cons]
      exact (delivers_sendChunk _).bind fun _ => ih

theorem delivers_sendStreams (encode : Encoder)
    (typed : List (UInt8 × BoundParam)) :
    Delivers (sendStreams encode typed)
      (typed.flatMap fun entry => streamBytes (lobData encode entry.1 entry.2)) := by
  induction typed with
  | nil => exact Delivers.pure _
  | cons entry typed ih =>
      rw [List.flatMap_cons]
      have hstream : Delivers (sendStream encode entry)
          (streamBytes (lobData encode entry.1 entry.2)) :=
        (delivers_sendChunks _).bind fun _ => Delivers.send _
      exact hstream.bind fun _ => ih

def lobsBytes (encode : Encoder) (typed : List (UInt8 × BoundParam)) :
    List UInt8 :=
  if typed = [] then []
  else [0, sqBbind] ++ bigEndian 2 typed.length ++
    typed.flatMap fun entry => streamBytes (lobData encode entry.1 entry.2)

theorem delivers_sendLobs (encode : Encoder) (stmt : Statement) :
    Delivers (sendLobs encode stmt) (lobsBytes encode stmt.streamed) := by
  unfold sendLobs lobsBytes
  split
  · exact Delivers.pure _
  · exact (Delivers.send _).bind fun _ => delivers_sendStreams encode _

/-! The streams as the server reads them. -/

def readChunk : Reader (List UInt8) := do
  expect [0, sqBlob]
  let length ← natural 2
  padded length

def readChunks : Nat → Reader (List (List UInt8))
  | 0 => failure
  | fuel + 1 => do
      let chunk ← readChunk
      if chunk = [] then return []
      else
        let rest ← readChunks fuel
        return chunk :: rest

/-- Every chunk takes at least an octet, which bounds their number. -/
def readStream : Reader (List (List UInt8)) := fun bytes =>
  readChunks bytes.length bytes

def readAnnounced : Reader (Nat × List (List (List UInt8))) := do
  expect [0, sqBbind]
  let count ← natural 2
  let streams ← readAll (List.replicate count readStream)
  return (count, streams)

/-- The announced number of streams and the streams, none without SQ_BBIND. -/
def readLobs : Reader (Nat × List (List (List UInt8))) := fun bytes =>
  if bytes.take 2 = [0, sqBbind] then readAnnounced bytes
  else some ((0, []), bytes)

theorem reads_chunk (hlength : chunk.length ≤ chunkSize) :
    Reads readChunk (chunkBytes chunk) chunk := by
  have hbound : chunk.length < 256 ^ 2 := by
    simp only [chunkSize] at hlength
    omega
  rw [chunkBytes, List.append_assoc]
  exact (Reads.expect _).bind ((Reads.natural hbound).bind (Reads.padded rfl))

theorem reads_chunkEnd : Reads readChunk chunkEnd [] := by
  have hread : Reads readChunk (chunkBytes []) [] := reads_chunk (by simp)
  exact hread

theorem reads_chunks {stream : List (List UInt8)}
    (hstream : ∀ chunk ∈ stream, chunk ≠ [] ∧ chunk.length ≤ chunkSize)
    (hfuel : stream.length < fuel) :
    Reads (readChunks fuel) (stream.flatMap chunkBytes ++ chunkEnd) stream := by
  induction stream generalizing fuel with
  | nil =>
      cases fuel with
      | zero => cases hfuel
      | succ fuel => exact reads_chunkEnd.bind (Reads.pure [])
  | cons chunk stream ih =>
      obtain ⟨⟨hchunk, hlength⟩, hrest⟩ := List.forall_mem_cons.mp hstream
      cases fuel with
      | zero => cases hfuel
      | succ fuel =>
          have htail := ih hrest (Nat.lt_of_succ_lt_succ hfuel)
          have hnext : Reads (if chunk = [] then return [] else do
              let rest ← readChunks fuel
              return chunk :: rest)
              (stream.flatMap chunkBytes ++ chunkEnd) (chunk :: stream) := by
            rw [if_neg hchunk]
            exact htail.map _
          rw [List.flatMap_cons, List.append_assoc]
          exact (reads_chunk hlength).bind hnext

theorem length_flatMap_chunkBytes (stream : List (List UInt8)) :
    stream.length ≤ (stream.flatMap chunkBytes).length := by
  induction stream with
  | nil => rfl
  | cons chunk stream ih =>
      simp [chunkBytes]
      omega

theorem reads_stream (data : List UInt8) :
    Reads readStream (streamBytes data) (chunks data) := by
  intro rest
  refine reads_chunks (chunks_bounded data) ?_ rest
  have hlength := length_flatMap_chunkBytes (chunks data)
  simp only [streamBytes, List.length_append, chunkEnd, List.length_cons,
    List.length_nil]
  omega

theorem reads_streams (encode : Encoder) (typed : List (UInt8 × BoundParam)) :
    Reads (readAll (List.replicate typed.length readStream))
      (typed.flatMap fun entry => streamBytes (lobData encode entry.1 entry.2))
      (typed.map fun entry => chunks (lobData encode entry.1 entry.2)) := by
  induction typed with
  | nil => exact Reads.pure []
  | cons entry typed ih => exact (reads_stream _).cons ih

theorem readLobs_lobsBytes {typed : List (UInt8 × BoundParam)}
    (hcount : typed.length < 256 ^ 2) (hrest : rest.take 2 ≠ [0, sqBbind]) :
    readLobs (lobsBytes encode typed ++ rest) =
      some ((typed.length,
        typed.map fun entry => chunks (lobData encode entry.1 entry.2)),
        rest) := by
  unfold readLobs lobsBytes
  by_cases htyped : typed = []
  · subst typed
    rw [if_pos rfl, List.nil_append, if_neg hrest]
    rfl
  · rw [if_neg htyped, if_pos (by simp)]
    have hstreams : Reads (do
        let streams ← readAll (List.replicate typed.length readStream)
        return (typed.length, streams)) _ _ :=
      (reads_streams encode typed).map _
    rw [List.append_assoc [0, sqBbind]]
    exact ((Reads.expect _).bind ((Reads.natural hcount).bind hstreams)) rest

/-- The announced number and the number of streams read are one 16-bit count. -/
theorem readLobs_count (hread : readLobs bytes = some ((count, streams), rest)) :
    streams.length = count ∧ count < 256 ^ 2 := by
  unfold readLobs at hread
  split at hread
  · have hyields : Yields readAnnounced fun message =>
        message.2.length = message.1 ∧ message.1 < 256 ^ 2 := by
      refine (Yields.any _).bind fun _ _ => ?_
      refine (Yields.natural 2).bind fun count hcount => ?_
      refine Yields.readAll.bind fun streams hstreams => ?_
      rw [List.length_replicate] at hstreams
      exact Yields.pure ⟨hstreams, hcount⟩
    exact hyields _ _ _ hread
  · cases hread
    exact ⟨rfl, by decide⟩

/-! What the requests send. -/

theorem delivers_sendBind (malloc : Nat → Bool) (encode : Encoder)
    (stmt : Statement) (terminateGroup : Bool) :
    Delivers (sendBindIfNeeded malloc encode stmt terminateGroup)
      (if stmt.params = [] then []
        else buildBindMsg encode stmt terminateGroup) := by
  unfold sendBindIfNeeded
  by_cases hparams : stmt.params = []
  · rw [if_pos hparams, if_pos hparams]
    exact Delivers.pure _
  · rw [if_neg hparams, if_neg hparams]
    split
    · exact Delivers.send _
    · intro wire result after hrun
      cases hrun

def openBytes (cursor : CursorOptions) (stmt : Statement) : List UInt8 :=
  (idMessage stmt ++ [0, sqCurname] ++ bigEndian 2 cursorName.length) ++
    (cursorName ++ ([0] ++ ((if cursor.scroll then [0, sqScroll] else []) ++
      ((if cursor.hold then [0, sqHold] else []) ++
        ([0, sqOpen] ++ [0, sqEot])))))

theorem delivers_sendIf (condition : Bool) (bytes : List UInt8) :
    Delivers (sendIf condition bytes) (if condition then bytes else []) := by
  cases condition with
  | true => exact Delivers.send _
  | false => exact Delivers.pure _

theorem delivers_sendOpen (cursor : CursorOptions) (stmt : Statement) :
    Delivers (sendOpen cursor stmt) (openBytes cursor stmt) := by
  unfold sendOpen openBytes
  exact (Delivers.send _).bind fun _ => (Delivers.send _).bind fun _ =>
    (Delivers.send _).bind fun _ => (delivers_sendIf _ _).bind fun _ =>
    (delivers_sendIf _ _).bind fun _ => (Delivers.send _).bind fun _ =>
    Delivers.send _

end Libsqli.Bind
