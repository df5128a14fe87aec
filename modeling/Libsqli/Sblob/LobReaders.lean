import Libsqli.Sblob.BlobFetch

namespace Libsqli.Sblob

open Libsqli.Data.Bytes
open Libsqli.Data.Program
open Libsqli.Data.Stream
open Libsqli.Octets
open Libsqli.Receive (Done)

variable {remove64k longRowId : Bool} {done : Done} {room : Room}
  {beginning passed later bytes : List UInt8} {own : List Look} {nbytes : Nat}

/-! Readers that end in the loop behind the answer. -/

/-- It reads nothing and does not wait. -/
structure Still (program : OctetReader α) : Prop where
  state_eq : ∀ state, stateOf (program state) = state
  settled : ∀ state after, program state ≠ .error .ioError after

theorem Still.pure (value : α) : Still (Pure.pure value : OctetReader α) :=
  ⟨fun _ => rfl, nofun⟩

theorem Still.throw {status : Status} (hstatus : status ≠ .ioError) :
    Still (throw status : OctetReader α) :=
  ⟨fun _ => rfl, fun _ _ hrun => by
    cases hrun
    exact hstatus rfl⟩

theorem Still.ite {condition : Prop} [Decidable condition]
    {yes no : OctetReader α} (hyes : Still yes) (hno : Still no) :
    Still (if condition then yes else no) := by
  split
  · exact hyes
  · exact hno

theorem leaves_still {program : OctetReader α} {finish : α → OctetReader β}
    (hfinish : ∀ value, Still (finish value)) (state : Incoming (List Look)) :
    Leaves ((program >>= finish) state) later ↔
      Leaves (program state) later := by
  rw [bind_apply]
  cases hrun : program state with
  | error error after =>
      exact and_congr_right fun _ => forall_congr' fun other => by
        rw [ne_eq, ne_eq, EStateM.Result.error.injEq, EStateM.Result.error.injEq]
  | ok value after =>
      change Leaves (finish value after) later ↔ _
      refine and_congr (by rw [(hfinish value).state_eq after]; rfl) ?_
      exact iff_of_true ((hfinish value).settled after) nofun

/-- What the loop passes over on its way. -/
def Passed (passed : List UInt8) : Prop :=
  ∀ rest own, drainTrailing ⟨passed ++ rest, own⟩ = drainTrailing ⟨rest, own⟩

theorem passed_words (heven : passed.length % 2 = 0)
    (hwords : ∀ word ∈ wordsOf passed, PassedOver word) : Passed passed := by
  intro rest own
  induction passed using wordsOf.induct with
  | case1 high low passed ih =>
      rw [wordsOf, List.forall_mem_cons] at hwords
      rw [List.length_cons, List.length_cons] at heven
      change drainTrailing ⟨high :: low :: (passed ++ rest), own⟩ = _
      rw [drainTrailing_other hwords.1.1 hwords.1.2]
      exact ih (by omega) hwords.2
  | case2 passed hnone =>
      rcases passed with _ | ⟨high, _ | ⟨low, passed⟩⟩
      · rfl
      · simp at heven
      · exact absurd rfl (hnone high low passed)

/-- A DONE in front of another message. -/
theorem passed_done (hskipped : SkippedWhole longRowId done) :
    Passed ([0, 15] ++ doneBytes longRowId done) := by
  intro rest own
  obtain ⟨front, hbytes, hfront⟩ := doneBytes_eq longRowId done
  have hlength := length_behindTen longRowId done
  have hstart : drainTrailing
      ⟨[0, 15] ++ doneBytes longRowId done ++ rest, own⟩ =
        drainTrailing ⟨behindTen longRowId done ++ rest, own⟩ := by
    have hbytes : [0, 15] ++ doneBytes longRowId done ++ rest =
        0 :: 15 :: (front ++ (behindTen longRowId done ++ rest)) := by
      simp [hbytes]
    rw [hbytes, drainTrailing_done (by decide) (by simp; omega), ← hfront,
      List.drop_left]
  rw [hstart]
  rcases hskipped with ⟨rfl, hhead⟩ | hwords
  · match hbehind : behindTen true done with
    | [] => simp [hbehind] at hlength
    | [_] => simp [hbehind] at hlength
    | high :: low :: behind =>
        rw [hbehind] at hlength hhead
        have hten : behind.length = 10 := by simpa using hlength
        have hdone : word high low = Opcode.done := by
          simpa [wordsOf] using hhead
        change drainTrailing ⟨high :: low :: (behind ++ rest), own⟩ = _
        rw [drainTrailing_done hdone (by simp; omega), ← hten, List.drop_left]
  · refine passed_words ?_ hwords rest own
    rw [hlength]
    split <;> rfl

/-- The answer, and messages behind it that the loop passes over. -/
def ComesBehind (head : OctetReader α) (beginning : List UInt8) : Prop :=
  ∃ value front passed, beginning = front ++ passed ∧
    Takes head front value ∧ Passed passed

theorem ComesBehind.of_takes {head : OctetReader α} {value : α}
    (hhead : Takes head beginning value) : ComesBehind head beginning :=
  ⟨value, beginning, [], (List.append_nil _).symm, hhead, fun _ _ => rfl⟩

theorem ComesBehind.pass {head : OctetReader α}
    (hcomes : ComesBehind head beginning) (hpassed : Passed passed) :
    ComesBehind head (beginning ++ passed) := by
  obtain ⟨value, front, first, rfl, hhead, hfirst⟩ := hcomes
  refine ⟨value, front, first ++ passed, List.append_assoc _ _ _, hhead, ?_⟩
  intro rest own
  rw [List.append_assoc, hfirst, hpassed]

theorem leaves_behind {head : OctetReader α} {finish : α → OctetReader β}
    (hcomes : ComesBehind head beginning)
    (hfinish : ∀ value, Still (finish value)) :
    Leaves ((do
        let value ← head
        drainTrailing
        finish value) ⟨beginning ++ (replyEnd longRowId done ++ later), own⟩)
        later ↔
      SkippedWhole longRowId done := by
  obtain ⟨value, front, passed, rfl, hhead, hpassed⟩ := hcomes
  rw [List.append_assoc, hhead.bind_eq, leaves_still fun _ => hfinish value,
    hpassed]
  exact drainTrailing_done_iff

/-! The functions that count the octets of a DONE themselves. -/

/-- With what their requests decide; creating a LOB has two replies. -/
inductive LobReader where
  | materialize (room : Room)
  | read (nbytes : Nat)
  | readSeek (nbytes : Nat)
  | write (nbytes : Nat)
  | createFphandle
  | create

def LobReader.run (remove64k : Bool) : LobReader → OctetReader Unit
  | .materialize room => (fun _ => ()) <$> Octets.materialize room remove64k
  | .read nbytes => (fun _ => ()) <$> sblobRead remove64k nbytes
  | .readSeek nbytes => (fun _ => ()) <$> sblobReadSeek remove64k nbytes
  | .write nbytes => (fun _ => ()) <$> sblobWrite remove64k nbytes
  | .createFphandle => (fun _ => ()) <$> loCreateFphandle remove64k
  | .create => (fun _ => ()) <$> sblobCreateInto remove64k

/-- The beginning of a reply after which the reader looks for the next message, with
the messages that it has passed over. -/
def LobReader.Comes (remove64k : Bool) (beginning : List UInt8) :
    LobReader → Prop
  | .materialize room => ∃ accum, ∀ rest own,
      Octets.materialize room remove64k ⟨beginning ++ rest, own⟩ =
        materializeFrom room remove64k accum ⟨rest, own⟩
  | .read nbytes | .readSeek nbytes =>
      ComesBehind (readAnswer remove64k nbytes) beginning
  | .write _ => ComesBehind (lodataHeader remove64k) beginning
  | .createFphandle => ComesBehind (routineAnswer remove64k) beginning
  | .create => ComesBehind (createAnswer remove64k) beginning

/-- A blob fetch counts 22 octets, the others ten and then words. -/
def LobReader.CountsRight (longRowId : Bool) (done : Done) : LobReader → Prop
  | .materialize _ => longRowId = true
  | .read _ | .readSeek _ | .write _ | .createFphandle | .create =>
      SkippedWhole longRowId done

/-! Replies that bring the readers there. -/

def ends (count : Nat) : List UInt8 := (List.replicate count eotBytes).flatten

theorem drops_opcodeRound (value : Unit) : Drops 2 (opcodeRound value) :=
  drops_tcpWord.then fun _ => Drops.ite (Drops.pure _) (Drops.pure _)

theorem takes_replyOpcode {high low : UInt8}
    (hopcode : word high low ≠ Opcode.eot) (count : Nat) :
    Takes replyOpcode (ends count ++ [high, low]) (word high low) := by
  have hproceeds : Proceeds opcodeRound :=
    Proceeds.of_drops fun value => (drops_opcodeRound value).mono (by decide)
  induction count with
  | zero =>
      refine Takes.forever_last hproceeds ((takes_tcpWord high low).then ?_)
      rw [if_neg hopcode]
      exact Takes.pure _
  | succ count ih =>
      have hend : Takes (opcodeRound ()) eotBytes (.inl ()) :=
        (takes_tcpWord 0 12).then (Takes.pure _)
      have hends : ends (count + 1) ++ [high, low] =
          eotBytes ++ (ends count ++ [high, low]) := by
        simp [ends, List.replicate_succ]
      rw [hends]
      exact Takes.forever_next hproceeds hend ih

/-- `SQ_LODATA`, the operation and the size. -/
def lodataBytes (optype size : Nat) : List UInt8 :=
  bigEndian 2 optype ++ bigEndian 4 size

theorem takes_lodataHeader {optype size : Nat} (hoptype : optype < 65536)
    (hsize : size < 2 ^ 32) (count : Nat) :
    Takes (lodataHeader remove64k)
      (ends count ++ [0, 97] ++ lodataBytes optype size)
      (optype, toInt32 size) := by
  have hbody : Takes (tcpRead 6) (lodataBytes optype size)
      (lodataBytes optype size) :=
    takes_tcpRead (by decide) (by simp [lodataBytes])
  have hheader : (natOfBytes ((lodataBytes optype size).take 2),
      toInt32 (natOfBytes ((lodataBytes optype size).drop 2))) =
        (optype, toInt32 size) := by
    rw [lodataBytes, List.take_left' (length_bigEndian _ _),
      List.drop_left' (length_bigEndian _ _),
      natOfBytes_bigEndian_of_lt hoptype, natOfBytes_bigEndian_of_lt hsize]
  have hrest : Takes (do
      expectOpcode remove64k Opcode.lodata (word 0 97)
      let body ← tcpRead 6
      return (natOfBytes (body.take 2), toInt32 (natOfBytes (body.drop 2))))
      (lodataBytes optype size) (optype, toInt32 size) :=
    (Takes.pure ()).bind (hbody.then (hheader ▸ Takes.pure _))
  exact (takes_replyOpcode (by decide) count).bind hrest

/-- Chunks as a read of `expected` octets takes them. -/
inductive Chunks (expected : Nat) : Nat → List UInt8 → Prop
  | full (hfull : expected ≤ total) : Chunks expected total []
  | short (hmore : total < expected) : Chunks expected total [0, 0]
  | chunk (hmore : total < expected) (bytes : List UInt8)
      (hnonempty : bytes ≠ []) (hlength : bytes.length < 65536)
      (hrest : Chunks expected (total + bytes.length) rest) :
      Chunks expected total
        (bigEndian 2 bytes.length ++ padEven bytes ++ rest)

theorem drops_readChunk (streamed : Streamed) :
    Drops 2 (readChunk nbytes streamed) := by
  refine drops_tcpWord.then fun length => Drops.ite (Drops.pure _) ?_
  exact (Drops.readExact _).free.then fun bytes =>
    ((Drops.readExact _).map _).free.then fun _ =>
      ((Drops.readExact _).map _).free.then fun _ => Drops.pure _

theorem proceeds_chunkRound (nbytes expected : Nat) :
    Proceeds (chunkRound nbytes expected) :=
  Proceeds.guarded fun streamed => (drops_readChunk streamed).mono (by decide)

theorem takes_word_bytes {value : Nat} (hvalue : value < 65536) :
    Takes tcpWord (bigEndian 2 value) value := by
  have htakes := (takes_tcpRead (by decide) (length_bigEndian 2 value)).map
    natOfBytes
  rwa [natOfBytes_bigEndian_of_lt hvalue] at htakes

theorem takes_dump {bytes : List UInt8} {count : Nat}
    (hcount : bytes.length = count) : Takes (dump count) bytes () :=
  (Takes.readExact hcount).map _

theorem takes_readChunk (nbytes : Nat) (hnonempty : bytes ≠ [])
    (hlength : bytes.length < 65536) (streamed : Streamed) :
    ∃ copied, Takes (readChunk nbytes streamed)
      (bigEndian 2 bytes.length ++ padEven bytes)
      (.inl ⟨streamed.total + bytes.length, copied⟩) := by
  let count := min bytes.length (nbytes - streamed.copied.length)
  have hle : count ≤ bytes.length := Nat.min_le_left _ _
  have hcopied : Takes (readExact .ioError count : OctetReader (List UInt8))
      (bytes.take count) (bytes.take count) :=
    Takes.readExact (List.length_take_of_le hle)
  have hdropped := takes_dump (List.length_drop (l := bytes) (i := count))
  have hpad := takes_dump (List.length_replicate
    (n := bytes.length % 2) (a := (0 : UInt8)))
  have hbytes : padEven bytes = bytes.take count ++ (bytes.drop count ++
      List.replicate (bytes.length % 2) 0) := by
    rw [← List.append_assoc, List.take_append_drop, padEven]
  refine ⟨streamed.copied ++ bytes.take count, ?_⟩
  rw [hbytes]
  refine (takes_word_bytes hlength).bind ?_
  rw [if_neg (by simpa using hnonempty)]
  exact hcopied.bind (hdropped.bind (hpad.then (Takes.pure _)))

theorem takes_readChunks {expected total : Nat} {copied : List UInt8}
    (hchunks : Chunks expected total bytes) :
    ∃ found, Takes (forever .ioError (chunkRound nbytes expected)
      ⟨total, copied⟩) bytes found := by
  induction hchunks generalizing copied with
  | @full total hfull =>
      refine ⟨copied, Takes.forever_last (proceeds_chunkRound _ _) ?_⟩
      rw [chunkRound, if_pos hfull]
      exact Takes.pure _
  | @short total hmore =>
      refine ⟨copied, Takes.forever_last (proceeds_chunkRound _ _) ?_⟩
      rw [chunkRound, if_neg (Nat.not_le.mpr hmore)]
      exact (takes_tcpWord 0 0).then (Takes.pure _)
  | @chunk total rest hmore bytes hnonempty hlength hrest ih =>
      obtain ⟨middle, hchunk⟩ := takes_readChunk nbytes hnonempty hlength
        ⟨total, copied⟩
      obtain ⟨found, hfound⟩ := @ih middle
      refine ⟨found, Takes.forever_next (proceeds_chunkRound _ _) ?_ hfound⟩
      rw [chunkRound, if_neg (Nat.not_le.mpr hmore)]
      exact hchunk

theorem comes_write {optype size : Nat} (hoptype : optype < 65536)
    (hsize : size < 2 ^ 32) (count nbytes : Nat) :
    (LobReader.write nbytes).Comes remove64k
      (ends count ++ [0, 97] ++ lodataBytes optype size) :=
  ComesBehind.of_takes (takes_lodataHeader hoptype hsize count)

/-- An object with `size` octets left, in chunks. -/
theorem comes_read {optype size : Nat} (hoptype : optype < 65536)
    (hpositive : 0 < size) (hsize : size < 2 ^ 31) (count nbytes : Nat)
    (hchunks : Chunks (min size (requestLength nbytes)) 0 bytes) :
    (LobReader.read nbytes).Comes remove64k
      (ends count ++ [0, 97] ++ lodataBytes optype size ++ bytes) := by
  have hvalue : toInt32 size = size := by
    rw [toInt32]
    exact Int.bmod_eq_of_le (by omega) (by omega)
  have hheader := @takes_lodataHeader remove64k optype size hoptype (by omega)
    count
  obtain ⟨found, hfound⟩ := @takes_readChunks bytes nbytes _ 0 [] hchunks
  have hanswer : Takes (readAnswer remove64k nbytes)
      (ends count ++ [0, 97] ++ lodataBytes optype size ++ bytes) found := by
    refine hheader.bind ?_
    rw [hvalue, if_neg (by dsimp only; omega)]
    exact hfound
  exact ComesBehind.of_takes hanswer

theorem comes_materialize : (LobReader.materialize room).Comes remove64k [] :=
  ⟨[], fun _ _ => rfl⟩

/-- A message that the loop takes as a whole. -/
theorem comes_materialize_next {message : List UInt8}
    (hcomes : (LobReader.materialize room).Comes remove64k beginning)
    (hmessage : ∀ accum, ∃ next,
      Takes (materializeRound room remove64k accum) message (.inl next)) :
    (LobReader.materialize room).Comes remove64k (beginning ++ message) := by
  obtain ⟨accum, hbeginning⟩ := hcomes
  obtain ⟨next, hnext⟩ := hmessage accum
  refine ⟨next, fun rest own => ?_⟩
  rw [List.append_assoc, hbeginning, materializeFrom,
    forever_eq proceeds_materializeRound, hnext]

/-! What is left unread behind a reply. -/

theorem leaves_map (program : OctetReader α) (state : Incoming (List Look)) :
    Leaves (((fun _ => ()) <$> program : OctetReader Unit) state) later ↔
      Leaves (program state) later :=
  leaves_still (fun _ => Still.pure ()) state

theorem leaves_materialize
    (hcomes : (LobReader.materialize room).Comes remove64k beginning) :
    Leaves (materialize room remove64k
        ⟨beginning ++ (replyEnd longRowId done ++ later), own⟩) later ↔
      longRowId = true := by
  obtain ⟨accum, hbeginning⟩ := hcomes
  rw [hbeginning]
  exact materialize_done_iff

theorem leaves_sblobRead
    (hcomes : ComesBehind (readAnswer remove64k nbytes) beginning) :
    Leaves (sblobRead remove64k nbytes
        ⟨beginning ++ (replyEnd longRowId done ++ later), own⟩) later ↔
      SkippedWhole longRowId done :=
  leaves_behind hcomes fun _ => Still.pure _

theorem leaves_sblobWrite
    (hcomes : ComesBehind (lodataHeader remove64k) beginning) :
    Leaves (sblobWrite remove64k nbytes
        ⟨beginning ++ (replyEnd longRowId done ++ later), own⟩) later ↔
      SkippedWhole longRowId done :=
  leaves_behind hcomes fun _ =>
    Still.ite (Still.throw (by decide)) (Still.pure _)

theorem leaves_loCreateFphandle
    (hcomes : ComesBehind (routineAnswer remove64k) beginning) :
    Leaves (loCreateFphandle remove64k
        ⟨beginning ++ (replyEnd longRowId done ++ later), own⟩) later ↔
      SkippedWhole longRowId done :=
  leaves_behind hcomes fun _ =>
    Still.ite (Still.throw (by decide)) (Still.pure _)

theorem leaves_sblobCreateInto
    (hcomes : ComesBehind (createAnswer remove64k) beginning) :
    Leaves (sblobCreateInto remove64k
        ⟨beginning ++ (replyEnd longRowId done ++ later), own⟩) later ↔
      SkippedWhole longRowId done :=
  leaves_behind hcomes fun _ =>
    Still.ite (Still.throw (by decide)) (Still.pure _)

/-- A DONE and the end behind it: `receive_done` takes the fields of the DONE, and
the other readers take as much if they count right. -/
theorem lobReaders_stop_iff (reader : LobReader)
    (hcomes : reader.Comes remove64k beginning) (longRowId : Bool)
    (done : Done) (later : List UInt8) (own : List Look) :
    (∃ found looks,
      receiveDone longRowId
          ⟨doneBytes longRowId done ++ (eotBytes ++ later), own⟩ =
        .ok found ⟨eotBytes ++ later, looks⟩) ∧
    (Leaves (reader.run remove64k
        ⟨beginning ++ (replyEnd longRowId done ++ later), own⟩) later ↔
      reader.CountsRight longRowId done) := by
  refine ⟨receiveDone_eot longRowId done later own, ?_⟩
  cases reader with
  | materialize room => exact (leaves_map _ _).trans (leaves_materialize hcomes)
  | read nbytes => exact (leaves_map _ _).trans (leaves_sblobRead hcomes)
  | readSeek nbytes => exact (leaves_map _ _).trans (leaves_sblobRead hcomes)
  | write nbytes => exact (leaves_map _ _).trans (leaves_sblobWrite hcomes)
  | createFphandle =>
      exact (leaves_map _ _).trans (leaves_loCreateFphandle hcomes)
  | create => exact (leaves_map _ _).trans (leaves_sblobCreateInto hcomes)

/-- A write of five octets is acknowledged; a transaction status stands in front of
the DONE. -/
theorem lobReaders_stop_write :
    Leaves ((LobReader.write 5).run false
      ⟨ends 0 ++ [0, 97] ++ lodataBytes 2 5 ++ [0, 99, 0, 1, 0, 2, 0, 0] ++
        (replyEnd true ⟨0, 1, 0, 7⟩ ++ [0, 14]), []⟩) [0, 14] := by
  have hstatus : Passed [0, 99, 0, 1, 0, 2, 0, 0] :=
    passed_words (by decide) (by decide)
  have hcomes : (LobReader.write 5).Comes false _ :=
    (@comes_write false 2 5 (by decide) (by decide) 0 5).pass hstatus
  exact (lobReaders_stop_iff _ hcomes true _ _ []).2.mpr
    (show SkippedWhole true ⟨0, 1, 0, 7⟩ by decide +kernel)

/-- Where the serial is 12, the end of the DONE and the end of the reply stay
unread; without long row ids a blob fetch reads on into the next message. -/
theorem done_counted_wrong :
    (LobReader.write 5).Comes false
        (ends 0 ++ [0, 97] ++ lodataBytes 2 5) ∧
      sblobWrite false 5
          ⟨ends 0 ++ [0, 97] ++ lodataBytes 2 5 ++
            (replyEnd true ⟨0, 1, 0, 12⟩ ++ [0, 14]), []⟩ =
        .ok 5 ⟨eotBytes ++ [0, 14], []⟩ ∧
      ¬ Leaves ((LobReader.write 5).run false
        ⟨ends 0 ++ [0, 97] ++ lodataBytes 2 5 ++
          (replyEnd true ⟨0, 1, 0, 12⟩ ++ [0, 14]), []⟩) [0, 14] ∧
      ¬ Leaves ((LobReader.materialize ⟨fun _ => true, fun _ => true⟩).run false
        ⟨[] ++ (replyEnd false ⟨0, 1, 0, 7⟩ ++ [0, 14]), []⟩) [0, 14] := by
  refine ⟨comes_write (by decide) (by decide) 0 5, rfl, ?_, ?_⟩
  · have hcomes := @comes_write false 2 5 (by decide) (by decide) 0 5
    rw [LobReader.run, leaves_map, leaves_sblobWrite hcomes]
    decide +kernel
  · rw [LobReader.run, leaves_map, leaves_materialize comes_materialize]
    decide

end Libsqli.Sblob
