import Libsqli.Sblob.ReaderCalls

namespace Libsqli.Sblob

open Libsqli.Data
open Libsqli.Data.Bytes
open Libsqli.Data.Program
open Libsqli.Data.Stream
open Libsqli.Octets

variable {remove64k : Bool} {nbytes : Nat} {lofd : Int} {seek : Option Int64}
  {octets : List UInt8} {server : ReadServer} {cut : Cut}

/-! What the server makes of a request. -/

theorem magnitude_eq (offset : Int) : magnitude offset = offset.natAbs := by
  unfold magnitude
  split <;> omega

theorem reads_seekOffset (offset : Int64) :
    Reads seekOffset (seekBytes offset.toInt) offset.toInt := by
  have hlower := offset.le_toInt
  have hupper := offset.toInt_lt
  generalize offset.toInt = offset at hlower hupper ⊢
  have hmagnitude := magnitude_eq offset
  have hsign : Reads (natural 2) (bigEndian 2 (if offset < 0 then 65535 else 1))
      (if offset < 0 then 65535 else 1) := by
    refine Reads.natural ?_
    split <;> decide
  have hlow : Reads (natural 4) (bigEndian 4 (magnitude offset % 2 ^ 32))
      (magnitude offset % 2 ^ 32) := Reads.natural (by omega)
  have hhigh : Reads (natural 4) (bigEndian 4 (magnitude offset / 2 ^ 32))
      (magnitude offset / 2 ^ 32) := Reads.natural (by omega)
  have hwhence : Reads (natural 2) (bigEndian 2 1) 1 :=
    Reads.natural (by decide)
  have hsize : ((magnitude offset % 2 ^ 32 : Nat) : Int) +
      2 ^ 32 * (magnitude offset / 2 ^ 32 : Nat) = magnitude offset := by
    omega
  have hvalue : (if (if offset < 0 then 65535 else 1) = 65535 then
      -(magnitude offset : Int) else magnitude offset) = offset := by
    by_cases hnegative : offset < 0
    · rw [if_pos hnegative, if_pos rfl]
      omega
    · rw [if_neg hnegative, if_neg (by decide)]
      omega
  have hlast : Reads (do
      let _whence ← natural 2
      return offset) (bigEndian 2 1 ++ []) offset :=
    hwhence.bind (Reads.pure offset)
  rw [List.append_nil] at hlast
  refine hsign.bind (hlow.bind (hhigh.bind ?_))
  simp only [hsize, hvalue]
  exact hlast

theorem reads_readRequest {subCom descriptor length : Nat}
    {behind : List UInt8} {offset : Int} (hsubCom : subCom < 256 ^ 2)
    (hdescriptor : descriptor < 256 ^ 2) (hlength : length < 256 ^ 4)
    (hoffset : Reads (offsetField subCom) behind offset) :
    Reads readRequestFields
      ([0, 97] ++ (bigEndian 2 subCom ++ (bigEndian 2 descriptor ++
        (bigEndian 4 length ++ (bigEndian 2 bufsize ++
          (behind ++ (eotBytes ++ [])))))))
      ⟨descriptor, length, offset⟩ := by
  unfold readRequestFields
  refine (Reads.expect [0, 97]).bind ?_
  refine (Reads.natural hsubCom).bind ?_
  refine (Reads.natural hdescriptor).bind ?_
  refine (Reads.natural hlength).bind ?_
  refine (Reads.natural (by decide)).bind ?_
  refine hoffset.bind ?_
  exact (Reads.expect eotBytes).bind (Reads.pure _)

theorem reads_requestBytes (hlofd : lofd < 65536) (seek : Option Int64)
    (nbytes : Nat) :
    Reads readRequestFields (requestBytes seek lofd nbytes)
      ⟨lofd.toNat, requestLength nbytes, offsetOf seek⟩ := by
  have hlength : requestLength nbytes < 256 ^ 4 := by
    unfold requestLength
    omega
  have hdescriptor : lofd.toNat < 256 ^ 2 := by omega
  cases seek with
  | none =>
      have hoffset : Reads (offsetField 0) [] 0 := Reads.pure 0
      have hread := reads_readRequest (by decide) hdescriptor hlength hoffset
      simpa [requestBytes, readRequest, readHeader, offsetOf] using hread
  | some offset =>
      have hoffset : Reads (offsetField 1) (seekBytes offset.toInt)
          offset.toInt := reads_seekOffset offset
      have hread := reads_readRequest (by decide) hdescriptor hlength hoffset
      simpa [requestBytes, readSeekRequest, readHeader, offsetOf] using hread

/-! What the calls make of a reply. -/

/-- A chunk that fits the buffer is copied as a whole. -/
theorem takes_wholeChunk {chunk : List UInt8} (hchunk : chunk ≠ [])
    (hlength : chunk.length < 65536) {copied : List UInt8}
    (hroom : copied.length + chunk.length ≤ nbytes) (total : Nat) :
    Takes (readChunk nbytes ⟨total, copied⟩) (cut.chunkBytes chunk)
      (.inl ⟨total + chunk.length, copied ++ chunk⟩) := by
  have hcount : min chunk.length (nbytes - copied.length) = chunk.length := by
    omega
  have hcopied : Takes (readExact .ioError chunk.length :
      OctetReader (List UInt8)) chunk chunk := Takes.readExact rfl
  have hnothing : Takes (dump (chunk.length - chunk.length)) [] () :=
    takes_dump (by simp)
  have hpad : Takes (dump (chunk.length % 2))
      (List.replicate (chunk.length % 2) cut.pad) () :=
    takes_dump List.length_replicate
  refine (takes_word_bytes hlength).bind ?_
  rw [if_neg (by simpa using hchunk)]
  dsimp only
  rw [hcount]
  exact hcopied.bind (hnothing.bind (hpad.then (Takes.pure _)))

theorem takes_wholeChunks {expected : Nat} (hexpected : expected ≤ nbytes)
    {chunks : List (List UInt8)}
    (hchunks : ∀ chunk ∈ chunks, chunk ≠ [] ∧ chunk.length < 65536)
    {copied : List UInt8}
    (htotal : copied.length + chunks.flatten.length = expected) :
    Takes (forever .ioError (chunkRound nbytes expected)
        ⟨copied.length, copied⟩)
      (chunks.flatMap cut.chunkBytes) (copied ++ chunks.flatten) := by
  induction chunks generalizing copied with
  | nil =>
      refine Takes.forever_last (proceeds_chunkRound _ _) ?_
      rw [chunkRound, if_pos (by simpa using htotal.ge)]
      simpa using Takes.pure _
  | cons chunk chunks ih =>
      obtain ⟨⟨hnonempty, hlength⟩, hrest⟩ := List.forall_mem_cons.mp hchunks
      rw [List.flatten_cons, List.length_append] at htotal
      have hpositive := List.length_pos_iff.mpr hnonempty
      have hchunk := @takes_wholeChunk nbytes cut chunk hnonempty hlength copied
        (by omega) copied.length
      have hbehind := @ih hrest (copied ++ chunk)
        (by rw [List.length_append]; omega)
      rw [List.length_append, List.append_assoc] at hbehind
      rw [List.flatMap_cons, List.flatten_cons]
      refine Takes.forever_next (proceeds_chunkRound _ _) ?_ hbehind
      rw [chunkRound, if_neg (by dsimp only; omega)]
      exact hchunk

theorem takes_drainTrailing_end : Takes drainTrailing eotBytes () :=
  fun rest own => @drainTrailing_eot own 0 12 rfl rest

theorem Cut.chunks_nil (cut : Cut) : cut.chunks [] = [] := by
  cases hchunks : cut.chunks [] with
  | nil => rfl
  | cons chunk chunks =>
      have hchunk : chunk ∈ cut.chunks [] := by simp [hchunks]
      have hflatten := cut.flatten_chunks []
      rw [hchunks, List.flatten_cons] at hflatten
      exact absurd (List.append_eq_nil_iff.mp hflatten).1
        (cut.chunk_size [] chunk hchunk).1

/-- The octets left are as many as the size says, and `octets` of them are sent. -/
theorem takes_reply {remaining : Nat} (hremaining : remaining < 2 ^ 31)
    (hnbytes : nbytes < 2 ^ 31)
    (hoctets : octets.length = min nbytes remaining) :
    Takes (sblobRead remove64k nbytes) (cut.reply remaining octets) octets := by
  have hvalue : toInt32 remaining = remaining :=
    toInt32_eq_of_range (by omega) (by unfold int32Max; omega)
  have hheader := @takes_lodataHeader remove64k cut.operation.toNat remaining
    cut.operation.toNat_lt (by omega) 0
  rw [hvalue] at hheader
  have hanswer : Takes (readAnswer remove64k nbytes)
      ([0, 97] ++ lodataBytes cut.operation.toNat remaining ++
        (cut.chunks octets).flatMap cut.chunkBytes) octets := by
    refine hheader.bind ?_
    dsimp only
    by_cases hzero : remaining = 0
    · have hnone : octets = [] := List.length_eq_zero_iff.mp (by omega)
      subst hnone
      rw [cut.chunks_nil, if_pos (by omega)]
      exact Takes.pure _
    · rw [if_neg (by omega)]
      have hlength : requestLength nbytes = nbytes :=
        Nat.min_eq_left (by omega)
      have hflatten := cut.flatten_chunks octets
      have hread := @takes_wholeChunks nbytes cut octets.length (by omega)
        (cut.chunks octets) (cut.chunk_size octets) [] (by
          rw [hflatten, List.length_nil, Nat.zero_add])
      rw [hflatten, hoctets] at hread
      unfold readChunks
      rw [hlength, Int.toNat_natCast, Nat.min_comm]
      exact hread
  rw [Cut.reply, ← List.append_assoc]
  exact hanswer.bind (takes_drainTrailing_end.then (Takes.pure octets))

/-! A call, and a run. -/

variable {call : ReaderCall} {scene after : ReadScene} {result : ReadResult}

/-- If it asks anything of the server: the descriptor fits its two octets, and
what is left of the object the size that the client reads. -/
def ReaderCall.Fits (call : ReaderCall) (scene : ReadScene) : Prop :=
  ∀ bytes, call.request = .ok (some bytes) →
    call.reader.descriptor < 65536 ∧
      (call.object scene).length - call.start scene ≤ 2147483647

/-- A call that is not refused asks for nothing, or for what there is room. -/
theorem ReaderCall.request_ok {asked : Option (List UInt8)}
    (hrequest : call.request = .ok asked) :
    call.capacity = 0 ∧ asked = none ∨
      call.capacity ≠ 0 ∧ call.capacity ≤ int32Max ∧
        asked = some (requestBytes call.seek call.reader.descriptor
          call.capacity) := by
  unfold ReaderCall.request at hrequest
  split at hrequest
  · cases hrequest
  · split at hrequest
    · cases hrequest
    · next hcapacity =>
      by_cases hzero : call.capacity = 0
      · rw [if_pos hzero] at hrequest
        cases hrequest
        exact .inl ⟨hzero, rfl⟩
      · rw [if_neg hzero, sblobRequest, if_neg hzero] at hrequest
        split at hrequest
        · cases hrequest
        · split at hrequest
          · cases hrequest
          · cases hrequest
            exact .inr ⟨hzero, Int.not_lt.mp hcapacity, rfl⟩

theorem ReaderCall.length_wanted (call : ReaderCall) (scene : ReadScene) :
    (call.wanted scene).length = min call.capacity
      ((call.object scene).length - call.start scene) := by
  rw [ReaderCall.wanted, List.length_take, List.length_drop]

theorem ReaderCall.takes_receive (call : ReaderCall)
    (hcapacity : call.capacity ≤ int32Max) {remaining : Nat}
    (hremaining : remaining ≤ 2147483647)
    (hoctets : octets.length = min call.capacity remaining) :
    Takes call.receive (call.cut.reply remaining octets) octets := by
  unfold int32Max at hcapacity
  have htakes := @takes_reply call.conn.remove64k call.capacity octets call.cut
    remaining (by omega) (by omega) hoctets
  unfold ReaderCall.receive
  cases call.seek with
  | none => exact htakes
  | some offset => exact htakes

/-- The server is asked for what the call is to read. -/
theorem ReaderCall.answer_eq (call : ReaderCall) (scene : ReadScene)
    (hcapacity : call.capacity ≤ int32Max)
    (hdescriptor : call.reader.descriptor < 65536) :
    scene.server.answer call.cut
        (requestBytes call.seek call.reader.descriptor call.capacity) =
      (call.cut.reply ((call.object scene).length - call.start scene)
          (call.wanted scene),
        { scene.server with
          position := Function.update scene.server.position call.descriptor
            (call.start scene + (call.wanted scene).length) }) := by
  have hlength : requestLength call.capacity = call.capacity := by
    unfold int32Max at hcapacity
    exact Nat.min_eq_left (by omega)
  have hread := (reads_requestBytes hdescriptor call.seek call.capacity).all
  rw [hlength] at hread
  rw [ReadServer.answer, hread]
  rfl

/-- A call whose request is answered, and the whole reply is taken. -/
theorem ReaderCall.run_answered {bytes reply : List UInt8}
    (hrequest : call.request = .ok (some bytes))
    (hanswer : scene.server.answer call.cut bytes = (reply, server))
    (hreceive : call.receive ⟨scene.unread ++ reply, []⟩ =
      .ok octets ⟨[], []⟩) :
    call.run scene = (.ok (call.stored octets), ⟨server, []⟩) := by
  rw [ReaderCall.run, hrequest]
  dsimp only
  rw [hanswer]
  dsimp only
  rw [hreceive]

/-- What a fitting call that asks comes to. -/
theorem ReaderCall.run_asked (hscene : scene.unread = [])
    (hfits : call.Fits scene)
    (hrequest : call.request = .ok (some (requestBytes call.seek
      call.reader.descriptor call.capacity)))
    (hcapacity : call.capacity ≤ int32Max) :
    call.run scene = (.ok (call.stored (call.wanted scene)),
      ⟨{ scene.server with
        position := Function.update scene.server.position call.descriptor
          (call.start scene + (call.wanted scene).length) }, []⟩) := by
  obtain ⟨hdescriptor, hremaining⟩ := hfits _ hrequest
  have hreceive := call.takes_receive hcapacity hremaining
    (call.length_wanted scene) [] []
  rw [List.append_nil] at hreceive
  refine ReaderCall.run_answered hrequest
    (call.answer_eq scene hcapacity hdescriptor) ?_
  rw [hscene, List.nil_append]
  exact hreceive

/-- A fitting call is refused, or asks for nothing, or gets what it wants. -/
theorem ReaderCall.run_cases (hscene : scene.unread = [])
    (hfits : call.Fits scene) :
    (∃ status, call.run scene = (.error status, scene)) ∨
      call.capacity = 0 ∧ call.run scene = (.ok (call.stored []), scene) ∨
      call.capacity ≠ 0 ∧ call.run scene =
        (.ok (call.stored (call.wanted scene)),
          ⟨{ scene.server with
            position := Function.update scene.server.position call.descriptor
              (call.start scene + (call.wanted scene).length) }, []⟩) := by
  cases hrequest : call.request with
  | error status =>
      exact .inl ⟨status, by rw [ReaderCall.run, hrequest]⟩
  | ok asked =>
      rcases call.request_ok hrequest with
        ⟨hcapacity, rfl⟩ | ⟨hnonzero, hcapacity, rfl⟩
      · exact .inr (.inl ⟨hcapacity, by rw [ReaderCall.run, hrequest]⟩)
      · exact .inr (.inr ⟨hnonzero,
          ReaderCall.run_asked hscene hfits hrequest hcapacity⟩)

theorem ReaderCall.faithful_nothing (hcapacity : call.capacity = 0) :
    call.Faithful scene (call.stored []) scene := by
  have hwanted : call.wanted scene = [] := by
    rw [ReaderCall.wanted, hcapacity, List.take_zero]
  refine ⟨?_, ?_, Nat.zero_le _, fun _ => .inl hcapacity, rfl, rfl, ?_⟩
  · rw [hwanted]
    rfl
  · rw [hwanted]
    rfl
  · rw [if_pos hcapacity]

theorem ReaderCall.faithful_wanted (hscene : scene.unread = [])
    (hnonzero : call.capacity ≠ 0) :
    call.Faithful scene (call.stored (call.wanted scene))
      ⟨{ scene.server with
        position := Function.update scene.server.position call.descriptor
          (call.start scene + (call.wanted scene).length) }, []⟩ := by
  have hlength := call.length_wanted scene
  refine ⟨rfl, rfl, ?_, ?_, hscene.symm, rfl, ?_⟩
  · exact hlength.trans_le (Nat.min_le_left _ _)
  · intro hzero
    change (call.wanted scene).length = 0 at hzero
    omega
  · rw [if_neg hnonzero]
    rfl

theorem ReaderCall.run_ok (hscene : scene.unread = [])
    (hfits : call.Fits scene)
    (hrun : call.run scene = (.ok result, after)) :
    call.Faithful scene result after := by
  rcases call.run_cases hscene hfits with
    ⟨status, hcase⟩ | ⟨hcapacity, hcase⟩ | ⟨hnonzero, hcase⟩
  · rw [hcase] at hrun
    cases hrun
  · rw [hcase] at hrun
    cases hrun
    exact faithful_nothing hcapacity
  · rw [hcase] at hrun
    cases hrun
    exact faithful_wanted hscene hnonzero

/-- A call fails only if it is refused before anything is asked. -/
theorem ReaderCall.run_error {status : Status} (hscene : scene.unread = [])
    (hfits : call.Fits scene)
    (hrun : call.run scene = (.error status, after)) : after = scene := by
  rcases call.run_cases hscene hfits with
    ⟨found, hcase⟩ | ⟨-, hcase⟩ | ⟨-, hcase⟩
  · rw [hcase] at hrun
    cases hrun
    rfl
  · rw [hcase] at hrun
    cases hrun
  · rw [hcase] at hrun
    cases hrun

structure ReadEvent where
  call : ReaderCall
  outcome : Except Status ReadResult

/-- A call in a run, by whichever reader. -/
def ReadEvent.Step (scene : ReadScene) (event : ReadEvent) (after : ReadScene) :
    Prop :=
  event.call.run scene = (event.outcome, after)

structure ReadEvent.FittingStep (scene : ReadScene) (event : ReadEvent)
    (after : ReadScene) : Prop where
  fits : event.call.Fits scene
  step : event.Step scene after

/-- What the calls with this descriptor have stored. -/
def ReadEvent.storedOctets (descriptor : Nat) (event : ReadEvent) : List UInt8 :=
  if event.call.descriptor = descriptor then
    match event.outcome with
    | .ok result => result.buffer.take result.count
    | .error _ => []
  else []

theorem ReaderCall.Faithful.octets_eq
    (hfaithful : call.Faithful scene result after) :
    result.buffer.take result.count = call.wanted scene := by
  rw [hfaithful.buffer_eq, hfaithful.count_eq, List.take_left]

theorem take_append_take_drop (object : List UInt8) (count capacity : Nat) :
    object.take count ++ (object.drop count).take capacity =
      object.take (count + ((object.drop count).take capacity).length) := by
  rw [List.take_add, List.length_take, ← List.take_eq_take_min]

/-- The octets stored so far lead from the first position to the present one. -/
structure Sequential (first : ReadServer) (descriptor : Nat)
    (octets : List UInt8) (last : ReadScene) : Prop where
  unread_eq : last.unread = []
  object_eq : last.server.object = first.object
  position_eq : last.server.position descriptor =
    first.position descriptor + octets.length
  octets_eq : octets = ((first.object descriptor).drop
    (first.position descriptor)).take octets.length

theorem Sequential.step {descriptor : Nat} {event : ReadEvent}
    (hsequential : Sequential server descriptor octets scene)
    (hplain : event.call.descriptor = descriptor → event.call.seek = none)
    (hstep : event.FittingStep scene after) :
    Sequential server descriptor (octets ++ event.storedOctets descriptor) after := by
  obtain ⟨hfits, hrun⟩ := hstep
  obtain ⟨call, outcome⟩ := event
  obtain ⟨hunread, hobject, hposition, hoctets⟩ := hsequential
  cases outcome with
  | error status =>
      cases call.run_error hunread hfits hrun
      have hnone : ReadEvent.storedOctets descriptor ⟨call, .error status⟩ = [] := by
        unfold ReadEvent.storedOctets
        split <;> rfl
      rw [hnone, List.append_nil]
      exact ⟨hunread, hobject, hposition, hoctets⟩
  | ok result =>
      have hfaithful := ReaderCall.run_ok hunread hfits hrun
      by_cases hdescriptor : call.descriptor = descriptor
      · have hstored : ReadEvent.storedOctets descriptor ⟨call, .ok result⟩ =
            call.wanted scene := by
          rw [ReadEvent.storedOctets, if_pos hdescriptor]
          exact hfaithful.octets_eq
        have hstart : call.start scene =
            server.position descriptor + octets.length := by
          rw [ReaderCall.start, hplain hdescriptor, hdescriptor, hposition]
          simp only [offsetOf]
          omega
        have hwanted : call.wanted scene =
            (((server.object descriptor).drop (server.position descriptor)).drop
              octets.length).take call.capacity := by
          rw [ReaderCall.wanted, ReaderCall.object, hobject, hdescriptor, hstart,
            List.drop_drop]
        rw [hstored]
        refine ⟨hfaithful.unread_eq.trans hunread,
          hfaithful.object_eq.trans hobject, ?_, ?_⟩
        · rw [hfaithful.position_eq, List.length_append]
          by_cases hcapacity : call.capacity = 0
          · have hnone : call.wanted scene = [] := by
              rw [hwanted, hcapacity, List.take_zero]
            rw [if_pos hcapacity, hnone, hposition]
            rfl
          · rw [if_neg hcapacity, ← hdescriptor, Function.update_self, hstart,
              hfaithful.count_eq, Nat.add_assoc, hdescriptor]
        · rw [List.length_append, hwanted, ← take_append_take_drop, ← hoctets]
      · have hnone : ReadEvent.storedOctets descriptor ⟨call, .ok result⟩ = [] :=
          if_neg hdescriptor
        rw [hnone, List.append_nil]
        refine ⟨hfaithful.unread_eq.trans hunread,
          hfaithful.object_eq.trans hobject, ?_, hoctets⟩
        rw [hfaithful.position_eq, ← hposition]
        split
        · rfl
        · exact Function.update_of_ne (Ne.symm hdescriptor) _ _

theorem Sequential.run {first last : ReadScene} {events : List ReadEvent}
    {descriptor : Nat}
    (hrun : Run ReadEvent.FittingStep first events last)
    (hfirst : first.unread = [])
    (hplain : ∀ event ∈ events, event.call.descriptor = descriptor →
      event.call.seek = none) :
    Sequential first.server descriptor
      (events.flatMap (ReadEvent.storedOctets descriptor)) last := by
  induction hrun with
  | nil => exact ⟨hfirst, rfl, rfl, rfl⟩
  | snoc _ hstep ih =>
      have hbefore := ih fun event hevent =>
        hplain event (List.mem_append_left _ hevent)
      rw [List.flatMap_append, List.flatMap_singleton]
      exact hbefore.step (hplain _ (by simp)) hstep

theorem unread_run {first last : ReadScene} {events : List ReadEvent}
    (hrun : Run ReadEvent.FittingStep first events last)
    (hfirst : first.unread = []) : last.unread = [] := by
  refine @Run.invariant _ _ _ (fun scene => scene.unread = []) _ _ _ hrun
    hfirst ?_
  rintro scene ⟨call, outcome⟩ after hunread ⟨hfits, hrun⟩
  cases outcome with
  | error status =>
      cases call.run_error hunread hfits hrun
      exact hunread
  | ok result =>
      exact (ReaderCall.run_ok hunread hfits hrun).unread_eq.trans hunread

/-- At every point of a run each call that returns SQLI_OK is faithful, and what a
reader that starts at the front reads in sequence is a beginning of the object. -/
theorem readers_faithful {first last : ReadScene} {events : List ReadEvent}
    (hrun : Run ReadEvent.FittingStep first events last)
    (hfirst : first.unread = []) :
    (∀ call result after, ReaderCall.Fits call last →
      call.run last = (.ok result, after) →
        call.Faithful last result after ∧ after.unread = []) ∧
    ∀ descriptor, first.server.position descriptor = 0 →
      (∀ event ∈ events, event.call.descriptor = descriptor →
        event.call.seek = none) →
      events.flatMap (ReadEvent.storedOctets descriptor) <+:
        first.server.object descriptor := by
  have hlast := unread_run hrun hfirst
  refine ⟨?_, ?_⟩
  · intro call result after hfits hcall
    have hfaithful := ReaderCall.run_ok hlast hfits hcall
    exact ⟨hfaithful, hfaithful.unread_eq.trans hlast⟩
  · intro descriptor hposition hplain
    have hoctets := (Sequential.run hrun hfirst hplain).octets_eq
    rw [hposition, List.drop_zero] at hoctets
    exact hoctets ▸ List.take_prefix _ _

/-! Samples -/

/-- A chunk for each octet. -/
def sampleCut : Cut where
  chunks octets := octets.map fun octet => [octet]
  pad := 0
  operation := 0
  flatten_chunks octets := by simp [← List.flatMap_def]
  chunk_size := by
    intro octets chunk hchunk
    obtain ⟨octet, -, rfl⟩ := List.mem_map.mp hchunk
    exact ⟨by simp, by simp⟩

def sampleCall (descriptor : Int) (seek : Option Int64) (buffer : List UInt8)
    (capacity : Nat) (hcapacity : capacity ≤ buffer.length) : ReaderCall where
  conn := ⟨false, 5, true, false⟩
  reader := ⟨descriptor, true⟩
  seek := seek
  buffer := buffer
  capacity := capacity
  cut := sampleCut
  hcapacity := hcapacity

def sampleScene (object : List UInt8) : ReadScene :=
  ⟨⟨fun _ => object, fun _ => 0⟩, []⟩

/-- Three octets under the first descriptor, and four under the others. -/
def twoObjects : ReadScene :=
  ⟨⟨fun descriptor => if descriptor = 1 then [1, 2, 3] else [10, 20, 30, 40],
    fun _ => 0⟩, []⟩

def firstRead : ReaderCall := sampleCall 1 none [9, 9] 2 (by decide)

def secondRead : ReaderCall := sampleCall 2 none [9, 9] 1 (by decide)

def secondSeek : ReaderCall := sampleCall 2 (some 1) [9, 9] 2 (by decide)

def afterFirst : ReadScene := (firstRead.run twoObjects).2

def afterSecond : ReadScene := (secondRead.run afterFirst).2

def afterThird : ReadScene := (firstRead.run afterSecond).2

def interleavedReads : List ReadEvent :=
  [⟨firstRead, .ok ⟨2, [1, 2]⟩⟩, ⟨secondRead, .ok ⟨1, [10, 9]⟩⟩,
    ⟨firstRead, .ok ⟨1, [3, 9]⟩⟩]

theorem run_interleavedReads :
    Run ReadEvent.FittingStep twoObjects interleavedReads afterThird := by
  have hone : Run ReadEvent.FittingStep twoObjects
      [⟨firstRead, .ok ⟨2, [1, 2]⟩⟩] afterFirst :=
    .snoc .nil ⟨fun _ _ => ⟨by decide, by decide⟩, rfl⟩
  have htwo : Run ReadEvent.FittingStep twoObjects
      [⟨firstRead, .ok ⟨2, [1, 2]⟩⟩, ⟨secondRead, .ok ⟨1, [10, 9]⟩⟩]
      afterSecond :=
    .snoc hone ⟨fun _ _ => ⟨by decide, by decide⟩, rfl⟩
  exact .snoc htwo ⟨fun _ _ => ⟨by decide, by decide⟩, rfl⟩

/-- The first object is read whole, and the seek then skips in the second. -/
theorem readers_faithful_sample :
    secondSeek.Faithful afterThird ⟨2, [30, 40]⟩
        (secondSeek.run afterThird).2 ∧
      interleavedReads.flatMap (ReadEvent.storedOctets 1) <+: [1, 2, 3] := by
  obtain ⟨hfaithful, hprefixes⟩ := readers_faithful run_interleavedReads rfl
  refine ⟨(hfaithful secondSeek ⟨2, [30, 40]⟩ _
    (fun _ _ => ⟨by decide, by decide⟩) rfl).1, hprefixes 1 rfl ?_⟩
  intro event hevent hdescriptor
  simp only [interleavedReads, List.mem_cons, List.not_mem_nil,
    or_false] at hevent
  rcases hevent with rfl | rfl | rfl
  · rfl
  · exact absurd hdescriptor (by decide)
  · rfl

def sampleOne : ReaderCall := sampleCall 1 none [9] 1 (by decide)

/-- The negative size is taken for that of an end. -/
theorem takes_misled :
    Takes (readAnswer false 1) ([0, 97] ++ lodataBytes 0 2147483648) [] := by
  have hheader := @takes_lodataHeader false 0 2147483648 (by decide) (by decide)
    0
  refine hheader.then ?_
  rw [if_pos (by decide)]
  exact Takes.pure _

/-- The chunk is taken for words behind the answer. -/
theorem receive_misled :
    sampleOne.receive ⟨sampleCut.reply 2147483648 [7], []⟩ =
      .ok [] ⟨[], []⟩ := by
  have hanswer : (readAnswer false 1 >>= fun bytes => do
        drainTrailing
        return bytes) ⟨[0, 97] ++ lodataBytes 0 2147483648 ++
          [0, 1, 7, 0, 0, 12], []⟩ = .ok [] ⟨[], []⟩ :=
    takes_misled.bind_eq [0, 1, 7, 0, 0, 12] []
  exact hanswer

theorem run_misled {object : List UInt8} (hlength : object.length = 2147483648)
    (hfront : object.take 1 = [7]) :
    ∃ after, sampleOne.run (sampleScene object) = (.ok ⟨0, [9]⟩, after) := by
  have hrequest : sampleOne.request =
      .ok (some (requestBytes sampleOne.seek sampleOne.reader.descriptor
        sampleOne.capacity)) := rfl
  have hstart : sampleOne.start (sampleScene object) = 0 := rfl
  have hobject : sampleOne.object (sampleScene object) = object := rfl
  have hwanted : sampleOne.wanted (sampleScene object) = [7] := by
    rw [ReaderCall.wanted, hobject, hstart, List.drop_zero]
    exact hfront
  have hanswer := sampleOne.answer_eq (sampleScene object) (by decide)
    (by decide)
  rw [hwanted, hobject, hstart, hlength, Nat.sub_zero] at hanswer
  exact ⟨_, ReaderCall.run_answered hrequest hanswer receive_misled⟩

/-- Of 2^31 octets a read of one tells that there are none left. -/
theorem readers_misled :
    ¬ ∀ events last,
      Run ReadEvent.Step (sampleScene (List.replicate 2147483648 7))
        events last →
      ∀ call result after, ReaderCall.run call last = (.ok result, after) →
        call.Faithful last result after := by
  intro hfaithful
  obtain ⟨after, hrun⟩ := @run_misled (List.replicate 2147483648 7)
    List.length_replicate (by rw [List.take_replicate]; rfl)
  have hend := (hfaithful [] _ .nil _ _ _ hrun).at_end rfl
  have hlength : (sampleOne.object
      (sampleScene (List.replicate 2147483648 7))).length = 2147483648 :=
    List.length_replicate
  rcases hend with hcapacity | hend
  · exact absurd hcapacity (by decide)
  · rw [hlength] at hend
    exact absurd hend (by decide)

end Libsqli.Sblob
