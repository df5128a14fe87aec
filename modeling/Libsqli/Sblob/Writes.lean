import Libsqli.Sblob.Trailers
import Libsqli.Wire.Send

namespace Libsqli.Sblob

open Libsqli.Data.Bytes
open Libsqli.Wire

variable {lofd : Int} {data chunk : List UInt8} {wire after : Outgoing}

/-! The request of `sqli_sblob_write`. -/

/-- `SQLI_SBLOB_BUFSIZE` -/
def bufsize : Nat := 32000

/-- Of the descriptor, two octets. -/
def writeHeader (lofd : Int) (nbytes : Nat) : List UInt8 :=
  [0, 97] ++ ([0, 2] ++ (bigEndian 2 lofd.toNat ++
    (bigEndian 4 (requestLength nbytes) ++ bigEndian 2 bufsize)))

def sendChunk (chunk : List UInt8) : Sender Unit := do
  send (bigEndian 2 chunk.length)
  send chunk
  if chunk.length % 2 = 1 then send [0] else return

def sendChunks (data : List UInt8) : Sender Unit :=
  if data = [] then return
  else do
    sendChunk (data.take bufsize)
    sendChunks (data.drop bufsize)
termination_by data.length
decreasing_by
  have := List.length_pos_iff.mpr ‹data ≠ []›
  simp [bufsize]
  omega

def requestWrite (lofd : Int) (data : List UInt8) : Sender Bool := do
  send (writeHeader lofd data.length)
  sendChunks data
  send eotBytes
  return true

/-- The call up to its reply; without octets to write there is none. -/
def sendWrite (ready : Bool) (lofd : Int) (data : List UInt8) :
    Sender Bool := fun wire =>
  if lofd < 0 then .error .invalidState wire
  else if data = [] then .ok false wire
  else if wire.fd < 0 ∨ ready = false then .error .invalidState wire
  else requestWrite lofd data wire

/-! The request as the server is to read it. -/

def chunkBytes (chunk : List UInt8) : List UInt8 :=
  bigEndian 2 chunk.length ++ padEven chunk

structure WriteRequest where
  descriptor : Nat
  length : Nat
  chunks : List (List UInt8)
  hdescriptor : descriptor < 256 ^ 2
  hlength : length < 256 ^ 4
  hchunks : ∀ chunk ∈ chunks, 0 < chunk.length ∧ chunk.length ≤ bufsize

def WriteRequest.bytes (request : WriteRequest) : List UInt8 :=
  [0, 97] ++ ([0, 2] ++ (bigEndian 2 request.descriptor ++
    (bigEndian 4 request.length ++ bigEndian 2 bufsize))) ++
      (request.chunks.flatMap chunkBytes ++ eotBytes)

/-- It says where the octets go and how many they are, and brings them. -/
structure WriteRequest.Writes (request : WriteRequest) (lofd : Int)
    (data : List UInt8) : Prop where
  descriptor : (request.descriptor : Int) = lofd
  length : request.length = data.length
  chunks : request.chunks.flatten = data

/-- What a call with a ready connection sends, if all its sends succeed, is such a
request; without octets it sends nothing. A call that fails with all its sends
succeeding has sent nothing. -/
structure WriteFramed (lofd : Int) (data : List UInt8) : Prop where
  request : ∀ {wire after}, sendWrite true lofd data wire = .ok true after →
    ∃ request : WriteRequest, request.Writes lofd data ∧
      after.sent = wire.sent ++ request.bytes
  nothing : ∀ {wire after}, sendWrite true lofd data wire = .ok false after →
    data = [] ∧ after = wire
  refusal : ∀ {wire status after}, (∀ index, wire.Completes index) →
    sendWrite true lofd data wire = .error status after →
    after.sent = wire.sent

/-! What it sends. -/

theorem delivers_sendChunk (chunk : List UInt8) :
    Delivers (sendChunk chunk) (chunkBytes chunk) := by
  have hpad : Delivers (if chunk.length % 2 = 1 then send [0] else return)
      (List.replicate (chunk.length % 2) 0) := by
    rcases Nat.mod_two_eq_zero_or_one chunk.length with heven | hodd
    · rw [if_neg (by omega), heven]
      exact Delivers.pure _
    · rw [if_pos hodd, hodd]
      exact Delivers.send _
  exact (Delivers.send _).bind fun _ => (Delivers.send _).bind fun _ => hpad

theorem delivers_sendChunks (data : List UInt8) :
    ∃ chunks : List (List UInt8),
      Delivers (sendChunks data) (chunks.flatMap chunkBytes) ∧
      (∀ chunk ∈ chunks, 0 < chunk.length ∧ chunk.length ≤ bufsize) ∧
      chunks.flatten = data := by
  fun_induction sendChunks data with
  | case1 => exact ⟨[], Delivers.pure (), by simp, rfl⟩
  | case2 data hdata ih =>
      obtain ⟨chunks, hsends, hbounds, hflatten⟩ := ih
      refine ⟨data.take bufsize :: chunks, ?_, ?_, ?_⟩
      · rw [List.flatMap_cons]
        exact (delivers_sendChunk _).bind fun _ => hsends
      · have hpositive := List.length_pos_iff.mpr hdata
        refine List.forall_mem_cons.mpr ⟨⟨?_, List.length_take_le _ _⟩, hbounds⟩
        rw [List.length_take, bufsize]
        omega
      · rw [List.flatten_cons, hflatten, List.take_append_drop]

theorem delivers_requestWrite (lofd : Int) (data : List UInt8) :
    ∃ chunks : List (List UInt8),
      Delivers (requestWrite lofd data)
        (writeHeader lofd data.length ++
          (chunks.flatMap chunkBytes ++ eotBytes)) ∧
      (∀ chunk ∈ chunks, 0 < chunk.length ∧ chunk.length ≤ bufsize) ∧
      chunks.flatten = data := by
  obtain ⟨chunks, hsends, hbounds, hflatten⟩ := delivers_sendChunks data
  refine ⟨chunks, ?_, hbounds, hflatten⟩
  have hend : Delivers (do send eotBytes; return true) (eotBytes ++ []) :=
    (Delivers.send _).bind fun _ => Delivers.pure true
  rw [List.append_nil] at hend
  exact (Delivers.send _).bind fun _ => hsends.bind fun _ => hend

/-! Where every send succeeds, so does the request. -/

theorem carried_sendChunk (hchunk : chunk ≠ []) : Carried (sendChunk chunk) := by
  refine (Carried.send (bigEndian_ne_nil (by decide) _)).bind fun _ => ?_
  refine (Carried.send hchunk).bind fun _ => ?_
  split
  · exact Carried.send (by simp)
  · exact Carried.pure ()

theorem carried_sendChunks (data : List UInt8) : Carried (sendChunks data) := by
  fun_induction sendChunks data with
  | case1 => exact Carried.pure ()
  | case2 data hdata ih =>
      refine (carried_sendChunk ?_).bind fun _ => ih
      simpa [bufsize] using hdata

theorem carried_requestWrite (lofd : Int) (data : List UInt8) :
    Carried (requestWrite lofd data) :=
  (Carried.send (by simp [writeHeader])).bind fun _ =>
    (carried_sendChunks data).bind fun _ =>
      (Carried.send (by decide)).bind fun _ => Carried.pure true

/-! Its fields. -/

theorem sendWrite_request (hlofd : 0 ≤ lofd) (hdata : data ≠ [])
    (hfd : 0 ≤ wire.fd) :
    sendWrite true lofd data wire = requestWrite lofd data wire := by
  rw [sendWrite, if_neg (by omega), if_neg hdata, if_neg (by simp [hfd])]

/-- Two headers that are the same octets have the same fields. -/
theorem header_fields {request : WriteRequest} {chunks : List UInt8}
    (hbytes : writeHeader lofd data.length ++ chunks = request.bytes) :
    request.descriptor = lofd.toNat % 256 ^ 2 ∧
      request.length = requestLength data.length := by
  rw [WriteRequest.bytes, writeHeader] at hbytes
  have hheader := (List.append_inj hbytes (by simp)).1
  have hfields := (List.append_inj
    (List.append_inj (List.append_inj hheader rfl).2 rfl).2 (by simp)).2
  have hdescriptor := (List.append_inj
    (List.append_inj (List.append_inj hheader rfl).2 rfl).2 (by simp)).1
  have hlength := (List.append_inj hfields (by simp)).1
  have hdescriptors := congrArg natOfBytes hdescriptor
  have hlengths := congrArg natOfBytes hlength
  rw [natOfBytes_bigEndian, natOfBytes_bigEndian_of_lt request.hdescriptor]
    at hdescriptors
  rw [natOfBytes_bigEndian_of_lt request.hlength,
    natOfBytes_bigEndian_of_lt] at hlengths
  · exact ⟨hdescriptors.symm, hlengths.symm⟩
  · rw [requestLength]
    omega

theorem WriteFramed.bounds (hframed : WriteFramed lofd data) (hlofd : 0 ≤ lofd)
    (hdata : data ≠ []) : lofd < 65536 ∧ data.length ≤ 0x7FFFFFFF := by
  obtain ⟨chunks, hsends, -, -⟩ := delivers_requestWrite lofd data
  obtain ⟨found, after, hrun, -⟩ :=
    carried_requestWrite lofd data openWire openWire_completes
  have hsent := hsends openWire found after hrun
  have hcall := sendWrite_request hlofd hdata (openWire_completes 0).1
  cases found with
  | false =>
      exact absurd (hframed.nothing (hcall.trans hrun)).1 hdata
  | true =>
      obtain ⟨request, hwrites, hrequest⟩ := hframed.request (hcall.trans hrun)
      rw [hsent] at hrequest
      obtain ⟨hdescriptor, hlength⟩ :=
        header_fields (List.append_cancel_left hrequest)
      have hlofd := hwrites.descriptor
      have hlengths := hwrites.length
      rw [hdescriptor] at hlofd
      rw [hlength, requestLength] at hlengths
      omega

theorem requestWrite_true (hrun : requestWrite lofd data wire = .ok made after) :
    made = true := by
  unfold requestWrite at hrun
  obtain ⟨_, _, -, hchunks⟩ := bind_eq_ok.mp hrun
  obtain ⟨_, _, -, hend⟩ := bind_eq_ok.mp hchunks
  obtain ⟨_, _, -, hreturn⟩ := bind_eq_ok.mp hend
  cases hreturn
  rfl

theorem writeFramed_nil (hlofd : 0 ≤ lofd) : WriteFramed lofd [] where
  request := by
    intro wire after hrun
    rw [sendWrite, if_neg (by omega), if_pos rfl] at hrun
    cases hrun
  nothing := by
    intro wire after hrun
    rw [sendWrite, if_neg (by omega), if_pos rfl] at hrun
    cases hrun
    exact ⟨rfl, rfl⟩
  refusal := by
    intro wire status after _ hrun
    rw [sendWrite, if_neg (by omega), if_pos rfl] at hrun
    cases hrun

theorem writeFramed_of_bounds (hlofd : 0 ≤ lofd) (hdata : data ≠ [])
    (hdescriptor : lofd < 65536) (hlength : data.length ≤ 0x7FFFFFFF) :
    WriteFramed lofd data where
  request := by
    intro wire after hrun
    obtain ⟨chunks, hsends, hbounds, hflatten⟩ :=
      delivers_requestWrite lofd data
    have hfd : 0 ≤ wire.fd := by
      by_contra hclosed
      rw [sendWrite, if_neg (by omega), if_neg hdata,
        if_pos (.inl (by omega))] at hrun
      cases hrun
    rw [sendWrite_request hlofd hdata hfd] at hrun
    let request : WriteRequest :=
      { descriptor := lofd.toNat
        length := data.length
        chunks := chunks
        hdescriptor := by omega
        hlength := by omega
        hchunks := hbounds }
    refine ⟨request, ⟨Int.toNat_of_nonneg hlofd, rfl, hflatten⟩, ?_⟩
    have hsize : requestLength data.length = data.length :=
      Nat.min_eq_left hlength
    rw [hsends wire true after hrun, writeHeader, hsize]
    rfl
  nothing := by
    intro wire after hrun
    by_cases hfd : 0 ≤ wire.fd
    · rw [sendWrite_request hlofd hdata hfd] at hrun
      cases requestWrite_true hrun
    · rw [sendWrite, if_neg (by omega), if_neg hdata,
        if_pos (.inl (by omega))] at hrun
      cases hrun
  refusal := by
    intro wire status after hwire hrun
    obtain ⟨value, final, hok, -⟩ := carried_requestWrite lofd data wire hwire
    rw [sendWrite_request hlofd hdata (hwire 0).1, hok] at hrun
    cases hrun

theorem sendWrite_framed_iff (hlofd : 0 ≤ lofd) :
    WriteFramed lofd data ↔
      data = [] ∨ lofd < 65536 ∧ data.length ≤ 0x7FFFFFFF := by
  by_cases hdata : data = []
  · subst data
    exact iff_of_true (writeFramed_nil hlofd) (.inl rfl)
  · rw [or_iff_right hdata]
    constructor
    · intro hframed
      exact hframed.bounds hlofd hdata
    · rintro ⟨hdescriptor, hlength⟩
      exact writeFramed_of_bounds hlofd hdata hdescriptor hlength

theorem sendWrite_framed_three : WriteFramed 3 [1, 2, 5] :=
  (sendWrite_framed_iff (by decide)).mpr (.inr ⟨by decide, by decide⟩)

/-- One octet for descriptor 65536 is sent to descriptor 0. -/
theorem sendWrite_misdirected :
    ¬ WriteFramed 65536 [7] ∧
      (writeHeader 65536 1).drop 4 = [0, 0, 0, 0, 0, 1, 125, 0] := by
  refine ⟨fun hframed => ?_, rfl⟩
  have hbounds := hframed.bounds (by decide) (by simp)
  omega

end Libsqli.Sblob
