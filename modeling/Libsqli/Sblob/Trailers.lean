import Libsqli.Receive.Octets

namespace Libsqli.Sblob

open Libsqli.Data.Bytes
open Libsqli.Data.Stream
open Libsqli.Octets

/-! How the smart LOB calls read the reply to a request. -/

/-- `sqli_tcp_read`, which cannot be asked for nothing. -/
def tcpRead (count : Nat) : OctetReader (List UInt8) :=
  if count = 0 then throw .ioError else readExact .ioError count

def tcpWord : OctetReader Nat := natOfBytes <$> tcpRead 2
def tcpInt : OctetReader Int :=
  (fun bytes => toInt32 (natOfBytes bytes)) <$> tcpRead 4

/-- Octets that are read in pieces and dropped; none are asked for if there are to
be none. -/
def dump (count : Nat) : OctetReader Unit :=
  (fun _ => ()) <$> readExact .ioError count

def trailerRound (_ : Unit) : OctetReader (Unit ⊕ Unit) := do
  let opcode ← tcpWord
  if opcode = Opcode.eot then return .inr ()
  else if opcode = Opcode.done then (fun _ => .inl ()) <$> tcpRead 10
  else return .inl ()

/-- The loop for what stands behind the answer proper. -/
def drainTrailing : OctetReader Unit := forever .ioError trailerRound ()

def opcodeRound (_ : Unit) : OctetReader (Unit ⊕ Nat) := do
  let opcode ← tcpWord
  if opcode = Opcode.eot then return .inl () else return .inr opcode

/-- The first opcode that is not that of an end. -/
def replyOpcode : OctetReader Nat := forever .ioError opcodeRound ()

/-- The opcode that an answer must start with. How the reception of an `SQ_ERR` ends
makes no difference. -/
def expectOpcode (remove64k : Bool) (wanted opcode : Nat) :
    OctetReader Unit :=
  if opcode = Opcode.err then do
    heedless (receiveError remove64k)
    throw .err
  else if opcode ≠ wanted then throw .protoError
  else pure ()

/-- The operation and the size of an `SQ_LODATA`. -/
def lodataHeader (remove64k : Bool) : OctetReader (Nat × Int) := do
  let opcode ← replyOpcode
  expectOpcode remove64k Opcode.lodata opcode
  let body ← tcpRead 6
  return (natOfBytes (body.take 2), toInt32 (natOfBytes (body.drop 2)))

/-! `sqli_sblob_read` and `sqli_sblob_read_seek` -/

/-- The octets streamed so far and those of them that were copied. -/
structure Streamed where
  total : Nat
  copied : List UInt8

def readChunk (nbytes : Nat) (streamed : Streamed) :
    OctetReader (Streamed ⊕ List UInt8) := do
  let length ← tcpWord
  if length = 0 then return .inr streamed.copied
  else
    let count := min length (nbytes - streamed.copied.length)
    let bytes ← readExact .ioError count
    dump (length - count)
    dump (length % 2)
    return .inl ⟨streamed.total + length, streamed.copied ++ bytes⟩

def chunkRound (nbytes expected : Nat) (streamed : Streamed) :
    OctetReader (Streamed ⊕ List UInt8) :=
  if expected ≤ streamed.total then pure (.inr streamed.copied)
  else readChunk nbytes streamed

def readChunks (nbytes expected : Nat) : OctetReader (List UInt8) :=
  forever .ioError (chunkRound nbytes expected) ⟨0, []⟩

/-- What `req_len` asks for. -/
def requestLength (nbytes : Nat) : Nat := min nbytes 0x7FFFFFFF

def readAnswer (remove64k : Bool) (nbytes : Nat) : OctetReader (List UInt8) := do
  let header ← lodataHeader remove64k
  if header.2 ≤ 0 then return []
  else readChunks nbytes (min header.2.toNat (requestLength nbytes))

def sblobRead (remove64k : Bool) (nbytes : Nat) : OctetReader (List UInt8) := do
  let bytes ← readAnswer remove64k nbytes
  drainTrailing
  return bytes

/-- The two calls differ in their requests. -/
def sblobReadSeek (remove64k : Bool) (nbytes : Nat) :
    OctetReader (List UInt8) :=
  sblobRead remove64k nbytes

/-- `sqli_sblob_write`; LO_WRITE is operation 2. -/
def sblobWrite (remove64k : Bool) (nbytes : Nat) : OctetReader Nat := do
  let header ← lodataHeader remove64k
  drainTrailing
  if header.1 ≠ 2 ∨ header.2 < 0 then throw .err else return nbytes

/-! `get_lo_create_fphandle` -/

def routineRound (_ : Unit) : OctetReader (Unit ⊕ Nat) := do
  let opcode ← tcpWord
  if opcode = Opcode.dbopenFlags then (fun _ => .inl ()) <$> tcpRead 2
  else if opcode = Opcode.eot then return .inl ()
  else if opcode = Opcode.xactstat then (fun _ => .inl ()) <$> tcpRead 6
  else return .inr opcode

def routineOpcode : OctetReader Nat := forever .ioError routineRound ()

/-- The database name, up to the 127 octets there is room for. -/
def routineDbname : OctetReader (List UInt8) := do
  let length ← tcpWord
  let name ← readExact .ioError (min length 127)
  dump (length - 127)
  dump (length % 2)
  return name

def routineAnswer (remove64k : Bool) : OctetReader (List UInt8 × Int) := do
  let opcode ← routineOpcode
  expectOpcode remove64k Opcode.getRoutine opcode
  let name ← routineDbname
  let handle ← tcpInt
  return (name, handle)

/-- The handle of the routine and the name of its database, a C string. -/
def loCreateFphandle (remove64k : Bool) : OctetReader (Int × List UInt8) := do
  let answer ← routineAnswer remove64k
  drainTrailing
  if answer.2 ≤ 0 then throw .err
  else return (answer.2, answer.1.takeWhile (· ≠ 0))

/-! `sblob_create_into` behind its last request -/

def locatorMax : Nat := 72

structure Created where
  lofd : Int
  locator : List UInt8
  truncated : Bool

/-- The length is counted down to zero before its parity is asked for, so no pad is
ever read. -/
def udtName : OctetReader Unit := do
  let length ← tcpWord
  dump length

def udtNames (rawType : Nat) : OctetReader Unit :=
  let sqltype := rawType &&& 0xFF
  if (18 ≤ sqltype ∧ sqltype ≠ 52 ∧ sqltype ≠ 53) ∨ rawType &&& 2048 ≠ 0 then do
    udtName
    udtName
  else pure ()

/-- The octets of a value; those of the first one are the locator. -/
def udtValue (index length : Nat) (created : Created) : OctetReader Created :=
  if index ≠ 0 then (fun _ => created) <$> dump length
  else if locatorMax < length then
    (fun _ => { created with truncated := true }) <$> dump length
  else (fun bytes => { created with locator := bytes }) <$> tcpRead length

def udtParam (index : Nat) (created : Created) : OctetReader Created := do
  let length ← natOfBytes <$> tcpRead 4
  let created ← udtValue index length created
  dump (length % 2)
  return created

def intParam (index : Nat) (created : Created) : OctetReader Created := do
  let value ← tcpInt
  return if index = 1 then { created with lofd := value } else created

def paramValue (sqltype index : Nat) (created : Created) :
    OctetReader Created :=
  if sqltype = 40 ∨ sqltype = 41 ∨ sqltype = 44 then udtParam index created
  else if sqltype = 2 ∨ sqltype = 6 then intParam index created
  else throw .protoError

def outputParam (index : Nat) (created : Created) : OctetReader Created := do
  let rawType ← tcpWord
  udtNames rawType
  let indicator ← tcpRead 4
  if toInt16 (natOfBytes (indicator.take 2)) = -1 then return created
  else paramValue (rawType &&& 0xFF) index created

def outputParams : Nat → Nat → Created → OctetReader Created
  | 0, _, created => pure created
  | count + 1, index, created => do
      let created ← outputParam index created
      outputParams count (index + 1) created

def createAnswer (remove64k : Bool) : OctetReader Created := do
  let opcode ← replyOpcode
  expectOpcode remove64k Opcode.fpRoutine opcode
  let count ← tcpWord
  outputParams count 0 ⟨-1, [], false⟩

/-- Where it gives up behind the reply, a LOB that was opened is closed by a
request of its own. -/
def sblobCreateInto (remove64k : Bool) : OctetReader (Int × List UInt8) := do
  let created ← createAnswer remove64k
  drainTrailing
  if created.truncated = true ∨ created.lofd < 0 ∨ created.locator = [] then
    throw .err
  else return (created.lofd, created.locator)

open Libsqli.Data.Program

variable {bytes front behind later : List UInt8} {own : List Look}

/-! What the loop behind an answer takes. -/

theorem drops_tcpRead {count : Nat} : Drops count (tcpRead count) := by
  unfold tcpRead
  exact Drops.ite (Drops.throw _ _) (Drops.readExact count)

theorem drops_tcpWord : Drops 2 tcpWord := drops_tcpRead.map natOfBytes

theorem drops_trailerRound (value : Unit) : Drops 2 (trailerRound value) := by
  refine drops_tcpWord.then fun opcode => ?_
  refine Drops.ite (Drops.pure _) (Drops.ite ?_ (Drops.pure _))
  exact (drops_tcpRead.mono (Nat.zero_le 10)).map _

theorem drops_drainTrailing : Drops 2 drainTrailing :=
  Drops.forever drops_trailerRound ()

theorem proceeds_trailerRound : Proceeds trailerRound :=
  Proceeds.of_drops fun value => (drops_trailerRound value).mono (by decide)

/-- A reader that can only fail for want of octets. -/
abbrev Waits (program : OctetReader α) : Prop :=
  Holds (fun _ => True) program (fun _ _ => True)
    fun error _ => error = Status.ioError

theorem waits_tcpRead (count : Nat) : Waits (tcpRead count) :=
  Holds.ite (fun _ _ _ => rfl)
    fun _ => Holds.readExact (fun _ => rfl) count

theorem waits_tcpWord : Waits tcpWord :=
  (waits_tcpRead 2).bind fun _ => Holds.pure fun _ _ => trivial

theorem waits_trailerRound (value : Unit) : Waits (trailerRound value) := by
  refine waits_tcpWord.bind fun opcode => ?_
  refine Holds.ite (fun _ => Holds.pure fun _ _ => trivial) fun _ => ?_
  refine Holds.ite (fun _ => ?_) fun _ => Holds.pure fun _ _ => trivial
  exact (waits_tcpRead 10).bind fun _ => Holds.pure fun _ _ => trivial

theorem waits_drainTrailing : Waits drainTrailing :=
  Holds.forever waits_trailerRound (fun _ _ => rfl) ()

/-! One word of it at a time. -/

def word (high low : UInt8) : Nat := natOfBytes [high, low]

theorem tcpRead_eq {count : Nat} (hcount : count ≠ 0) :
    tcpRead count = readExact .ioError count := if_neg hcount

theorem takes_tcpRead {count : Nat} (hcount : count ≠ 0)
    (hlength : bytes.length = count) : Takes (tcpRead count) bytes bytes := by
  rw [tcpRead_eq hcount]
  exact Takes.readExact hlength

theorem takes_tcpWord (high low : UInt8) :
    Takes tcpWord [high, low] (word high low) :=
  (@takes_tcpRead [high, low] 2 (by decide) rfl).map natOfBytes

theorem drainTrailing_eq (high low : UInt8) (rest : List UInt8) :
    drainTrailing ⟨high :: low :: rest, own⟩ =
      if word high low = Opcode.eot then .ok () ⟨rest, own⟩
      else if word high low = Opcode.done then
        match tcpRead 10 ⟨rest, own⟩ with
        | .ok _ after => drainTrailing after
        | .error error after => .error error after
      else drainTrailing ⟨rest, own⟩ := by
  have hround : trailerRound () ⟨high :: low :: rest, own⟩ = _ :=
    (takes_tcpWord high low).bind_eq rest own
  change forever .ioError trailerRound () _ = _
  rw [forever_eq proceeds_trailerRound, hround]
  by_cases heot : word high low = Opcode.eot
  · rw [if_pos heot, if_pos heot]
    rfl
  · rw [if_neg heot, if_neg heot]
    by_cases hdone : word high low = Opcode.done
    · rw [if_pos hdone, if_pos hdone, map_apply]
      cases tcpRead 10 ⟨rest, own⟩ <;> rfl
    · rw [if_neg hdone, if_neg hdone]
      rfl

theorem drainTrailing_eot {high low : UInt8} (hword : word high low = Opcode.eot)
    (rest : List UInt8) :
    drainTrailing ⟨high :: low :: rest, own⟩ = .ok () ⟨rest, own⟩ := by
  rw [drainTrailing_eq, if_pos hword]

theorem done_ne_eot {high low : UInt8} (hword : word high low = Opcode.done) :
    word high low ≠ Opcode.eot := by
  rw [hword]
  decide

theorem drainTrailing_done {high low : UInt8}
    (hword : word high low = Opcode.done) {rest : List UInt8}
    (hrest : 10 ≤ rest.length) :
    drainTrailing ⟨high :: low :: rest, own⟩ =
      drainTrailing ⟨rest.drop 10, own⟩ := by
  have hread := takes_tcpRead (by decide) (List.length_take_of_le hrest)
    (rest.drop 10) own
  rw [List.take_append_drop] at hread
  rw [drainTrailing_eq, if_neg (done_ne_eot hword), if_pos hword, hread]

theorem drainTrailing_done_short {high low : UInt8}
    (hword : word high low = Opcode.done) {rest : List UInt8}
    (hrest : rest.length < 10) :
    drainTrailing ⟨high :: low :: rest, own⟩ = .error .ioError ⟨[], own⟩ := by
  rw [drainTrailing_eq, if_neg (done_ne_eot hword), if_pos hword,
    tcpRead_eq (by decide), readExact_short hrest]

theorem drainTrailing_other {high low : UInt8}
    (heot : word high low ≠ Opcode.eot) (hdone : word high low ≠ Opcode.done)
    (rest : List UInt8) :
    drainTrailing ⟨high :: low :: rest, own⟩ = drainTrailing ⟨rest, own⟩ := by
  rw [drainTrailing_eq, if_neg heot, if_neg hdone]

/-! Where it stops. -/

/-- A reader has come to its end and left these octets; it has not run out of
them. -/
def Leaves (result : EStateM.Result Status (Incoming (List Look)) α)
    (later : List UInt8) : Prop :=
  (stateOf result).unread = later ∧ ∀ state, result ≠ .error .ioError state

/-- Past the end of a reply nothing leads back. -/
theorem not_leaves_behind {state : Incoming (List Look)}
    (hbehind : state.unread.length ≤ later.length) :
    ¬ Leaves (drainTrailing state) later := by
  rintro ⟨hunread, hfailed⟩
  cases hrun : drainTrailing state with
  | ok value after =>
      have hlength := drops_drainTrailing.length_le hrun
      rw [hrun] at hunread
      change after.unread = later at hunread
      rw [hunread] at hlength
      omega
  | error error after =>
      have hwaits := waits_drainTrailing state trivial
      rw [hrun] at hwaits
      exact hfailed after (by rw [hrun, show error = .ioError from hwaits])

def wordsOf : List UInt8 → List Nat
  | high :: low :: rest => word high low :: wordsOf rest
  | _ => []

/-- A word that stands neither for an end nor for another DONE. -/
def PassedOver (word : Nat) : Prop := word ≠ Opcode.eot ∧ word ≠ Opcode.done

instance : DecidablePred PassedOver := fun _ => inferInstanceAs (Decidable (_ ∧ _))

def eotBytes : List UInt8 := [0, 12]

/-- Up to five words in front of the end. -/
theorem drainTrailing_scan (heven : behind.length % 2 = 0)
    (hshort : behind.length ≤ 10) :
    Leaves (drainTrailing ⟨behind ++ eotBytes ++ later, own⟩) later ↔
      ∀ word ∈ wordsOf behind, PassedOver word := by
  induction behind using wordsOf.induct with
  | case1 high low rest ih =>
      simp only [List.length_cons] at heven hshort
      rw [wordsOf, List.forall_mem_cons]
      by_cases heot : word high low = Opcode.eot
      · refine iff_of_false ?_ fun h => h.1.1 heot
        rintro ⟨hunread, -⟩
        change (stateOf (drainTrailing
          ⟨high :: low :: (rest ++ eotBytes ++ later), own⟩)).unread = _
          at hunread
        rw [drainTrailing_eot heot] at hunread
        have hlength := congrArg List.length hunread
        simp [stateOf, eotBytes] at hlength
        omega
      · by_cases hdone : word high low = Opcode.done
        · refine iff_of_false ?_ fun h => h.1.2 hdone
          change ¬ Leaves (drainTrailing
            ⟨high :: low :: (rest ++ eotBytes ++ later), own⟩) later
          by_cases hlong : 10 ≤ (rest ++ eotBytes ++ later).length
          · rw [drainTrailing_done hdone hlong]
            refine not_leaves_behind ?_
            simp [eotBytes]
            omega
          · rw [drainTrailing_done_short hdone (Nat.not_le.mp hlong)]
            exact fun h => h.2 _ rfl
        · change Leaves (drainTrailing
            ⟨high :: low :: (rest ++ eotBytes ++ later), own⟩) later ↔ _
          rw [drainTrailing_other heot hdone, ih (by omega) (by omega),
            and_iff_right ⟨heot, hdone⟩]
  | case2 behind hnone =>
      have hnil : behind = [] := by
        match behind with
        | [] => rfl
        | [_] => simp at heven
        | high :: low :: rest => exact absurd rfl (hnone high low rest)
      subst hnil
      refine iff_of_true ?_ (by simp [wordsOf])
      change Leaves (drainTrailing ⟨0 :: 12 :: later, own⟩) later
      rw [drainTrailing_eot (by decide)]
      exact ⟨rfl, nofun⟩

/-- A sixth word in front of them may also be a DONE that skips the five. -/
theorem drainTrailing_scan_six {high low : UInt8} (hlength : behind.length = 10) :
    Leaves (drainTrailing ⟨high :: low :: behind ++ eotBytes ++ later, own⟩)
        later ↔
      word high low = Opcode.done ∨
        ∀ word ∈ wordsOf (high :: low :: behind), PassedOver word := by
  change Leaves (drainTrailing
    ⟨high :: low :: (behind ++ eotBytes ++ later), own⟩) later ↔ _
  rw [wordsOf, List.forall_mem_cons]
  by_cases heot : word high low = Opcode.eot
  · have hdone : word high low ≠ Opcode.done := by
      rw [heot]
      decide
    rw [drainTrailing_eot heot]
    refine iff_of_false ?_ ?_
    · rintro ⟨hunread, -⟩
      have hlengths := congrArg List.length hunread
      simp [stateOf, eotBytes] at hlengths
      omega
    · rintro (h | h)
      · exact hdone h
      · exact h.1.1 heot
  · by_cases hdone : word high low = Opcode.done
    · refine iff_of_true ?_ (.inl hdone)
      rw [drainTrailing_done hdone (by simp; omega), List.append_assoc,
        ← hlength, List.drop_left]
      change Leaves (drainTrailing ⟨0 :: 12 :: later, own⟩) later
      rw [drainTrailing_eot (by decide)]
      exact ⟨rfl, nofun⟩
    · rw [drainTrailing_other heot hdone, or_iff_right hdone,
        drainTrailing_scan (by omega) (by omega), and_iff_right ⟨heot, hdone⟩]

end Libsqli.Sblob
