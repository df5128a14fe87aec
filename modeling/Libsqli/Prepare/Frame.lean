import Libsqli.Data.Ctype
import Libsqli.Wire.Charset
import Libsqli.Wire.Send

namespace Libsqli.Prepare

open Libsqli.Data.Bytes
open Libsqli.Data.Ctype (questionMark)
open Libsqli.Wire

/-! `sqli_send_prepare`. -/

def sqPrepare : UInt8 := 2
def sqEot : UInt8 := 12
def sqNdescribe : UInt8 := 22
def sqWantdone : UInt8 := 49

/-- The counter is a C `int`. -/
def countPlaceholders (sql : List UInt8) : Int32 :=
  sql.foldl
    (fun qmarks byte => if byte = questionMark then qmarks + 1 else qmarks) 0

def announcedPlaceholders (sql : List UInt8) : Nat :=
  min (countPlaceholders sql).toNatClampNeg 0xFFFF

def lengthWidth (session : Session) : Nat :=
  if session.remove64kLimit then 4 else 2

def prepareHeader (sql : List UInt8) : List UInt8 :=
  [0, sqPrepare] ++ bigEndian 2 (announcedPlaceholders sql)

def prepareTail : List UInt8 :=
  [0, sqNdescribe, 0, sqWantdone, 0, sqEot]

/-- The result of sending the pad octet is not looked at. -/
def sendPad (text : List UInt8) : Sender Unit :=
  if text.length % 2 = 1 then sendUnchecked [0] else return

def sendPrepare (charset : Charset) (session : Session) (sql : List UInt8) :
    Sender Unit := do
  let sqlDb ← require (encodeClientToDb charset session sql)
  send (prepareHeader sql)
  send (bigEndian (lengthWidth session) sqlDb.length)
  send sqlDb
  sendPad sqlDb
  send prepareTail

/-! The frame as the server takes it apart. -/

def PrepareFrame (width count : Nat) (text frame : List UInt8) : Prop :=
  ∃ lengthPrefix, lengthPrefix.length = width ∧
    natOfBytes lengthPrefix = text.length ∧
    frame = [0, sqPrepare] ++ bigEndian 2 count ++ lengthPrefix ++
      padEven text ++ prepareTail

def readPrepare (width : Nat) : Reader (Nat × List UInt8) := do
  expect [0, sqPrepare]
  let count ← natural 2
  let length ← natural width
  let text ← padded length
  expect prepareTail
  return (count, text)

theorem PrepareFrame.read (hframe : PrepareFrame width count text frame)
    (hcount : count < 256 ^ 2) :
    readPrepare width frame = some ((count, text), []) := by
  obtain ⟨lengthPrefix, hwidth, hlength, rfl⟩ := hframe
  have hwritten : Reads (natural width) lengthPrefix text.length := by
    have hbound := natOfBytes_lt lengthPrefix
    have hbytes := bigEndian_natOfBytes lengthPrefix
    rw [hwidth, hlength] at hbound hbytes
    rw [← hbytes]
    exact Reads.natural hbound
  have htail : Reads (do expect prepareTail; return (count, text))
      (prepareTail ++ []) (count, text) :=
    (Reads.expect prepareTail).bind (Reads.pure _)
  have hread : Reads (readPrepare width) ([0, sqPrepare] ++
      (bigEndian 2 count ++ (lengthPrefix ++
        (padEven text ++ (prepareTail ++ []))))) (count, text) :=
    (Reads.expect _).bind ((Reads.natural hcount).bind
      (hwritten.bind ((Reads.padded rfl).bind htail)))
  simpa using hread.all

theorem announcedPlaceholders_lt (sql : List UInt8) :
    announcedPlaceholders sql < 256 ^ 2 := by
  unfold announcedPlaceholders
  omega

/-! What a successful call has sent. -/

/-- The pad octet goes out only when its send completes. -/
def padSent (wire : Outgoing) (text : List UInt8) : List UInt8 :=
  if text.length % 2 = 1 ∧ wire.Completes 0 then [0] else []

theorem sendPad_run (hfd : 0 ≤ wire.fd) (text : List UInt8) :
    ∃ after, sendPad text wire = .ok () after ∧
      after.sent = wire.sent ++ padSent wire text ∧
      ∀ index, after.Completes index ↔
        wire.Completes (text.length % 2 + index) := by
  rcases Nat.mod_two_eq_zero_or_one text.length with heven | hodd
  · refine ⟨wire, ?_, ?_, ?_⟩
    · rw [sendPad, if_neg (by simp [heven])]
      rfl
    · simp [padSent, heven]
    · simp [heven]
  · refine ⟨wire.transmit (if wire.Completes 0 then [0] else []), ?_, ?_, ?_⟩
    · rw [sendPad, if_pos hodd]
      exact sendUnchecked_octet hfd
    · simp [padSent, hodd]
    · simp [hodd, Nat.add_comm]

theorem lengthWidth_pos (session : Session) : 0 < lengthWidth session := by
  unfold lengthWidth
  split <;> decide

/-- Every checked send of the frame for `text` completes. -/
structure Transmitted (wire : Outgoing) (text : List UInt8) : Prop where
  text_ne_nil : text ≠ []
  header : wire.Completes 0
  lengthPrefix : wire.Completes 1
  body : wire.Completes 2
  tail : wire.Completes (3 + text.length % 2)

/-- The wire once the header, the length prefix and the text are out. -/
def afterText (wire : Outgoing) (session : Session)
    (sql text : List UInt8) : Outgoing :=
  ((wire.transmit (prepareHeader sql)).transmit
    (bigEndian (lengthWidth session) text.length)).transmit text

theorem afterText_completes :
    (afterText wire session sql text).Completes index ↔
      wire.Completes (3 + index) := by
  simp [afterText, Nat.add_comm 3]

theorem sendPrepare_transmitted
    (hsend : sendPrepare charset session sql wire = .ok () after) :
    ∃ text, encodeClientToDb charset session sql = .ok text ∧
      Transmitted wire text ∧
      after.sent = wire.sent ++ (prepareHeader sql ++
        bigEndian (lengthWidth session) text.length ++ text ++
        padSent (afterText wire session sql text) text ++ prepareTail) := by
  simp only [sendPrepare, bind_eq_ok, require_eq_ok, send_eq_ok] at hsend
  obtain ⟨text, start, ⟨htext, hstart⟩, _, _, ⟨-, hheader, rfl⟩, _, _,
    ⟨-, hwritten, rfl⟩, _, _, ⟨hnonempty, hbody, rfl⟩, _, padded, hpad,
    -, htail, rfl⟩ := hsend
  subst start
  obtain ⟨_, hrun, hsent, hcompletes⟩ :=
    @sendPad_run (afterText wire session sql text) hheader.1 text
  cases hrun.symm.trans hpad
  rw [hcompletes, afterText_completes, Nat.add_zero] at htail
  refine ⟨text, htext, ⟨hnonempty, hheader, ?_, ?_, htail⟩, ?_⟩
  · simpa using hwritten
  · simpa using hbody
  · rw [Outgoing.transmit_sent, hsent]
    simp [afterText]

theorem Transmitted.sendPrepare_ok (htransmitted : Transmitted wire text)
    (htext : encodeClientToDb charset session sql = .ok text) :
    ∃ after, sendPrepare charset session sql wire = .ok () after := by
  obtain ⟨padded, hpad, -, hcompletes⟩ :=
    @sendPad_run (afterText wire session sql text) htransmitted.header.1 text
  have htail : padded.Completes 0 := by
    rw [hcompletes, afterText_completes]
    exact htransmitted.tail
  refine ⟨padded.transmit prepareTail, ?_⟩
  rw [sendPrepare, bind_ok _ (require_eq_ok.mpr ⟨htext, rfl⟩),
    bind_ok _ (send_completes (by simp [prepareHeader]) htransmitted.header),
    bind_ok _ (send_completes (bigEndian_ne_nil (lengthWidth_pos session) _)
      (by simpa using htransmitted.lengthPrefix)),
    bind_ok _ (send_completes htransmitted.text_ne_nil
      (by simpa using htransmitted.body))]
  exact (bind_ok _ hpad).trans (send_completes (by simp [prepareTail]) htail)

/-- A call that succeeds has sent one frame, and a server that follows its
length prefix reads the whole text and nothing else. -/
def SendsOneFrame (charset : Charset) (session : Session) (sql : List UInt8)
    (wire : Outgoing) : Prop :=
  ∀ after, sendPrepare charset session sql wire = .ok () after →
    ∃ text frame, encodeClientToDb charset session sql = .ok text ∧
      after.sent = wire.sent ++ frame ∧
      PrepareFrame (lengthWidth session) (announcedPlaceholders sql) text frame ∧
      readPrepare (lengthWidth session) frame =
        some ((announcedPlaceholders sql, text), [])

/-- The text fits its length prefix, and the pad octet is sent if there is
one. Nothing is asked of a call that a checked send fails. -/
def Framable (charset : Charset) (session : Session) (sql : List UInt8)
    (wire : Outgoing) : Prop :=
  ∀ text, encodeClientToDb charset session sql = .ok text →
    Transmitted wire text →
      text.length < 256 ^ lengthWidth session ∧
        (text.length % 2 = 1 → wire.Completes 3)

theorem padSent_eq_iff :
    (padSent wire text).length = text.length % 2 ↔
      (text.length % 2 = 1 → wire.Completes 0) := by
  unfold padSent
  rcases Nat.mod_two_eq_zero_or_one text.length with heven | hodd
  · simp [heven]
  · by_cases hpad : wire.Completes 0 <;> simp [hodd, hpad]

theorem append_padSent (hpad : text.length % 2 = 1 → wire.Completes 0) :
    text ++ padSent wire text = padEven text := by
  rcases Nat.mod_two_eq_zero_or_one text.length with heven | hodd
  · simp [padSent, padEven_even heven, heven]
  · simp [padSent, padEven_odd hodd, hodd, hpad hodd]

theorem sendsOneFrame_of_framable
    (hframable : Framable charset session sql wire) :
    SendsOneFrame charset session sql wire := by
  intro after hsend
  obtain ⟨text, htext, htransmitted, hsent⟩ := sendPrepare_transmitted hsend
  obtain ⟨hfits, hpad⟩ := hframable text htext htransmitted
  have hframe : PrepareFrame (lengthWidth session) (announcedPlaceholders sql)
      text (prepareHeader sql ++ bigEndian (lengthWidth session) text.length ++
        text ++ padSent (afterText wire session sql text) text ++
        prepareTail) := by
    refine ⟨bigEndian (lengthWidth session) text.length,
      length_bigEndian _ _, natOfBytes_bigEndian_of_lt hfits, ?_⟩
    rw [List.append_assoc (prepareHeader sql ++ _) text, append_padSent]
    · rfl
    · simpa [afterText_completes] using hpad
  exact ⟨text, _, htext, hsent, hframe,
    hframe.read (announcedPlaceholders_lt sql)⟩

theorem framable_of_sendsOneFrame
    (hframed : SendsOneFrame charset session sql wire) :
    Framable charset session sql wire := by
  intro text htext htransmitted
  obtain ⟨after, hsend⟩ := htransmitted.sendPrepare_ok htext
  obtain ⟨_, htext', -, hsent⟩ := sendPrepare_transmitted hsend
  cases htext.symm.trans htext'
  obtain ⟨_, frame, htext', hframe, ⟨lengthPrefix, hwidth, hvalue, rfl⟩, -⟩ :=
    hframed after hsend
  cases htext.symm.trans htext'
  -- The octets sent determine the length prefix and the pad.
  have hbytes := List.append_cancel_left (hsent.symm.trans hframe)
  have hlengths := congrArg List.length hbytes
  have hpad : (padSent (afterText wire session sql text) text).length =
      text.length % 2 := by
    simp [prepareHeader, hwidth] at hlengths
    omega
  have hcomplete := padSent_eq_iff.mp hpad
  simp only [prepareHeader, List.append_assoc] at hbytes
  have hprefix := (List.append_inj (List.append_cancel_left
    (List.append_cancel_left hbytes)) (by simp [hwidth])).1
  refine ⟨?_, by simpa [afterText_completes] using hcomplete⟩
  rw [← hvalue, ← hwidth]
  exact natOfBytes_lt lengthPrefix

theorem sendPrepare_framed_iff (charset : Charset) (session : Session)
    (sql : List UInt8) (wire : Outgoing) :
    SendsOneFrame charset session sql wire ↔
      Framable charset session sql wire :=
  ⟨framable_of_sendsOneFrame, sendsOneFrame_of_framable⟩

/-! A statement of 65536 blanks on a connection without the capability. -/

def verbatimCharset : Charset where
  resolveLocale := fun _ => none
  convertAlloc := fun _ _ _ => none
  outOfMemory := fun _ => false

def plainSession : Session where
  clientLocale := none
  dbLocale := none
  remove64kLimit := false

theorem sendPrepare_overlong :
    ¬ SendsOneFrame verbatimCharset plainSession (List.replicate 65536 32)
      openWire := by
  intro hframed
  have hfits := (framable_of_sendsOneFrame hframed
    (List.replicate 65536 32) rfl
    ⟨List.ne_nil_of_length_pos (by rw [List.length_replicate]; decide),
      openWire_completes _, openWire_completes _, openWire_completes _,
      openWire_completes _⟩).1
  rw [List.length_replicate] at hfits
  exact absurd hfits (by decide)

end Libsqli.Prepare
