import Libsqli.Dispatch.Loop
import Libsqli.Receive.Replaced
import Libsqli.Sblob.BlobFetch

namespace Libsqli.Dispatch

open Libsqli.Data.Bytes
open Libsqli.Data.Program
open Libsqli.Data.Stream
open Libsqli.Octets
open Libsqli.Receive
open Libsqli.Sblob (doneBytes takes_readNatural)

/-! The messages of the server in octets. -/

/-- What stands before the text of an error, in octets. -/
def skippedLength (remove64k : Bool) (sqlcode : Int) : Nat :=
  if sqlcode = -619 then if remove64k then 6 else 4
  else if sqlcode = 0 ∨ sqlcode = -937 ∨ sqlcode = 100 then 5
  else if remove64k then 4 else 2

def detailBytes (error : ServerError) : List UInt8 :=
  if error.sqlcode.toInt = -368 then []
  else error.skipped ++ stringBytes error.text

def errorBytes (error : ServerError) : List UInt8 :=
  bigEndian 2 error.sqlcode.toUInt16.toNat ++
    (bigEndian 2 error.isamcode.toUInt16.toNat ++ detailBytes error)

def itemBytes (item : UInt16 × List UInt8) : List UInt8 :=
  bigEndian 2 item.1.toNat ++ stringBytes item.2

def infoBytes (items : List (UInt16 × List UInt8)) : List UInt8 :=
  items.flatMap itemBytes ++ bigEndian 2 0

def int8Bytes (serial : Int8Value) : List UInt8 :=
  bigEndian 2 serial.sign.toUInt16.toNat ++
    (bigEndian 4 serial.low.toNat ++ bigEndian 4 serial.high.toNat)

def tupleBytes (warnings : UInt16) (bytes : List UInt8) : List UInt8 :=
  bigEndian 2 warnings.toNat ++ (bigEndian 4 bytes.length ++ padEven bytes)

/-- The name, the octets of its mode and an end. -/
def dbopenBytes (name : List UInt8) : List UInt8 :=
  bigEndian 2 name.length ++
    (name ++ bigEndian 2 0 ++ bigEndian 2 Octets.Opcode.eot)

def opcodeOf : Message → Nat
  | .dbopenFlags _ => Octets.Opcode.dbopenFlags
  | .command _ => Opcode.command
  | .prepare => Opcode.prepare
  | .describe _ | .oversizedDescribe => Opcode.describe
  | .close => Opcode.close
  | .release => Opcode.release
  | .eot => Octets.Opcode.eot
  | .err _ => Octets.Opcode.err
  | .tuple _ _ | .oversizedTuple => Opcode.tuple
  | .done _ => Octets.Opcode.done
  | .tupid _ => Opcode.tupid
  | .dbopen _ => Opcode.dbopen
  | .dbclose => Opcode.dbclose
  | .cost _ _ => Octets.Opcode.cost
  | .exit => Opcode.exit
  | .info _ => Octets.Opcode.info
  | .reassoc => Opcode.reassoc
  | .insertdone _ => Opcode.insertdone
  | .xactstat _ _ _ => Octets.Opcode.xactstat
  | .unknown opcode => opcode.toNat

def payloadBytes (caps : Capabilities) : Message → List UInt8
  | .dbopenFlags flags => bigEndian 2 flags.toNat
  | .command payload => bigEndian 4 payload.toNat
  | .describe describe => describeBytes caps.extendedDescribe describe
  | .err error => errorBytes error
  | .tuple warnings bytes => tupleBytes warnings bytes
  | .done done => doneBytes caps.longRowId done
  | .tupid id => bigEndian 4 id.toNat
  | .dbopen name => dbopenBytes name
  | .cost rows cost => bigEndian 4 rows.toNat ++ bigEndian 4 cost.toNat
  | .info items => infoBytes items
  | .insertdone serial => int8Bytes serial
  | .xactstat event newLevel oldLevel =>
      bigEndian 2 event.toNat ++
        (bigEndian 2 newLevel.toNat ++ bigEndian 2 oldLevel.toNat)
  | _ => []

def messageBytes (caps : Capabilities) (message : Message) : List UInt8 :=
  bigEndian 2 (opcodeOf message) ++ payloadBytes caps message

def wireBytes (caps : Capabilities) (messages : List Message) : List UInt8 :=
  messages.flatMap (messageBytes caps)

@[simp] theorem wireBytes_nil (caps : Capabilities) : wireBytes caps [] = [] :=
  rfl

theorem wireBytes_cons (caps : Capabilities) (message : Message)
    (messages : List Message) :
    wireBytes caps (message :: messages) =
      bigEndian 2 (opcodeOf message) ++
        (payloadBytes caps message ++ wireBytes caps messages) := by
  rw [wireBytes, List.flatMap_cons, messageBytes, List.append_assoc]
  rfl

structure ErrorFits (remove64k : Bool) (error : ServerError) : Prop where
  skipped_length : error.sqlcode.toInt ≠ -368 →
    error.skipped.length = skippedLength remove64k error.sqlcode.toInt
  text_lt : error.text.length < 65536

structure DoneFits (longRowId : Bool) (done : Done) : Prop where
  rows_lt : done.rows.toNat < 256 ^ (if longRowId then 8 else 4)
  rowId_lt : done.rowId.toNat < 256 ^ (if longRowId then 8 else 4)

/-- What the layout has room for and the client accepts.  COMMAND is left out,
whose payload the client reads or not, and so are the opcodes it does not know. -/
def Fits (sizes : Sizes) (caps : Capabilities) : Message → Prop
  | .describe describe => describe.Fits caps.extendedDescribe ∧
      describe.retainedSize sizes ≤ descriptorMaxBytes
  | .err error => ErrorFits caps.remove64kLimit error
  | .tuple _ bytes => bytes.length ≤ maxTupleBytes
  | .done done => DoneFits caps.longRowId done
  | .dbopen name => name.length < 65536
  | .info items => ∀ item ∈ items, item.1 ≠ 0 ∧ item.2.length < 65536
  | .command _ | .unknown _ | .oversizedTuple | .oversizedDescribe => False
  | _ => True

variable {sizes : Sizes} {malloc : Nat → Bool} {caps : Capabilities}
  {context : Context} {start : Int} {bytes : List UInt8}

/-! Reading them. -/

theorem takes_readBe16 {value : Nat} (hvalue : value < 65536) :
    Takes readBe16 (bigEndian 2 value) value := Takes.readNatural hvalue

theorem takes_readBe32 {value : Nat} (hvalue : value < 2 ^ 32) :
    Takes readBe32 (bigEndian 4 value) value := Takes.readNatural hvalue

theorem takes_readOctets (bytes : List UInt8) :
    Takes (readOctets bytes.length) bytes bytes := Takes.readExact rfl

theorem takes_drainBytes {count : Nat} (hcount : bytes.length = count) :
    Takes (drainBytes count) bytes () :=
  (Takes.readExact hcount).map _

theorem Takes.heedless {program : OctetReader α} {value : α}
    (hprogram : Takes program bytes value) :
    Takes (Octets.heedless program) bytes () := by
  intro rest own
  unfold Octets.heedless
  rw [hprogram]
  rfl

theorem Takes.heard {program : OctetReader α} {value : α}
    (hprogram : Takes program bytes value) :
    Takes (Dispatch.heard program) bytes value := by
  intro rest own
  unfold Dispatch.heard
  dsimp only
  rw [hprogram]

theorem Takes.skip {program : OctetReader α} {value : α}
    (hprogram : Takes program bytes value) :
    Takes (Dispatch.skip program) bytes () :=
  (Takes.heard hprogram).map _

theorem takes_readStr (hlength : bytes.length < 65536) (size : Nat) :
    Takes (readStr size) (stringBytes bytes) (bytes.take (size - 1)) := by
  have hsplit : padEven bytes = bytes.take (size - 1) ++
      (bytes.drop (size - 1) ++ List.replicate (bytes.length % 2) 0) := by
    rw [padEven, ← List.append_assoc, List.take_append_drop]
  have hcopied : (bytes.take (size - 1)).length =
      min bytes.length (size - 1) := by
    rw [List.length_take, Nat.min_comm]
  have hpad : Takes (drainBytes (bytes.length % 2))
      (List.replicate (bytes.length % 2) 0) () :=
    takes_drainBytes List.length_replicate
  unfold stringBytes
  rw [hsplit]
  refine (takes_readBe16 hlength).bind ?_
  refine (Takes.readExact hcopied).bind ?_
  refine (takes_drainBytes List.length_drop).bind ?_
  exact hpad.then (Takes.pure _)

theorem takes_errorText {skipped : Nat} {front : List UInt8}
    (hskipped : front.length = skipped) (hlength : bytes.length < 65536) :
    Takes (errorText skipped) (front ++ stringBytes bytes) () :=
  (Takes.heedless (takes_drainBytes hskipped)).bind
    (Takes.heedless (takes_readStr hlength 512))

theorem takes_errorDetail {error : ServerError}
    (hfits : ErrorFits caps.remove64kLimit error) :
    Takes (errorDetail caps.remove64kLimit error.sqlcode.toInt)
      (detailBytes error) () := by
  have hskipped := hfits.skipped_length
  unfold errorDetail detailBytes
  unfold skippedLength at hskipped
  by_cases hopen : error.sqlcode.toInt = -368
  · rw [if_pos hopen, if_neg (by omega), if_pos hopen]
    exact Takes.pure ()
  · have hlength := hskipped hopen
    simp only [if_neg hopen]
    by_cases hlocked : error.sqlcode.toInt = -619
    · rw [if_pos hlocked] at hlength ⊢
      exact takes_errorText hlength hfits.text_lt
    · rw [if_neg hlocked] at hlength ⊢
      by_cases hstate : error.sqlcode.toInt = 0 ∨
          error.sqlcode.toInt = -937 ∨ error.sqlcode.toInt = 100
      · rw [if_pos hstate] at hlength ⊢
        exact takes_errorText hlength hfits.text_lt
      · rw [if_neg hstate] at hlength ⊢
        exact takes_errorText hlength hfits.text_lt

theorem toInt16_toUInt16 (value : Int16) :
    toInt16 value.toUInt16.toNat = value.toInt :=
  (BitVec.toInt_eq_toNat_bmod value.toBitVec).symm

theorem ofNat_toUInt16 (value : Int16) :
    Int16.ofNat value.toUInt16.toNat = value := by
  apply Int16.toInt_inj.mp
  rw [Int16.toInt_ofNat']
  exact (BitVec.toInt_eq_toNat_bmod value.toBitVec).symm

theorem takes_infoItem {item : UInt16 × List UInt8}
    (hitem : item.1 ≠ 0 ∧ item.2.length < 65536) :
    Takes (infoRound ()) (itemBytes item) (.inl ()) := by
  refine (takes_readBe16 item.1.toNat_lt).bind ?_
  have hzero : item.1.toNat ≠ 0 := fun h => hitem.1 (UInt16.toNat_inj.mp h)
  rw [if_neg hzero]
  refine (takes_readBe16 hitem.2).bind ?_
  exact (takes_drainBytes (length_padEven item.2)).then (Takes.pure _)

theorem takes_drainInfo {items : List (UInt16 × List UInt8)}
    (hitems : ∀ item ∈ items, item.1 ≠ 0 ∧ item.2.length < 65536) :
    Takes drainInfo (infoBytes items) () := by
  have hproceeds : Proceeds infoRound := Proceeds.of_drops fun value =>
    (Sblob.drops_infoRound value).mono (by decide)
  unfold infoBytes
  induction items with
  | nil =>
      refine Takes.forever_last hproceeds ?_
      refine (takes_readBe16 (by decide)).then ?_
      rw [if_pos rfl]
      exact Takes.pure _
  | cons item items ih =>
      rw [List.forall_mem_cons] at hitems
      rw [List.flatMap_cons, List.append_assoc]
      exact Takes.forever_next hproceeds (takes_infoItem hitems.1)
        (ih hitems.2)

theorem takes_receiveCost (rows cost : UInt32) :
    Takes receiveCost (bigEndian 4 rows.toNat ++ bigEndian 4 cost.toNat) () :=
  (takes_readBe32 rows.toNat_lt).bind
    ((takes_readBe32 cost.toNat_lt).then (Takes.pure ()))

theorem takes_receiveXactstat (event newLevel oldLevel : UInt16) :
    Takes receiveXactstat
      (bigEndian 2 event.toNat ++
        (bigEndian 2 newLevel.toNat ++ bigEndian 2 oldLevel.toNat)) () :=
  (takes_readBe16 event.toNat_lt).bind <|
    (takes_readBe16 newLevel.toNat_lt).bind <|
      (takes_readBe16 oldLevel.toNat_lt).then (Takes.pure ())

theorem takes_receiveDbopen {name : List UInt8} (hname : name.length < 65536) :
    Takes receiveDbopen (dbopenBytes name) () := by
  have hdrained : Takes (drainBytes (name.length + 2))
      (name ++ bigEndian 2 0) () := takes_drainBytes (by simp)
  refine (takes_readBe16 hname).bind ?_
  refine (Takes.heedless hdrained).bind ?_
  exact (takes_readBe16 (by decide)).then (Takes.pure ())

theorem takes_done {done : Done} (hfits : DoneFits caps.longRowId done) :
    Takes (doneFields caps.longRowId) (doneBytes caps.longRowId done) done := by
  refine (takes_readBe16 done.warnings.toNat_lt).bind ?_
  refine (Takes.readNatural hfits.rows_lt).bind ?_
  refine (Takes.readNatural hfits.rowId_lt).bind ?_
  refine (takes_readBe32 done.errd1.toNat_lt).then ?_
  simp only [UInt16.ofNat_toNat, UInt32.ofNat_toNat, UInt64.ofNat_toNat]
  exact Takes.pure done

end Libsqli.Dispatch
