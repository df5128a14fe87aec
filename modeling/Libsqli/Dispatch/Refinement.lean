import Libsqli.Dispatch.Drained
import Libsqli.Receive.Verdict

namespace Libsqli.Dispatch

open Libsqli.Data.Bytes
open Libsqli.Data.Program
open Libsqli.Data.Stream
open Libsqli.Octets
open Libsqli.Receive
open Libsqli.Sblob (doneBytes)

variable {sizes : Sizes} {malloc : Nat → Bool} {caps : Capabilities}
  {context : Context} {start : Int} {message : Message}
  {messages rest : List Message} {own : Listener} {unread : List UInt8}

/-! The loop over octets does what the loop over messages does. -/

/-- A message that ends the call, with these octets unread behind it. -/
inductive Ends (unread : List UInt8) (own : Listener)
    (outcome : EStateM.Result Status (Incoming Listener) Unit) :
    Status → Prop where
  | returned (heof : own.result.eof = true)
      (hrun : outcome = .ok () ⟨unread, own⟩) : Ends unread own outcome .ok
  | stopped {status : Status} (hrun : outcome = .error status ⟨unread, own⟩) :
      Ends unread own outcome status

/-- Behind the octets of a message the loops go on alike, or end alike. -/
inductive Alike (caps : Capabilities) (rest : List Message)
    (handled : (Nat → Bool) → Handled)
    (outcome : EStateM.Result Status (Incoming Listener) Unit) : Prop where
  | goOn (after : Listener) (hready : Ready after)
      (hrun : outcome = .ok () ⟨wireBytes caps rest, after⟩)
      (hhandled : ∀ later, ∃ sights,
        handled sights = .continue (after.scene later))
  | ended (after : Listener) {status : Status} {left : List Message}
      (hends : Ends (wireBytes caps left) after outcome status)
      (hready : Ready after)
      (hhandled : ∀ later, ∃ sights,
        handled sights = .finish status left (after.scene later))

theorem alike_silent {handled : (Nat → Bool) → Handled} {bytes : List UInt8}
    {program : Dispatcher Unit} (hready : Ready own)
    (hprogram : Takes program bytes ())
    (hhandled : ∀ sights, handled sights = .continue (own.scene sights)) :
    Alike caps rest handled
      (program ⟨bytes ++ wireBytes caps rest, own⟩) :=
  .goOn own hready (hprogram (wireBytes caps rest) own)
    fun later => ⟨later, hhandled later⟩

theorem handleTuple_none {warnings : UInt16} {bytes : List UInt8}
    {scene : Scene} (halloc : ¬ scene.allocs 0 = false)
    (htuple : Receive.receiveTuple warnings bytes scene.result = none) :
    handleTuple warnings bytes rest scene =
      .finish .allocFail rest scene.allocated := by
  unfold handleTuple
  rw [if_neg halloc, htuple]

theorem handleTuple_some {warnings : UInt16} {bytes : List UInt8}
    {scene : Scene} {result : Result} (halloc : ¬ scene.allocs 0 = false)
    (htuple : Receive.receiveTuple warnings bytes scene.result =
      some result) :
    handleTuple warnings bytes rest scene =
      .continue (scene.allocated.withResult result) := by
  unfold handleTuple
  rw [if_neg halloc, htuple]

theorem alike_tuple {warnings : UInt16} {bytes : List UInt8}
    (hready : Ready own) (hlength : bytes.length ≤ maxTupleBytes) :
    Alike caps rest
      (fun sights => handleTuple warnings bytes rest (own.scene sights))
      (receiveTuple
        ⟨tupleBytes warnings bytes ++ wireBytes caps rest, own⟩) := by
  have hsize : bytes.length < 2 ^ 32 := hlength.trans_lt (by decide)
  have hgranted : ∀ unread, granted ⟨unread, own⟩ = .ok ()
      ⟨unread, { own with allocs := fun index => own.allocs (index + 1) }⟩ := by
    intro unread
    unfold granted
    dsimp only
    rw [hready.allocs]
    rfl
  have hrun : receiveTuple
      ⟨tupleBytes warnings bytes ++ wireBytes caps rest, own⟩ =
      appendTuple warnings bytes ⟨wireBytes caps rest,
        { own with allocs := fun index => own.allocs (index + 1) }⟩ := by
    unfold receiveTuple tupleBytes padEven
    rw [List.append_assoc, List.append_assoc, List.append_assoc,
      (Takes.heard (takes_readBe16 warnings.toNat_lt)).bind_eq,
      (Takes.heard (takes_readBe32 hsize)).bind_eq,
      if_neg (Nat.not_lt.mpr hlength), bind_apply, hgranted]
    dsimp only
    rw [(Takes.heard (takes_readOctets bytes)).bind_eq,
      (Takes.heard (takes_drainBytes List.length_replicate)).bind_eq,
      UInt16.ofNat_toNat]
  have hallocs (sights : Nat → Bool) :
      ¬ (own.scene sights).allocs 0 = false := by
    change ¬ own.allocs 0 = false
    rw [hready.allocs]
    nofun
  rw [hrun]
  have hshift : (fun index => own.allocs (index + 1)) = fun _ => true := by
    rw [hready.allocs]
  unfold appendTuple
  dsimp only
  cases htuple : Receive.receiveTuple warnings bytes own.result with
  | none =>
      refine .ended { own with allocs := fun index => own.allocs (index + 1) }
        (.stopped rfl) ⟨hready.near, hshift⟩ fun later => ⟨later, ?_⟩
      exact handleTuple_none (hallocs later) htuple
  | some result =>
      refine .goOn { own with
        allocs := fun index => own.allocs (index + 1)
        result := result } ⟨hready.near, hshift⟩ rfl fun later =>
          ⟨later, ?_⟩
      exact handleTuple_some (hallocs later) htuple

theorem assignNames_eq (count : Nat) (names : List UInt8) :
    assignNames count names = (assignFieldNames count names).isSome := by
  induction count generalizing names with
  | zero => rfl
  | succ count ih =>
      cases names with
      | nil => rfl
      | cons byte names =>
          unfold assignNames assignFieldNames
          cases (byte :: names).idxOf? 0 with
          | none => rfl
          | some length =>
              dsimp only
              rw [ih, Option.isSome_map]

/-- Names that cannot be assigned are read to their end. -/
theorem receiveDescribe_unassigned {describe : Describe}
    (hfits : describe.Fits caps.extendedDescribe)
    (hafforded : Afforded sizes malloc describe)
    (hnames : assignFieldNames describe.fields.length describe.names = none)
    (later : List UInt8) (drafting : Drafting) :
    Receive.receiveDescribe sizes malloc caps
        ⟨describeBytes caps.extendedDescribe describe ++ later, drafting⟩ =
      .error .protoError ⟨later,
        drafting.restart (describe.retainedSize sizes)⟩ := by
  have hbegin : beginDraft
      ⟨describeBytes caps.extendedDescribe describe ++ later, drafting⟩ =
        .ok () ⟨describeBytes caps.extendedDescribe describe ++ later,
          drafting.restart 0⟩ := rfl
  have hdraft := @attempts_receiveDraft sizes malloc caps.extendedDescribe
    True (drafting.restart 0) describe hfits (fun _ => hafforded) later
  unfold Receive.receiveDescribe
  rw [bind_apply, hbegin]
  dsimp only
  rcases hdraft with hrun | ⟨hfailed, -⟩
  · rw [bind_apply, hrun]
    dsimp only
    unfold finishDescribe
    rw [hnames]
    rfl
  · exact absurd trivial hfailed

theorem receiveDescribe_assigned {describe : Describe}
    (hfits : describe.Fits caps.extendedDescribe)
    (hafforded : Afforded sizes malloc describe)
    {assigned : List (Option (List UInt8))}
    (hnames : assignFieldNames describe.fields.length describe.names =
      some assigned) (later : List UInt8) (drafting : Drafting) :
    Receive.receiveDescribe sizes malloc caps
        ⟨describeBytes caps.extendedDescribe describe ++ later, drafting⟩ =
      .ok () ⟨later, drafting.described sizes caps describe assigned⟩ := by
  rcases @receiveDescribe_message sizes malloc caps drafting describe hfits
    assigned hnames later with hrun | ⟨hfailed, -⟩
  · exact hrun
  · exact absurd hafforded hfailed

theorem alike_describe {describe : Describe} (hready : Ready own)
    (hfits : describe.Fits caps.extendedDescribe)
    (hafforded : Afforded sizes malloc describe) :
    Alike caps rest
      (fun sights => handleDescribe caps describe rest (own.scene sights))
      (receiveDescribe sizes malloc caps
        ⟨describeBytes caps.extendedDescribe describe ++ wireBytes caps rest,
          own⟩) := by
  have hallocs (sights : Nat → Bool) :
      ¬ (own.scene sights).allocs 0 = false := by
    change ¬ own.allocs 0 = false
    rw [hready.allocs]
    nofun
  have hscene (sights : Nat → Bool) :
      (own.scene sights).allocated = own.scene sights := by
    unfold Scene.allocated Listener.scene
    dsimp only
    rw [hready.allocs]
  have hassign := assignNames_eq describe.fields.length describe.names
  unfold receiveDescribe
  dsimp only
  cases hnames : assignFieldNames describe.fields.length describe.names with
  | none =>
      rw [hnames] at hassign
      rw [receiveDescribe_unassigned hfits hafforded hnames]
      dsimp only
      rw [if_neg (by decide)]
      refine .ended own (.stopped rfl) hready fun later => ⟨later, ?_⟩
      unfold handleDescribe
      have hunassigned : assignNames describe.fields.length describe.names =
          false := hassign
      rw [if_neg (hallocs _), if_pos hunassigned, hscene]
  | some assigned =>
      rw [hnames] at hassign
      rw [receiveDescribe_assigned hfits hafforded hnames]
      refine .goOn { own with
        result := replaceDescriptor caps describe own.result }
          ⟨hready.near, hready.allocs⟩ rfl fun later => ⟨later, ?_⟩
      unfold handleDescribe
      rw [if_neg (hallocs _), if_neg (by rw [hassign]; nofun), hscene]
      rfl

theorem changeResult_bind {step : Result → Result}
    {next : Unit → Dispatcher α} :
    (changeResult step >>= next) ⟨unread, own⟩ =
      next () ⟨unread, { own with result := step own.result }⟩ := rfl

theorem alike_done {done : Done} (hready : Ready own)
    (hfits : DoneFits caps.longRowId done) (hfree : TailFree caps rest)
    (hframed : Framed sizes caps rest) :
    Alike caps rest (fun sights => handleDone caps done rest (own.scene sights))
      (receiveDone caps
        ⟨doneBytes caps.longRowId done ++ wireBytes caps rest, own⟩) := by
  have hrecorded : Ready { own with
      result := recordDone caps done own.result } :=
    ⟨hready.near, hready.allocs⟩
  obtain ⟨looks, hlooks, htail⟩ := (looks_doneTail hfree).heard hrecorded
  obtain ⟨left, last, hlast, htrail, hleft⟩ :=
    drainTrail_mirrors hframed (hrecorded.of_looks hlooks)
  have hrun : receiveDone caps
      ⟨doneBytes caps.longRowId done ++ wireBytes caps rest, own⟩ =
      .ok () ⟨wireBytes caps left, { own with
        looks := last
        result := Receive.receiveDone caps done own.result }⟩ := by
    unfold receiveDone
    rw [(Takes.heard (takes_done hfits)).bind_eq, changeResult_bind,
      bind_apply, htail]
    dsimp only
    rw [bind_apply, htrail]
    rfl
  rw [hrun]
  refine .ended _ (.returned rfl rfl) ⟨hlast, hready.allocs⟩ fun later => ?_
  obtain ⟨sights, hdrained⟩ := hleft later
  refine ⟨sights, ?_⟩
  have hscene := hdrained ((own.scene sights).withResult
    (Receive.receiveDone caps done (own.scene sights).result)) rfl
  unfold handleDone
  dsimp only
  rw [hscene]
  rfl

theorem alike_error {error : ServerError} (hready : Ready own)
    (hfits : ErrorFits caps.remove64kLimit error)
    (hclear : Clear caps rest (.err error))
    (hframed : Framed sizes caps rest) :
    Alike caps rest (fun sights => handleError error rest (own.scene sights))
      (receiveError caps ⟨errorBytes error ++ wireBytes caps rest, own⟩) := by
  have hrecorded : Ready { own with
      result := { own.result with errorCode := error.sqlcode.toInt }
      diagnostic := .server error } := ⟨hready.near, hready.allocs⟩
  obtain ⟨left, last, hlast, hend, hleft⟩ :=
    errorEnd_mirrors hframed hclear hrecorded
  have hrun : receiveError caps
      ⟨errorBytes error ++ wireBytes caps rest, own⟩ =
      .error .protoError ⟨wireBytes caps left, { own with
        looks := last
        result := Receive.receiveError error own.result
        diagnostic := .server error }⟩ := by
    unfold receiveError errorBytes
    rw [List.append_assoc, List.append_assoc,
      (Takes.heard (takes_readBe16 error.sqlcode.toUInt16.toNat_lt)).bind_eq,
      (Takes.heard (takes_readBe16 error.isamcode.toUInt16.toNat_lt)).bind_eq,
      toInt16_toUInt16, changeResult_bind,
      (Takes.heard (takes_errorDetail hfits)).bind_eq]
    change (heard errorEnd >>= _) ⟨_, { own with
      result := { own.result with errorCode := error.sqlcode.toInt }
      diagnostic := .server error }⟩ = _
    rw [bind_apply, hend]
    rfl
  rw [hrun]
  refine .ended _ (.stopped rfl) ⟨hlast, hready.allocs⟩ fun later => ?_
  obtain ⟨sights, hdrained⟩ := hleft later
  refine ⟨sights, ?_⟩
  have hscene := hdrained (((own.scene sights).withResult
    (Receive.receiveError error (own.scene sights).result)).withDiagnostic
      (.server error)) rfl
  unfold handleError
  dsimp only
  rw [hscene]
  rfl

theorem alike_insertdone {serial : Int8Value} (hready : Ready own)
    (hclear : Clear caps rest (.insertdone serial)) :
    Alike caps rest
      (fun sights => .continue ((own.scene sights).withResult
        (Receive.receiveInsertdone serial own.result)))
      (receiveInsertdone ⟨int8Bytes serial ++ wireBytes caps rest, own⟩) := by
  have hrecorded : Ready { own with
      result := Receive.receiveInsertdone serial own.result } :=
    ⟨hready.near, hready.allocs⟩
  obtain ⟨later, hlater, htail⟩ :=
    (looks_insertdoneTail 256 hclear).heard hrecorded
  have hrun : receiveInsertdone
      ⟨int8Bytes serial ++ wireBytes caps rest, own⟩ =
      .ok () ⟨wireBytes caps rest, { own with
        looks := later
        result := Receive.receiveInsertdone serial own.result }⟩ := by
    unfold receiveInsertdone int8Bytes
    rw [List.append_assoc, List.append_assoc,
      (Takes.heard (takes_readBe16 serial.sign.toUInt16.toNat_lt)).bind_eq,
      (Takes.heard (takes_readBe32 serial.low.toNat_lt)).bind_eq,
      (Takes.heard (takes_readBe32 serial.high.toNat_lt)).bind_eq,
      ofNat_toUInt16, UInt32.ofNat_toNat, UInt32.ofNat_toNat,
      changeResult_bind, htail]
  exact .goOn _ (hrecorded.of_looks hlater) hrun fun later => ⟨later, rfl⟩

theorem alike_eot (hready : Ready own) :
    Alike caps rest
      (fun sights => handleEot context start rest (own.scene sights))
      (receiveEot context start ⟨wireBytes caps rest, own⟩) := by
  obtain ⟨after, hafter, hrun, hhandled⟩ := receiveEot_mirrors hready rest
  exact .goOn after hafter hrun hhandled

theorem alike_exit (hready : Ready own) :
    Alike caps rest
      (fun sights => .finish .ioError rest
        ((own.scene sights).withResult (endGroup own.result)))
      (receiveExit ⟨wireBytes caps rest, own⟩) := by
  exact .ended { own with result := endGroup own.result }
    (.stopped rfl) ⟨hready.near, hready.allocs⟩ fun later => ⟨later, rfl⟩

/-- One message. -/
theorem alike_message (hafforded : ∀ size, malloc size = true)
    (hready : Ready own) (hfits : Fits sizes caps message)
    (hclear : Clear caps rest message) (hframed : Framed sizes caps rest) :
    Alike caps rest
      (fun sights => handle caps context start message rest (own.scene sights))
      (dispatchOpcode sizes malloc caps context start (opcodeOf message)
        ⟨payloadBytes caps message ++ wireBytes caps rest, own⟩) := by
  cases message with
  | describe describe =>
      exact alike_describe hready hfits.1 ⟨hafforded, hfits.2⟩
  | tuple warnings bytes => exact alike_tuple hready hfits
  | done done => exact alike_done hready hfits hclear hframed
  | err error =>
      have hopcode : dispatchOpcode sizes malloc caps context start
          (opcodeOf (.err error)) = receiveError caps := rfl
      rw [hopcode]
      exact alike_error hready hfits hclear hframed
  | eot => exact alike_eot hready
  | exit => exact alike_exit hready
  | insertdone serial => exact alike_insertdone hready hclear
  | dbopenFlags flags =>
      exact alike_silent hready (Takes.skip (takes_readBe16 flags.toNat_lt))
        fun _ => rfl
  | tupid id =>
      exact alike_silent hready (Takes.skip (takes_readBe32 id.toNat_lt))
        fun _ => rfl
  | dbopen name =>
      exact alike_silent hready (Takes.skip (takes_receiveDbopen hfits))
        fun _ => rfl
  | cost rows cost =>
      exact alike_silent hready (Takes.skip (takes_receiveCost rows cost))
        fun _ => rfl
  | info items =>
      exact alike_silent hready (Takes.skip (takes_drainInfo hfits))
        fun _ => rfl
  | xactstat event newLevel oldLevel =>
      exact alike_silent hready
        (Takes.skip (takes_receiveXactstat event newLevel oldLevel))
        fun _ => rfl
  | prepare | close | release | dbclose | reassoc =>
      exact alike_silent hready (Takes.pure ()) fun _ => rfl
  | command payload => cases hfits
  | unknown opcode => cases hfits
  | oversizedTuple => cases hfits
  | oversizedDescribe => cases hfits

/-! The loop. -/

def endOf : EStateM.Result Status σ Unit → Status × σ
  | .ok _ state => (.ok, state)
  | .error status state => (status, state)

/-- Octets and messages received alike, whatever the later looks find. -/
def Mirrors (caps : Capabilities) (ended : Status × Incoming Listener)
    (received : (Nat → Bool) → Reception) : Prop :=
  ∃ status left after, Ready after ∧
    ended = (status, ⟨wireBytes caps left, after⟩) ∧
    ∀ later, ∃ sights, received sights = ⟨status, left, after.scene later⟩

section

variable {round : Unit → Dispatcher (Unit ⊕ Unit)} {fuel : Nat}
  {state after : Incoming Listener}

theorem rounds_next (hround : round () state = .ok (.inl ()) after) :
    rounds .ioError round (fuel + 1) () state =
      rounds .ioError round fuel () after := by
  change (round () >>= _) state = _
  rw [bind_apply, hround]

theorem rounds_last (hround : round () state = .ok (.inr ()) after) :
    rounds .ioError round (fuel + 1) () state = .ok () after := by
  change (round () >>= _) state = _
  rw [bind_apply, hround]
  rfl

theorem rounds_failed {status : Status}
    (hround : round () state = .error status after) :
    rounds .ioError round (fuel + 1) () state = .error status after := by
  change (round () >>= _) state = _
  rw [bind_apply, hround]

end

theorem dispatchRound_eof (heof : own.result.eof = true) :
    dispatchRound sizes malloc caps context start () ⟨unread, own⟩ =
      .ok (.inr ()) ⟨unread, own⟩ := if_pos heof

theorem dispatchRound_message (hopen : own.result.eof = false)
    (message : Message) (rest : List Message) :
    dispatchRound sizes malloc caps context start ()
        ⟨wireBytes caps (message :: rest), own⟩ =
      (dispatchOpcode sizes malloc caps context start (opcodeOf message) >>=
        fun _ => pure (.inl ()))
          ⟨payloadBytes caps message ++ wireBytes caps rest, own⟩ := by
  have hround : dispatchRound sizes malloc caps context start ()
      ⟨wireBytes caps (message :: rest), own⟩ =
        dispatchMessage sizes malloc caps context start
          ⟨wireBytes caps (message :: rest), own⟩ :=
    if_neg (Bool.not_eq_true _ ▸ hopen)
  rw [hround, dispatchMessage, wireBytes_cons,
    (Takes.heard (takes_readBe16 (opcodeOf_lt message))).bind_eq]

theorem rounds_mirrors_eof (heof : own.result.eof = true)
    (hready : Ready own) (fuel : Nat) :
    Mirrors caps
      (endOf (rounds .ioError
        (dispatchRound sizes malloc caps context start) (fuel + 1) ()
        ⟨wireBytes caps messages, own⟩))
      fun sights =>
        receiveLoop caps context start messages (own.scene sights) := by
  rw [rounds_last (dispatchRound_eof heof)]
  exact ⟨.ok, messages, own, hready, rfl, fun later =>
    ⟨later, receiveLoop_of_eof heof⟩⟩

theorem receiveLoop_cons {scene : Scene} (hopen : scene.result.eof = false) :
    receiveLoop caps context start (message :: rest) scene =
      match handle caps context start message rest scene with
      | .continue scene => receiveLoop caps context start rest scene
      | .finish status rest scene => ⟨status, rest, scene⟩ :=
  if_neg (Bool.not_eq_true _ ▸ hopen)

theorem rounds_mirrors (hafforded : ∀ size, malloc size = true)
    (hframed : Framed sizes caps messages) (hready : Ready own) (fuel : Nat)
    (hfuel : (wireBytes caps messages).length ≤ fuel) :
    Mirrors caps
      (endOf (rounds .ioError
        (dispatchRound sizes malloc caps context start) (fuel + 1) ()
        ⟨wireBytes caps messages, own⟩))
      fun sights =>
        receiveLoop caps context start messages (own.scene sights) := by
  induction hframed generalizing own fuel with
  | nil =>
      cases hopen : own.result.eof with
      | true => exact rounds_mirrors_eof hopen hready fuel
      | false =>
          have hround : dispatchRound sizes malloc caps context start ()
              ⟨wireBytes caps [], own⟩ =
                .error .ioError ⟨[], { own with diagnostic := .local }⟩ :=
            if_neg (Bool.not_eq_true _ ▸ hopen)
          rw [rounds_failed hround]
          exact ⟨.ioError, [], { own with diagnostic := .local },
            ⟨hready.near, hready.allocs⟩, rfl, fun later =>
              ⟨later, if_neg (Bool.not_eq_true _ ▸ hopen)⟩⟩
  | @cons message rest hfits hclear hrest ih =>
      cases hopen : own.result.eof with
      | true => exact rounds_mirrors_eof hopen hready fuel
      | false =>
          have hshorter : (wireBytes caps rest).length + 2 ≤
              (wireBytes caps (message :: rest)).length := by
            simp only [wireBytes_cons, List.length_append, length_bigEndian]
            omega
          obtain ⟨fuel, rfl⟩ : ∃ less, fuel = less + 1 :=
            Nat.exists_eq_add_one.mpr (by omega)
          have hround := @dispatchRound_message sizes malloc caps context start
            own hopen message rest
          have halike := @alike_message sizes malloc caps context start message
            rest own hafforded hready hfits hclear hrest
          cases halike with
          | goOn after hafter hrun hhandled =>
              rw [bind_apply, hrun] at hround
              rw [rounds_next hround]
              obtain ⟨status, left, last, hlast, hended, hreceived⟩ :=
                ih hafter fuel (by omega)
              refine ⟨status, left, last, hlast, hended, fun later => ?_⟩
              obtain ⟨middle, hreceived⟩ := hreceived later
              obtain ⟨sights, hhandled⟩ := hhandled middle
              refine ⟨sights, Eq.trans ?_ hreceived⟩
              dsimp only
              rw [receiveLoop_cons hopen, hhandled]
          | @ended after status left hends hafter hhandled =>
              have hreceived : ∀ later, ∃ sights,
                  receiveLoop caps context start (message :: rest)
                    (own.scene sights) = ⟨status, left, after.scene later⟩ := by
                intro later
                obtain ⟨sights, hhandled⟩ := hhandled later
                exact ⟨sights, by rw [receiveLoop_cons hopen, hhandled]⟩
              cases hends with
              | returned heof hrun =>
                  rw [bind_apply, hrun] at hround
                  rw [rounds_next hround, rounds_last (dispatchRound_eof heof)]
                  exact ⟨_, left, after, hafter, rfl, hreceived⟩
              | stopped hrun =>
                  rw [bind_apply, hrun] at hround
                  rw [rounds_failed hround]
                  exact ⟨_, left, after, hafter, rfl, hreceived⟩

theorem receiveDispatch_mirrors (hafforded : ∀ size, malloc size = true)
    (hframed : Framed sizes caps messages) (hready : Ready own) :
    Mirrors caps
      (endOf (receiveDispatch sizes malloc caps context
        ⟨wireBytes caps messages, own⟩))
      fun sights =>
        Receive.receiveDispatch caps context messages (own.scene sights) :=
  rounds_mirrors hafforded hframed hready _ (Nat.le_refl _)

end Libsqli.Dispatch
