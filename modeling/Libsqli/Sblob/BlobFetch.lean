import Libsqli.Sblob.Trailers

namespace Libsqli.Sblob

open Libsqli.Data.Bytes
open Libsqli.Data.Program
open Libsqli.Data.Stream
open Libsqli.Octets
open Libsqli.Receive (Done)

variable {remove64k longRowId : Bool} {done : Done}
  {bytes beginning later : List UInt8} {own : List Look}

/-! A DONE in front of the end of a reply. -/

/-- The fields as `receive_done` takes them. -/
def doneBytes (longRowId : Bool) (done : Done) : List UInt8 :=
  bigEndian 2 done.warnings.toNat ++
    (bigEndian (if longRowId then 8 else 4) done.rows.toNat ++
      (bigEndian (if longRowId then 8 else 4) done.rowId.toNat ++
        bigEndian 4 done.errd1.toNat))

def replyEnd (longRowId : Bool) (done : Done) : List UInt8 :=
  [0, 15] ++ (doneBytes longRowId done ++ eotBytes)

theorem takes_readNatural (width value : Nat) :
    Takes (readNatural .ioError width : OctetReader Nat)
      (bigEndian width value) (natOfBytes (bigEndian width value)) :=
  (Takes.readExact (length_bigEndian width value)).map natOfBytes

theorem takes_doneFields (longRowId : Bool) (done : Done) :
    ∃ found, Takes (doneFields longRowId) (doneBytes longRowId done) found :=
  ⟨_, (takes_readNatural _ _).bind <| (takes_readNatural _ _).bind <|
    (takes_readNatural _ _).bind <| (takes_readNatural _ _).then (Takes.pure _)⟩

theorem peekBytes_eot (later : List UInt8) (own : List Look) :
    ∃ peek looks, peekBytes 2 ⟨eotBytes ++ later, own⟩ =
      .ok peek ⟨eotBytes ++ later, looks⟩ ∧
        (peek.length ≠ 2 ∨ peek = eotBytes) := by
  cases own with
  | nil => exact ⟨[], [], rfl, .inl (by decide)⟩
  | cons look looks =>
      refine ⟨_, looks, rfl, ?_⟩
      by_cases hseen : 2 ≤ look.seen
      · right
        rw [Nat.min_eq_right hseen]
        rfl
      · left
        rw [List.length_take]
        omega

/-- In front of an end there is no optional tail. -/
theorem doneTail_eot (later : List UInt8) (own : List Look) :
    ∃ looks, doneTail ⟨eotBytes ++ later, own⟩ =
      .ok () ⟨eotBytes ++ later, looks⟩ := by
  obtain ⟨peek, looks, hpeek, hseen⟩ := peekBytes_eot later own
  refine ⟨looks, ?_⟩
  unfold doneTail tailBehind
  rw [bind_apply, hpeek]
  dsimp only
  rcases hseen with hlength | rfl
  · rw [if_pos hlength]
    rfl
  · rw [if_neg (by decide), if_neg (by decide), if_pos (by decide)]
    rfl

/-- `receive_done` takes its fields and nothing of the end behind them. -/
theorem receiveDone_eot (longRowId : Bool) (done : Done) (later : List UInt8)
    (own : List Look) :
    ∃ found looks,
      receiveDone longRowId
          ⟨doneBytes longRowId done ++ (eotBytes ++ later), own⟩ =
        .ok found ⟨eotBytes ++ later, looks⟩ := by
  obtain ⟨found, hfields⟩ := takes_doneFields longRowId done
  obtain ⟨looks, htail⟩ := doneTail_eot later own
  refine ⟨found, looks, ?_⟩
  unfold receiveDone
  rw [hfields.bind_eq, bind_apply, htail]
  rfl

/-! What the first ten octets leave of it. -/

def behindTen (longRowId : Bool) (done : Done) : List UInt8 :=
  (if longRowId then bigEndian 8 done.rowId.toNat else []) ++
    bigEndian 4 done.errd1.toNat

theorem doneBytes_eq (longRowId : Bool) (done : Done) :
    ∃ front, doneBytes longRowId done = front ++ behindTen longRowId done ∧
      front.length = 10 := by
  cases longRowId with
  | false =>
      exact ⟨bigEndian 2 done.warnings.toNat ++
        (bigEndian 4 done.rows.toNat ++ bigEndian 4 done.rowId.toNat),
        by simp [doneBytes, behindTen], by simp⟩
  | true =>
      exact ⟨bigEndian 2 done.warnings.toNat ++ bigEndian 8 done.rows.toNat,
        by simp [doneBytes, behindTen], by simp⟩

theorem length_behindTen (longRowId : Bool) (done : Done) :
    (behindTen longRowId done).length = if longRowId then 12 else 4 := by
  cases longRowId <;> simp [behindTen]

/-- None of the words behind the first ten octets looks like an end or a DONE; or
they are six, and the first one skips the five others. -/
def SkippedWhole (longRowId : Bool) (done : Done) : Prop :=
  (longRowId = true ∧
      (wordsOf (behindTen longRowId done)).head? = some Opcode.done) ∨
    ∀ word ∈ wordsOf (behindTen longRowId done), PassedOver word

instance : Decidable (SkippedWhole longRowId done) :=
  inferInstanceAs (Decidable ((_ ∧ _) ∨ _))

theorem drainTrailing_done_iff :
    Leaves (drainTrailing ⟨replyEnd longRowId done ++ later, own⟩) later ↔
      SkippedWhole longRowId done := by
  obtain ⟨front, hbytes, hfront⟩ := doneBytes_eq longRowId done
  have hlength := length_behindTen longRowId done
  have hstart : drainTrailing ⟨replyEnd longRowId done ++ later, own⟩ =
      drainTrailing ⟨behindTen longRowId done ++ eotBytes ++ later, own⟩ := by
    have hreply : replyEnd longRowId done ++ later =
        0 :: 15 :: (front ++ (behindTen longRowId done ++ eotBytes ++ later)) := by
      simp [replyEnd, hbytes]
    rw [hreply, drainTrailing_done (by decide) (by simp; omega), ← hfront,
      List.drop_left]
  rw [hstart]
  cases longRowId with
  | false =>
      rw [drainTrailing_scan (by simp [hlength]) (by simp [hlength])]
      simp [SkippedWhole]
  | true =>
      match hbehind : behindTen true done with
      | [] => simp [hbehind] at hlength
      | [_] => simp [hbehind] at hlength
      | high :: low :: behind =>
          rw [hbehind] at hlength
          have hten : behind.length = 10 := by simpa using hlength
          rw [drainTrailing_scan_six hten, SkippedWhole, hbehind, wordsOf,
            List.head?_cons, Option.some_inj, and_iff_right rfl]

end Libsqli.Sblob

namespace Libsqli.Sblob

open Libsqli.Data.Bytes
open Libsqli.Data.Program
open Libsqli.Data.Stream
open Libsqli.Octets
open Libsqli.Receive (Done)

variable {remove64k longRowId : Bool} {done : Done} {room : Room}
  {accum later : List UInt8} {own : List Look}

/-! No message leads a blob fetch back. -/

theorem drops_readBe16 : Drops 2 readBe16 := Drops.readNatural 2

theorem drops_readBe32 : Drops 4 readBe32 := Drops.readNatural 4

theorem drops_drainBytes (count : Nat) : Drops count (drainBytes count) :=
  (Drops.readExact count).map _

theorem drops_receiveCost : Drops 0 receiveCost :=
  drops_readBe32.free.then fun _ => drops_readBe32.free.then
    fun _ => Drops.pure ()

theorem drops_infoRound (value : Unit) : Drops 2 (infoRound value) := by
  refine drops_readBe16.then fun itemType => Drops.ite (Drops.pure _) ?_
  exact drops_readBe16.free.then fun length =>
    (drops_drainBytes _).free.then fun _ => Drops.pure _

theorem drops_drainInfo : Drops 0 drainInfo :=
  (Drops.forever drops_infoRound ()).free

theorem drops_heedless {program : OctetReader α} {count : Nat}
    (hprogram : Drops count program) : Drops 0 (heedless program) :=
  ⟨hprogram.suffix, fun {state _ _} hrun => by
    cases hrun
    exact (hprogram.suffix state).length_le⟩

theorem drops_readStr (size : Nat) : Drops 0 (readStr size) :=
  drops_readBe16.free.then fun _ => (Drops.readExact _).free.then
    fun _ => (drops_drainBytes _).free.then
    fun _ => (drops_drainBytes _).free.then fun _ => Drops.pure _

theorem drops_errorText (skipped : Nat) : Drops 0 (errorText skipped) :=
  (drops_heedless (drops_drainBytes skipped)).then
    fun _ => drops_heedless (drops_readStr 512)

theorem drops_errorDetail (remove64k : Bool) (sqlcode : Int) :
    Drops 0 (errorDetail remove64k sqlcode) :=
  Drops.ite (drops_errorText _) <| Drops.ite (Drops.pure ()) <|
    Drops.ite (drops_errorText _) (drops_errorText _)

/-- Past the peek `errorEnd` either reads a word or does nothing. -/
theorem drops_errorEnd : Drops 0 errorEnd := by
  have hsuffix (state : Incoming (List Look)) :
      (stateOf (errorEnd state)).unread <:+ state.unread := by
    obtain ⟨unread, own⟩ := state
    cases own with
    | nil => exact List.suffix_rfl
    | cons look looks =>
        unfold errorEnd
        dsimp only
        by_cases heot :
            (unread.drop look.behind).take (min look.seen 2) =
              bigEndian 2 Opcode.eot
        · rw [if_pos heot]
          exact (drops_heedless drops_readBe16).suffix ⟨unread, looks⟩
        · rw [if_neg heot]
          exact List.suffix_rfl
  refine ⟨hsuffix, fun {state _ _} hrun => ?_⟩
  have hstate := hsuffix state
  rw [hrun] at hstate
  exact hstate.length_le

theorem drops_receiveError (remove64k : Bool) :
    Drops 0 (receiveError remove64k) := by
  refine drops_readBe16.free.then fun sqlcode => ?_
  refine drops_readBe16.free.then fun _ => ?_
  refine (drops_errorDetail remove64k (toInt16 sqlcode)).then fun _ => ?_
  exact drops_errorEnd.then fun _ => Drops.pure _

theorem drops_fetchFailed (remove64k : Bool) :
    Drops 0 (fetchFailed remove64k : OctetReader α) :=
  (drops_receiveError remove64k).then fun _ => Drops.throw _ 0

theorem drops_appendBytes (accum bytes : List UInt8) :
    Drops 0 (appendBytes room accum bytes) :=
  Drops.ite (Drops.pure _) (Drops.ite (Drops.throw _ _) (Drops.pure _))

theorem drops_readPaddedChunk (length : Nat) (accum : List UInt8) :
    Drops 0 (readPaddedChunk room length accum) := by
  refine Drops.ite (Drops.throw _ _) ?_
  exact (Drops.readExact _).free.then fun bytes =>
    (drops_drainBytes _).free.then fun _ => drops_appendBytes _ _

theorem drops_lodataRound (progress : Nat × List UInt8) :
    Drops 0 (lodataRound room progress) := by
  refine Drops.ite (Drops.pure _) ?_
  refine drops_readBe16.free.then fun length => Drops.ite (Drops.throw _ _) ?_
  exact (drops_readPaddedChunk _ _).then fun _ => Drops.pure _

theorem drops_receiveLodata (accum : List UInt8) :
    Drops 0 (receiveLodata room accum) := by
  refine drops_readBe16.free.then fun _ => ?_
  refine drops_readBe32.free.then fun fileSize => ?_
  exact Drops.ite (Drops.throw _ _) (Drops.forever drops_lodataRound _)

theorem drops_receiveBlob (accum : List UInt8) :
    Drops 0 (receiveBlob room accum) :=
  drops_readBe16.free.then fun _ => drops_readPaddedChunk _ _

theorem drops_materializeRound (accum : List UInt8) :
    Drops 2 (materializeRound room remove64k accum) := by
  refine (Drops.readNatural 2).then fun opcode => ?_
  exact Drops.ite (drops_receiveCost.map _) <|
    Drops.ite (drops_drainInfo.map _) <|
    Drops.ite ((drops_receiveBlob _).map _) <|
    Drops.ite ((drops_receiveLodata _).map _) <|
    Drops.ite ((drops_drainBytes 22).free.map _) <|
    Drops.ite (Drops.pure _) <|
    Drops.ite (drops_fetchFailed remove64k) (Drops.throw _ _)

theorem proceeds_materializeRound :
    Proceeds (materializeRound room remove64k) :=
  Proceeds.of_drops fun accum => (drops_materializeRound accum).mono (by decide)

/-- The message loop of a blob fetch with what it has received so far. -/
abbrev materializeFrom (room : Room) (remove64k : Bool) (accum : List UInt8) :
    OctetReader (List UInt8) :=
  forever .ioError (materializeRound room remove64k) accum

theorem drops_materializeFrom : Drops 2 (materializeFrom room remove64k accum) :=
  Drops.forever drops_materializeRound accum

theorem takes_readBe16 (high low : UInt8) :
    Takes readBe16 [high, low] (word high low) :=
  (@Takes.readExact _ _ _ 2 [high, low] rfl).map natOfBytes

theorem materializeFrom_eot (rest : List UInt8) :
    materializeFrom room remove64k accum ⟨eotBytes ++ rest, own⟩ =
      .ok accum ⟨rest, own⟩ := by
  have hround : materializeRound room remove64k accum
      ⟨[0, 12] ++ rest, own⟩ = _ := (takes_readBe16 0 12).bind_eq rest own
  rw [materializeFrom, forever_eq proceeds_materializeRound, eotBytes, hround]
  rfl

theorem materializeFrom_done (rest : List UInt8) :
    materializeFrom room remove64k accum ⟨[0, 15] ++ rest, own⟩ =
      match drainBytes 22 ⟨rest, own⟩ with
      | .ok _ after => materializeFrom room remove64k accum after
      | .error error after => .error error after := by
  have hround : materializeRound room remove64k accum
      ⟨[0, 15] ++ rest, own⟩ = ((fun _ => .inl accum) <$> drainBytes 22 :
        OctetReader (List UInt8 ⊕ List UInt8)) ⟨rest, own⟩ :=
    (takes_readBe16 0 15).bind_eq rest own
  rw [materializeFrom, forever_eq proceeds_materializeRound, hround, map_apply]
  cases drainBytes 22 ⟨rest, own⟩ <;> rfl

theorem drainBytes_short {count : Nat} {state : Incoming (List Look)}
    (hshort : state.unread.length < count) :
    drainBytes count state = .error .ioError ⟨[], state.own⟩ := by
  unfold drainBytes readOctets
  rw [map_apply, readExact_short hshort]

theorem drainBytes_long {count : Nat} {state : Incoming (List Look)}
    (hlong : count ≤ state.unread.length) :
    drainBytes count state = .ok () ⟨state.unread.drop count, state.own⟩ := by
  have hread : readOctets count state =
      .ok (state.unread.take count) ⟨state.unread.drop count, state.own⟩ :=
    if_pos hlong
  unfold drainBytes
  rw [map_apply, hread]

/-- Twenty-two octets are those of a DONE with long row ids. -/
theorem materialize_done_iff :
    Leaves (materializeFrom room remove64k accum
        ⟨replyEnd longRowId done ++ later, own⟩) later ↔
      longRowId = true := by
  rw [replyEnd, List.append_assoc, materializeFrom_done]
  cases longRowId with
  | true =>
      refine iff_of_true ?_ rfl
      have htakes : Takes (drainBytes 22) (doneBytes true done) () :=
        (Takes.readExact (by simp [doneBytes])).map _
      rw [List.append_assoc, htakes]
      dsimp only
      rw [materializeFrom_eot]
      exact ⟨rfl, fun _ h => (by cases h)⟩
  | false =>
      refine iff_of_false ?_ (by decide)
      have hlength : (doneBytes false done ++ eotBytes ++ later).length =
          16 + later.length := by
        simp [doneBytes, eotBytes]
        omega
      by_cases hshort : later.length < 6
      · rw [drainBytes_short (by simp only [hlength]; omega)]
        exact fun h => h.2 _ rfl
      · rw [drainBytes_long (by simp only [hlength]; omega)]
        rintro ⟨hunread, -⟩
        have hsuffix := (@drops_materializeFrom remove64k room accum).suffix
          ⟨(doneBytes false done ++ eotBytes ++ later).drop 22, own⟩
        have hle := hsuffix.length_le
        rw [hunread, List.length_drop, hlength] at hle
        omega

end Libsqli.Sblob
