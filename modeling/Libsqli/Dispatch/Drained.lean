import Libsqli.Dispatch.Peeks

namespace Libsqli.Dispatch

open Libsqli.Data.Bytes
open Libsqli.Data.Program
open Libsqli.Data.Stream
open Libsqli.Octets
open Libsqli.Receive

variable {sizes : Sizes} {malloc : Nat → Bool} {caps : Capabilities}
  {context : Context} {start : Int} {message : Message}
  {messages rest : List Message} {own : Listener} {unread : List UInt8}

/-! What the loop over octets reads beside a message, as over messages. -/

/-- The scene of a listener; what the looks find is chosen as they are made. -/
def Listener.scene (own : Listener) (sights : Nat → Bool) : Scene :=
  ⟨sights, own.allocs, own.result, own.diagnostic⟩

/-- One more look in front of the later ones. -/
def lookThen (first : Bool) (later : Nat → Bool) : Nat → Bool
  | 0 => first
  | index + 1 => later index

theorem looked_of_looks {scene : Scene} {first : Bool} {later : Nat → Bool}
    (hlooks : scene.looks = lookThen first later) :
    scene.looked = { scene with looks := later } := by
  rw [Scene.looked, hlooks]
  rfl

/-- Memory can be had, and no peek leaves more than an octet unseen. -/
structure Ready (own : Listener) : Prop where
  near : Near own.looks
  allocs : own.allocs = fun _ => true

theorem Ready.of_looks (hready : Ready own) {later : List Look}
    (hlater : Near later) : Ready { own with looks := later } :=
  ⟨hlater, hready.allocs⟩

theorem Looks.heard {program : OctetReader Unit}
    (hlooks : Looks program unread) (hready : Ready own) :
    ∃ later, Near later ∧ Dispatch.heard program ⟨unread, own⟩ =
      .ok () ⟨unread, { own with looks := later }⟩ := by
  obtain ⟨later, hlater, hrun⟩ := hlooks own.looks hready.near
  refine ⟨later, hlater, ?_⟩
  unfold Dispatch.heard
  dsimp only
  rw [hrun]

theorem heard_peek (count : Nat) (hready : Ready own) (unread : List UInt8) :
    ∃ seen later, seen ≤ count ∧ Near later ∧
      heard (peekBytes count) ⟨unread, own⟩ =
        .ok (unread.take seen) ⟨unread, { own with looks := later }⟩ := by
  obtain ⟨seen, later, hseen, hlater, hpeek⟩ :=
    peekBytes_apply count unread own.looks
  refine ⟨seen, later, hseen, hlater hready.near, ?_⟩
  unfold heard
  dsimp only
  rw [hpeek]

/-! What is drained behind a DONE and behind an error. -/

theorem trailMessage_trails (hfits : Fits sizes caps message) :
    if message.trails then ∃ program,
        trailMessage (opcodeOf message) = some program ∧
          Takes (do
            let _ ← readBe16
            program) (messageBytes caps message) ()
      else trailMessage (opcodeOf message) = none := by
  cases message with
  | dbopenFlags flags =>
      refine ⟨_, rfl, (takes_readBe16 (opcodeOf_lt _)).bind ?_⟩
      exact (takes_readBe16 flags.toNat_lt).map _
  | cost rows cost =>
      exact ⟨_, rfl, (takes_readBe16 (opcodeOf_lt _)).bind
        (takes_receiveCost rows cost)⟩
  | info items =>
      exact ⟨_, rfl, (takes_readBe16 (opcodeOf_lt _)).bind (takes_drainInfo hfits)⟩
  | eot => exact ⟨_, rfl, (takes_readBe16 (opcodeOf_lt _)).bind (Takes.pure ())⟩
  | unknown opcode => cases hfits
  | _ => rfl

theorem Drops.heard {program : OctetReader α} {count : Nat}
    (hdrops : Drops count program) : Drops count (Dispatch.heard program) := by
  constructor
  · intro state
    have hsuffix := hdrops.suffix ⟨state.unread, state.own.looks⟩
    unfold Dispatch.heard
    cases hrun : program ⟨state.unread, state.own.looks⟩ with
    | ok value after =>
        rw [hrun] at hsuffix
        exact hsuffix
    | error status after =>
        rw [hrun] at hsuffix
        exact hsuffix
  · intro state value after hheard
    unfold Dispatch.heard at hheard
    cases hrun : program ⟨state.unread, state.own.looks⟩ with
    | ok found behind =>
        rw [hrun] at hheard
        cases hheard
        exact hdrops.length_le hrun
    | error status behind =>
        rw [hrun] at hheard
        cases hheard

theorem drops_peekBytes (count : Nat) : Drops 0 (peekBytes count) := by
  constructor
  · rintro ⟨unread, _ | ⟨look, looks⟩⟩ <;> exact List.suffix_rfl
  · rintro ⟨unread, _ | ⟨look, looks⟩⟩ value after hrun <;> cases hrun <;>
      exact Nat.le_refl _

theorem drops_trailMessage {opcode : Nat} {program : OctetReader Unit}
    (hmessage : trailMessage opcode = some program) : Drops 0 program := by
  unfold trailMessage at hmessage
  split at hmessage
  · cases hmessage
    exact Sblob.drops_receiveCost
  · split at hmessage
    · cases hmessage
      exact Sblob.drops_drainInfo
    · split at hmessage
      · cases hmessage
        exact Sblob.drops_readBe16.free.map _
      · split at hmessage
        · cases hmessage
          exact Drops.pure ()
        · cases hmessage

theorem drained_length {program : OctetReader Unit} {count : Nat}
    {state after : Incoming Listener} {next : Unit}
    (hdrops : Drops (count + 1) (heard program))
    (hrun : drained program state = .ok (.inl next) after) :
    after.unread.length < state.unread.length := by
  unfold drained at hrun
  cases hheard : heard program state with
  | ok value behind =>
      rw [hheard] at hrun
      cases hrun
      have hlength := hdrops.length_le hheard
      omega
  | error status behind =>
      rw [hheard] at hrun
      cases hrun

theorem proceeds_trailRound : Proceeds trailRound := by
  intro value state next after hrun
  unfold trailRound at hrun
  obtain ⟨peek, middle, hpeek, hrun⟩ := bind_eq_ok.mp hrun
  have hpeeked := (Drops.heard (drops_peekBytes 2)).length_le hpeek
  by_cases hshort : peek.length ≠ 2
  · rw [if_pos hshort] at hrun
    cases hrun
  · rw [if_neg hshort] at hrun
    cases hmessage : trailMessage (natOfBytes peek) with
    | none =>
        rw [hmessage] at hrun
        cases hrun
    | some program =>
        rw [hmessage] at hrun
        have hdrops := Drops.heard (Sblob.drops_readBe16.then fun _ =>
          drops_trailMessage hmessage)
        exact (drained_length hdrops hrun).trans_le hpeeked

theorem drained_of_ok {program : OctetReader Unit}
    {state after : Incoming Listener}
    (hrun : heard program state = .ok () after) :
    drained program state = .ok (.inl ()) after := by
  unfold drained
  rw [hrun]

/-- The drain leaves the messages that the drain over messages leaves. -/
theorem drainTrail_mirrors (hframed : Framed sizes caps messages)
    (hready : Ready own) :
    ∃ rest looks, Near looks ∧
      drainTrail ⟨wireBytes caps messages, own⟩ =
        .ok () ⟨wireBytes caps rest, { own with looks := looks }⟩ ∧
      ∀ later, ∃ sights, ∀ scene : Scene, scene.looks = sights →
        Receive.drainTrail messages scene =
          (rest, { scene with looks := later }) := by
  induction hframed generalizing own with
  | nil =>
      obtain ⟨seen, later, hseen, hlater, hpeek⟩ := heard_peek 2 hready []
      refine ⟨[], later, hlater, ?_, fun later =>
        ⟨lookThen false later, ?_⟩⟩
      rotate_left
      · rintro scene hscene
        rw [Receive.drainTrail, looked_of_looks hscene]
      have hround : trailRound () ⟨[], own⟩ =
          .ok (.inr ()) ⟨[], { own with looks := later }⟩ := by
        unfold trailRound
        rw [bind_apply, hpeek]
        simp only [List.take_nil]
        rfl
      unfold drainTrail
      rw [wireBytes_nil, forever_eq proceeds_trailRound, hround]
  | @cons message rest hfits hclear hrest ih =>
      obtain ⟨seen, later, hseen, hlater, hpeek⟩ :=
        heard_peek 2 hready (wireBytes caps (message :: rest))
      have hready' : Ready { own with looks := later } := hready.of_looks hlater
      unfold drainTrail
      rw [forever_eq proceeds_trailRound]
      have htrails := trailMessage_trails hfits
      rcases @peek_opcode caps (message :: rest) seen hseen with
        hshort | ⟨next, behind, hcons, hword⟩
      · have hround : trailRound () ⟨wireBytes caps (message :: rest), own⟩ =
            .ok (.inr ()) ⟨wireBytes caps (message :: rest),
              { own with looks := later }⟩ := by
          unfold trailRound
          rw [bind_apply, hpeek]
          dsimp only
          rw [if_pos hshort]
          rfl
        rw [hround]
        refine ⟨message :: rest, later, hlater, rfl, fun later =>
          ⟨lookThen false later, ?_⟩⟩
        intro scene hscene
        rw [Receive.drainTrail, looked_of_looks hscene, hscene]
        rfl
      · obtain ⟨rfl, rfl⟩ := List.cons.inj hcons
        cases htrail : message.trails with
        | false =>
            rw [htrail, if_neg Bool.false_ne_true] at htrails
            have hround : trailRound () ⟨wireBytes caps (message :: rest), own⟩ =
                .ok (.inr ()) ⟨wireBytes caps (message :: rest),
                  { own with looks := later }⟩ := by
              unfold trailRound
              rw [bind_apply, hpeek]
              dsimp only
              rw [hword, length_bigEndian, if_neg (by decide),
                natOfBytes_opcode, htrails]
              rfl
            rw [hround]
            refine ⟨message :: rest, later, hlater, rfl, fun later =>
              ⟨lookThen false later, ?_⟩⟩
            intro scene hscene
            rw [Receive.drainTrail, htrail, looked_of_looks hscene,
              Bool.and_false, if_neg Bool.false_ne_true]
        | true =>
            rw [htrail, if_pos rfl] at htrails
            obtain ⟨program, hprogram, htakes⟩ := htrails
            have hround : trailRound () ⟨wireBytes caps (message :: rest), own⟩ =
                .ok (.inl ()) ⟨wireBytes caps rest,
                  { own with looks := later }⟩ := by
              have hdrained := Takes.heard htakes (wireBytes caps rest)
                { own with looks := later }
              unfold trailRound
              rw [bind_apply, hpeek]
              dsimp only
              rw [hword, length_bigEndian, if_neg (by decide),
                natOfBytes_opcode, hprogram]
              exact drained_of_ok hdrained
            rw [hround]
            obtain ⟨left, last, hlast, hrun, hleft⟩ := ih hready'
            refine ⟨left, last, hlast, hrun, fun later => ?_⟩
            obtain ⟨sights, hdrained⟩ := hleft later
            refine ⟨lookThen true sights, ?_⟩
            intro scene hscene
            rw [Receive.drainTrail, htrail, looked_of_looks hscene, hscene]
            exact hdrained _ rfl

theorem eot_of_opcode (hfits : Fits sizes caps message)
    (hopcode : opcodeOf message = Octets.Opcode.eot) : message = .eot := by
  cases message with
  | eot => rfl
  | unknown opcode => cases hfits
  | _ => cases hopcode

/-- An opcode whose second octet is zero is that of DBOPEN_FLAGS. -/
theorem flags_of_opcode (hfits : Fits sizes caps message)
    (hzero : opcodeOf message % 256 = 0) :
    ∃ flags, message = .dbopenFlags flags := by
  cases message with
  | dbopenFlags flags => exact ⟨flags, rfl⟩
  | unknown opcode => cases hfits
  | _ => cases hzero

theorem ofNat_mod_inj {left right : Nat}
    (hsame : UInt8.ofNat (left % 256) = UInt8.ofNat (right % 256)) :
    left % 256 = right % 256 := by
  have hvalue := congrArg UInt8.toNat hsame
  rwa [UInt8.toNat_ofNat_of_lt' (Nat.mod_lt _ (by decide)),
    UInt8.toNat_ofNat_of_lt' (Nat.mod_lt _ (by decide))] at hvalue

/-- What the peek behind an error takes for an end is one. -/
theorem eot_of_peek (hframed : Framed sizes caps messages)
    (hflags : ∀ flags, messages.head? = some (.dbopenFlags flags) →
      flags.toNat / 256 ≠ Octets.Opcode.eot)
    {behind seen : Nat} (hbehind : behind ≤ 1)
    (hpeek : ((wireBytes caps messages).drop behind).take (min seen 2) =
      bigEndian 2 Octets.Opcode.eot) :
    behind = 0 ∧ ∃ rest, messages = .eot :: rest := by
  have htwo : min seen 2 = 2 := by
    have hlength := congrArg List.length hpeek
    rw [List.length_take, length_bigEndian] at hlength
    omega
  rw [htwo] at hpeek
  cases hframed with
  | nil =>
      rw [wireBytes_nil, List.drop_nil, List.take_nil] at hpeek
      exact absurd hpeek.symm (bigEndian_ne_nil (by decide) _)
  | @cons message rest hfits hclear hrest =>
      rcases Nat.le_one_iff_eq_zero_or_eq_one.mp hbehind with rfl | rfl
      · rw [List.drop_zero, take_two_wireBytes] at hpeek
        have hopcode := congrArg natOfBytes hpeek
        rw [natOfBytes_opcode] at hopcode
        exact ⟨rfl, rest, by rw [eot_of_opcode hfits hopcode]⟩
      · rw [wireBytes_cons, bigEndian_two, bigEndian_two] at hpeek
        have hlow := congrArg List.head? hpeek
        have hzero : opcodeOf message % 256 = 0 :=
          ofNat_mod_inj (Option.some.inj hlow)
        obtain ⟨flags, rfl⟩ := flags_of_opcode hfits hzero
        have hhigh := congrArg (·[1]?) hpeek
        have hpayload : payloadBytes caps (.dbopenFlags flags) =
            [UInt8.ofNat (flags.toNat / 256 % 256),
              UInt8.ofNat (flags.toNat % 256)] := bigEndian_two flags.toNat
        rw [hpayload] at hhigh
        have htwelve : flags.toNat / 256 % 256 = 12 % 256 :=
          ofNat_mod_inj (Option.some.inj hhigh)
        have hlt := flags.toNat_lt
        refine absurd ?_ (hflags flags rfl)
        change flags.toNat / 256 = 12
        omega

theorem errorEnd_mirrors (hframed : Framed sizes caps messages)
    (hflags : ∀ flags, messages.head? = some (.dbopenFlags flags) →
      flags.toNat / 256 ≠ Octets.Opcode.eot) (hready : Ready own) :
    ∃ rest looks, Near looks ∧
      heard errorEnd ⟨wireBytes caps messages, own⟩ =
        .ok () ⟨wireBytes caps rest, { own with looks := looks }⟩ ∧
      ∀ later, ∃ sights, ∀ scene : Scene, scene.looks = sights →
        drainEot messages scene = (rest, { scene with looks := later }) := by
  have hkeeps : ∀ later, ∃ sights, ∀ scene : Scene, scene.looks = sights →
      drainEot messages scene = (messages, { scene with looks := later }) := by
    refine fun later => ⟨lookThen false later, fun scene hscene => ?_⟩
    unfold drainEot
    split
    · rw [looked_of_looks hscene, hscene]
      rfl
    · rw [looked_of_looks hscene]
  obtain ⟨looks, allocs, result, diagnostic⟩ := own
  cases looks with
  | nil => exact ⟨messages, [], near_nil, rfl, hkeeps⟩
  | cons look looks =>
      have hnear := hready.near
      by_cases hpeek :
          ((wireBytes caps messages).drop look.behind).take (min look.seen 2) =
            bigEndian 2 Octets.Opcode.eot
      · obtain ⟨-, rest, rfl⟩ := eot_of_peek hframed hflags
          (hnear look List.mem_cons_self) hpeek
        have hword : Takes readBe16 (messageBytes caps .eot)
            Octets.Opcode.eot := by
          have htakes := takes_readBe16 (opcodeOf_lt Message.eot)
          rwa [← List.append_nil (bigEndian 2 _)] at htakes
        have hread := Takes.heedless hword (wireBytes caps rest) looks
        refine ⟨rest, looks, hnear.tail, ?_, fun later =>
          ⟨lookThen true later, fun scene hscene => ?_⟩⟩
        · unfold heard errorEnd
          dsimp only
          rw [if_pos hpeek]
          rw [show wireBytes caps (.eot :: rest) =
            messageBytes caps .eot ++ wireBytes caps rest from rfl, hread]
        · unfold drainEot
          dsimp only
          rw [looked_of_looks hscene, hscene]
          rfl
      · refine ⟨messages, looks, hnear.tail, ?_, hkeeps⟩
        unfold heard errorEnd
        dsimp only
        rw [if_neg hpeek]

theorem receiveEot_mirrors (hready : Ready own) (rest : List Message) :
    ∃ after, Ready after ∧
      receiveEot context start ⟨wireBytes caps rest, own⟩ =
        .ok () ⟨wireBytes caps rest, after⟩ ∧
      ∀ later, ∃ sights, handleEot context start rest (own.scene sights) =
        .continue (after.scene later) := by
  have hsight {seen : Nat} (hseen : (wireBytes caps rest).take seen ≠ []) :
      rest ≠ [] := by
    rintro rfl
    exact hseen List.take_nil
  obtain ⟨seen, looks, -, hlooks, hfirst⟩ :=
    heard_peek 1 hready (wireBytes caps rest)
  unfold receiveEot
  rw [bind_apply, hfirst]
  dsimp only
  by_cases hseen : (wireBytes caps rest).take seen ≠ []
  · rw [if_pos hseen]
    refine ⟨_, hready.of_looks hlooks, rfl, fun later =>
      ⟨lookThen true later, ?_⟩⟩
    unfold handleEot
    rw [if_pos ⟨hsight hseen, rfl⟩]
    rfl
  rw [if_neg hseen]
  obtain ⟨again, last, -, hlast, hsecond⟩ :=
    heard_peek 1 (hready.of_looks hlooks) (wireBytes caps rest)
  rw [bind_apply, hsecond]
  dsimp only
  by_cases hagain : (wireBytes caps rest).take again ≠ []
  · rw [if_pos hagain]
    refine ⟨_, hready.of_looks hlast, rfl, fun later =>
      ⟨lookThen false (lookThen true later), ?_⟩⟩
    unfold handleEot
    have harrived : rest ≠ [] ∧
        (own.scene (lookThen false (lookThen true later))).looks 1 = true :=
      ⟨hsight hagain, rfl⟩
    rw [if_neg fun h => Bool.false_ne_true h.2, if_pos harrived]
    rfl
  · rw [if_neg hagain]
    refine ⟨{ own with
        looks := last
        result :=
          if canEndGroup context start own.result then endGroup own.result
          else own.result },
      ⟨hlast, hready.allocs⟩, rfl, fun later =>
        ⟨lookThen false (lookThen false later), ?_⟩⟩
    unfold handleEot
    rw [if_neg fun h => Bool.false_ne_true h.2,
      if_neg fun h => Bool.false_ne_true h.2]
    by_cases hend : canEndGroup context start own.result = true
    · rw [if_pos hend]
      exact if_pos hend
    · rw [if_neg hend]
      exact if_neg hend

end Libsqli.Dispatch
