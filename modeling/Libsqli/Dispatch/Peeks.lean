import Libsqli.Dispatch.Messages

namespace Libsqli.Dispatch

open Libsqli.Data.Bytes
open Libsqli.Data.Program
open Libsqli.Data.Stream
open Libsqli.Octets
open Libsqli.Receive

variable {sizes : Sizes} {caps : Capabilities} {message : Message}
  {messages rest : List Message} {unread : List UInt8} {looks : List Look}

/-! What the peeks of the loop make of the messages behind. -/

/-- Nothing that follows a DONE is taken for its optional tail. -/
def TailFree (caps : Capabilities) : List Message → Prop
  | [] => True
  | next :: rest => opcodeOf next ∈ likelyOpcodes ∧
      (opcodeOf next = 0 → 8 ≤ (wireBytes caps (next :: rest)).length →
        natOfBytes (((wireBytes caps (next :: rest)).drop 6).take 2) ∉
          likelyOpcodes)

/-- Nothing that follows a message is taken for a part of it. -/
def Clear (caps : Capabilities) (rest : List Message) : Message → Prop
  | .done _ => TailFree caps rest
  | .insertdone _ => ∀ next ∈ rest.head?, opcodeOf next ∈ insertdoneStops
  | .err _ => ∀ flags, rest.head? = some (.dbopenFlags flags) →
      flags.toNat / 256 ≠ Octets.Opcode.eot
  | _ => True

/-- Messages that are laid out as the client reads them, each clear of the ones
behind it. -/
inductive Framed (sizes : Sizes) (caps : Capabilities) : List Message → Prop where
  | nil : Framed sizes caps []
  | cons {message : Message} {rest : List Message}
      (hfits : Fits sizes caps message) (hclear : Clear caps rest message)
      (hrest : Framed sizes caps rest) : Framed sizes caps (message :: rest)

theorem Framed.suffix (hframed : Framed sizes caps messages)
    (hsuffix : rest <:+ messages) : Framed sizes caps rest := by
  induction hframed with
  | nil => exact List.suffix_nil.mp hsuffix ▸ .nil
  | cons hfits hclear hrest ih =>
      rcases List.suffix_cons_iff.mp hsuffix with rfl | hsuffix
      · exact .cons hfits hclear hrest
      · exact ih hsuffix

/-- A peek that looks past the read buffer leaves a single octet in it. -/
def Near (looks : List Look) : Prop := ∀ look ∈ looks, look.behind ≤ 1

theorem Near.tail {look : Look} (hnear : Near (look :: looks)) : Near looks :=
  fun other member => hnear other (List.mem_cons_of_mem _ member)

theorem near_nil : Near [] := nofun

theorem opcodeOf_lt (message : Message) : opcodeOf message < 65536 := by
  cases message with
  | unknown opcode => exact opcode.toNat_lt
  | _ => exact Nat.le_of_ble_eq_true rfl

theorem bigEndian_two (value : Nat) :
    bigEndian 2 value = [UInt8.ofNat (value / 256 % 256),
      UInt8.ofNat (value % 256)] := by
  simp [bigEndian, Data.Radix.toBigEndian]

theorem length_wireBytes_cons (message : Message) (rest : List Message) :
    2 ≤ (wireBytes caps (message :: rest)).length := by
  rw [wireBytes_cons, List.length_append, length_bigEndian]
  omega

theorem take_two_wireBytes (message : Message) (rest : List Message) :
    (wireBytes caps (message :: rest)).take 2 =
      bigEndian 2 (opcodeOf message) := by
  rw [wireBytes_cons]
  exact List.take_left' (length_bigEndian 2 _)

theorem natOfBytes_opcode (message : Message) :
    natOfBytes (bigEndian 2 (opcodeOf message)) = opcodeOf message :=
  natOfBytes_bigEndian_of_lt (opcodeOf_lt message)

/-- A peek shows the beginning of what is unread. -/
theorem peekBytes_apply (count : Nat) (unread : List UInt8)
    (looks : List Look) :
    ∃ seen later, seen ≤ count ∧ (Near looks → Near later) ∧
      peekBytes count ⟨unread, looks⟩ =
        .ok (unread.take seen) ⟨unread, later⟩ := by
  cases looks with
  | nil => exact ⟨0, [], Nat.zero_le _, id, rfl⟩
  | cons look looks =>
      exact ⟨min look.seen count, looks, Nat.min_le_right _ _, Near.tail, rfl⟩

/-- Two octets, if they are seen, are the opcode of the next message. -/
theorem peek_opcode {seen : Nat} (hseen : seen ≤ 2) :
    ((wireBytes caps messages).take seen).length ≠ 2 ∨
      ∃ next rest, messages = next :: rest ∧
        (wireBytes caps messages).take seen = bigEndian 2 (opcodeOf next) := by
  cases messages with
  | nil =>
      left
      simp
  | cons next rest =>
      by_cases hshort : seen < 2
      · left
        rw [List.length_take]
        omega
      · obtain rfl : seen = 2 := by omega
        exact .inr ⟨next, rest, rfl, take_two_wireBytes next rest⟩

/-- A part of the loop that peeks at octets and takes none. -/
def Looks (program : OctetReader Unit) (unread : List UInt8) : Prop :=
  ∀ looks, Near looks → ∃ later, Near later ∧
    program ⟨unread, looks⟩ = .ok () ⟨unread, later⟩

theorem Looks.pure (unread : List UInt8) : Looks (Pure.pure ()) unread :=
  fun looks hnear => ⟨looks, hnear, rfl⟩

theorem Looks.peek {count : Nat} {next : List UInt8 → OctetReader Unit}
    (hnext : ∀ seen ≤ count, Looks (next (unread.take seen)) unread) :
    Looks (peekBytes count >>= next) unread := by
  intro looks hnear
  obtain ⟨seen, later, hseen, hlater, hpeek⟩ :=
    peekBytes_apply count unread looks
  obtain ⟨last, hlast, hrun⟩ := hnext seen hseen later (hlater hnear)
  refine ⟨last, hlast, ?_⟩
  rw [bind_apply, hpeek]
  exact hrun

theorem looks_doneTail (hfree : TailFree caps messages) :
    Looks doneTail (wireBytes caps messages) := by
  refine Looks.peek fun seen hseen => ?_
  unfold tailBehind
  rcases @peek_opcode caps messages seen hseen with
    hshort | ⟨next, rest, rfl, hpeek⟩
  · rw [if_pos hshort]
    exact Looks.pure _
  · obtain ⟨hlikely, hzero⟩ := hfree
    rw [hpeek, natOfBytes_opcode, length_bigEndian, if_neg (by decide),
      if_neg (not_not.mpr hlikely)]
    by_cases hflags : opcodeOf next ≠ 0
    · rw [if_pos hflags]
      exact Looks.pure _
    · rw [if_neg hflags]
      refine Looks.peek fun seen hseen => ?_
      rw [if_neg]
      · exact Looks.pure _
      rintro ⟨hlength, hword⟩
      have hwhole : (wireBytes caps (next :: rest)).take seen =
          (wireBytes caps (next :: rest)).take 8 := by
        rw [List.length_take] at hlength
        obtain rfl : seen = 8 := by omega
        rfl
      rw [hwhole] at hlength hword
      rw [List.length_take] at hlength
      refine hzero (not_not.mp hflags) (by omega) ?_
      rwa [List.drop_take] at hword

theorem looks_insertdoneTail (words : Nat)
    (hstops : ∀ next ∈ messages.head?, opcodeOf next ∈ insertdoneStops) :
    Looks (insertdoneTail words) (wireBytes caps messages) := by
  cases words with
  | zero => exact Looks.pure _
  | succ words =>
      refine Looks.peek fun seen hseen => ?_
      rw [if_pos]
      · exact Looks.pure _
      rcases @peek_opcode caps messages seen hseen with
        hshort | ⟨next, rest, rfl, hpeek⟩
      · exact .inl hshort
      · right
        rw [hpeek, natOfBytes_opcode]
        exact hstops next rfl

end Libsqli.Dispatch
