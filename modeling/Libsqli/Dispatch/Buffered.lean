import Libsqli.Dispatch.Peeks

namespace Libsqli.Dispatch

open Libsqli.Data.Program
open Libsqli.Data.Stream
open Libsqli.Octets

/-! The read buffer of a connection, and the octets behind it. -/

/-- The octets that will arrive, and how many of them each call finds there. -/
structure Socket where
  inFlight : List UInt8
  finds : Nat → Nat

namespace Socket

def called (socket : Socket) (taken : Nat) : Socket :=
  ⟨socket.inFlight.drop taken, fun index => socket.finds (index + 1)⟩

/-- How many octets a read takes: it waits for the first one. -/
def readable (socket : Socket) (count : Nat) : Nat :=
  min count (max 1 (socket.finds 0))

/-- `sqli_tcp_read_some`; it fails when nothing arrives any more. -/
def tcpReadSome (socket : Socket) (count : Nat) :
    Option (List UInt8 × Socket) :=
  if socket.inFlight = [] then none
  else some (socket.inFlight.take (socket.readable count),
    socket.called (socket.readable count))

/-- `sqli_tcp_peek` -/
def tcpPeek (socket : Socket) (count : Nat) : List UInt8 × Socket :=
  (socket.inFlight.take (min (socket.finds 0) count), socket.called 0)

end Socket

/-- `read_buf`, of which the octets from `pos` to `len` have not been read. -/
structure ReadBuffer where
  octets : List UInt8
  pos : Nat
  len : Nat
  pos_le : pos ≤ len
  len_le : len ≤ octets.length
  cap_pos : 0 < octets.length

namespace ReadBuffer

def held (buffer : ReadBuffer) : List UInt8 :=
  (buffer.octets.take buffer.len).drop buffer.pos

theorem length_held (buffer : ReadBuffer) :
    buffer.held.length = buffer.len - buffer.pos := by
  rw [held, List.length_drop, List.length_take,
    Nat.min_eq_left buffer.len_le]

theorem overwritten_le (octets bytes : List UInt8) :
    bytes.length ≤ (bytes ++ octets.drop bytes.length).length := by
  rw [List.length_append]
  omega

theorem overwritten_pos (octets bytes : List UInt8)
    (hoctets : 0 < octets.length) :
    0 < (bytes ++ octets.drop bytes.length).length := by
  rw [List.length_append, List.length_drop]
  omega

/-- What a read of the socket puts at the beginning of the buffer. -/
def refilled (buffer : ReadBuffer) (bytes : List UInt8) : ReadBuffer where
  octets := bytes ++ buffer.octets.drop bytes.length
  pos := 0
  len := bytes.length
  pos_le := Nat.zero_le _
  len_le := overwritten_le buffer.octets bytes
  cap_pos := overwritten_pos buffer.octets bytes buffer.cap_pos

theorem held_refilled (buffer : ReadBuffer) (bytes : List UInt8) :
    (buffer.refilled bytes).held = bytes := by
  rw [held]
  exact List.take_left

theorem advanced_le (buffer : ReadBuffer) (count : Nat) :
    buffer.pos + min (buffer.len - buffer.pos) count ≤ buffer.len := by
  have hpos := buffer.pos_le
  omega

/-- The position behind the octets that are taken. -/
def advanced (buffer : ReadBuffer) (count : Nat) : ReadBuffer :=
  { buffer with
    pos := buffer.pos + min (buffer.len - buffer.pos) count
    pos_le := buffer.advanced_le count }

theorem held_advanced (buffer : ReadBuffer) (count : Nat) :
    (buffer.advanced count).held = buffer.held.drop count := by
  unfold held advanced
  rw [List.drop_drop]
  dsimp only
  rcases Nat.le_total (buffer.len - buffer.pos) count with hall | hsome
  · rw [Nat.min_eq_left hall, List.drop_of_length_le, List.drop_of_length_le]
    all_goals
      rw [List.length_take]
      have hpos := buffer.pos_le
      omega
  · rw [Nat.min_eq_right hsome]

end ReadBuffer

/-- A connection as far as it is read from. -/
structure Feed where
  buffer : ReadBuffer
  socket : Socket

namespace Feed

/-- What has not been read, be it in the buffer or behind it. -/
def unread (feed : Feed) : List UInt8 := feed.buffer.held ++ feed.socket.inFlight

/-- The buffer is filled again when it is used up. -/
def filled (feed : Feed) : Option Feed :=
  if feed.buffer.len - feed.buffer.pos = 0 then
    match feed.socket.tcpReadSome feed.buffer.octets.length with
    | none => none
    | some (bytes, socket) => some ⟨feed.buffer.refilled bytes, socket⟩
  else some feed

def advanced (feed : Feed) (count : Nat) : Feed :=
  { feed with buffer := feed.buffer.advanced count }

/-- The loop of `read_exact`; each round copies an octet at least. -/
def readLoop : Nat → Nat → Feed → Status × List UInt8 × Feed
  | _, 0, feed => (.ok, [], feed)
  | 0, _ + 1, feed => (.ioError, [], feed)
  | rounds + 1, need + 1, feed =>
      match feed.filled with
      | none => (.ioError, [], feed)
      | some feed =>
          let part := feed.buffer.held.take (need + 1)
          let later := readLoop rounds (need + 1 - part.length)
            (feed.advanced (need + 1))
          (later.1, part ++ later.2.1, later.2.2)

/-- `read_exact` -/
def readExact (feed : Feed) (count : Nat) : Status × List UInt8 × Feed :=
  readLoop count count feed

/-- `sqli_peek_bytes` -/
def peekBytes (feed : Feed) (count : Nat) : List UInt8 × Feed :=
  if feed.buffer.held = [] then
    ((feed.socket.tcpPeek count).1,
      { feed with socket := (feed.socket.tcpPeek count).2 })
  else (feed.buffer.held.take count, feed)

/-- The peek of `sqli_receive_error`, past an octet that is left in the buffer. -/
def peekEnd (feed : Feed) : List UInt8 × Feed :=
  if 2 ≤ feed.buffer.held.length then (feed.buffer.held.take 2, feed)
  else
    ((feed.socket.tcpPeek 2).1,
      { feed with socket := (feed.socket.tcpPeek 2).2 })

theorem unread_advanced (feed : Feed) (count : Nat) :
    (feed.advanced count).unread =
      feed.unread.drop (min count feed.buffer.held.length) := by
  unfold unread advanced
  rw [ReadBuffer.held_advanced,
    List.drop_append_of_le_length (Nat.min_le_right _ _)]
  rcases Nat.le_total count feed.buffer.held.length with hsome | hall
  · rw [Nat.min_eq_left hsome]
  · rw [Nat.min_eq_right hall, List.drop_of_length_le hall,
      List.drop_of_length_le (Nat.le_refl _)]

theorem filled_none {feed : Feed} (hfilled : feed.filled = none) :
    feed.unread = [] := by
  unfold filled Socket.tcpReadSome at hfilled
  by_cases hempty : feed.buffer.len - feed.buffer.pos = 0
  · rw [if_pos hempty] at hfilled
    by_cases hflight : feed.socket.inFlight = []
    · have hheld : feed.buffer.held = [] := List.length_eq_zero_iff.mp
        (feed.buffer.length_held.trans hempty)
      rw [unread, hheld, hflight, List.append_nil]
    · rw [if_neg hflight] at hfilled
      cases hfilled
  · rw [if_neg hempty] at hfilled
    cases hfilled

/-- Filling the buffer reads nothing, and leaves an octet to be read. -/
theorem filled_some {feed after : Feed} (hfilled : feed.filled = some after) :
    after.unread = feed.unread ∧ 0 < after.buffer.held.length := by
  unfold filled Socket.tcpReadSome at hfilled
  by_cases hempty : feed.buffer.len - feed.buffer.pos = 0
  · rw [if_pos hempty] at hfilled
    have hheld : feed.buffer.held = [] := List.length_eq_zero_iff.mp
      (feed.buffer.length_held.trans hempty)
    by_cases hflight : feed.socket.inFlight = []
    · rw [if_pos hflight] at hfilled
      cases hfilled
    · rw [if_neg hflight] at hfilled
      cases hfilled
      have hsome := List.length_pos_iff.mpr hflight
      have hcap := feed.buffer.cap_pos
      unfold unread
      rw [ReadBuffer.held_refilled, hheld, List.nil_append]
      refine ⟨List.take_append_drop _ _, ?_⟩
      rw [List.length_take, Socket.readable]
      omega
  · rw [if_neg hempty] at hfilled
    cases hfilled
    rw [ReadBuffer.length_held]
    exact ⟨rfl, Nat.pos_of_ne_zero hempty⟩

/-- Whatever the reads of the socket find, the octets come in their order. -/
theorem readLoop_eq {rounds need : Nat} (hrounds : need ≤ rounds)
    (feed : Feed) :
    ∃ after, after.unread = feed.unread.drop need ∧
      readLoop rounds need feed =
        (if need ≤ feed.unread.length then .ok else .ioError,
          feed.unread.take need, after) := by
  induction rounds generalizing need feed with
  | zero =>
      obtain rfl := Nat.le_zero.mp hrounds
      exact ⟨feed, rfl, rfl⟩
  | succ rounds ih =>
      cases need with
      | zero => exact ⟨feed, rfl, rfl⟩
      | succ need =>
          cases hfilled : feed.filled with
          | none =>
              have hunread := filled_none hfilled
              rw [readLoop, hfilled, hunread]
              exact ⟨feed, hunread, rfl⟩
          | some ready =>
              obtain ⟨hunread, hheld⟩ := filled_some hfilled
              rw [readLoop, hfilled, ← hunread]
              dsimp only
              have hpart : ready.buffer.held.take (need + 1) =
                  ready.unread.take (min (need + 1)
                    ready.buffer.held.length) := by
                rw [unread, List.take_append_of_le_length
                  (Nat.min_le_right _ _), ← List.take_take,
                  List.take_length]
              have hlength : (ready.buffer.held.take (need + 1)).length =
                  min (need + 1) ready.buffer.held.length :=
                List.length_take
              have hbound : ready.buffer.held.length ≤ ready.unread.length := by
                rw [unread, List.length_append]
                omega
              have hadvanced := ready.unread_advanced (need + 1)
              generalize min (need + 1) ready.buffer.held.length = taken
                at hpart hlength hadvanced
              rw [List.length_take] at hlength
              have htaken : taken ≤ need + 1 := by omega
              obtain ⟨after, hafter, hloop⟩ := ih
                (show need + 1 - taken ≤ rounds by omega)
                (ready.advanced (need + 1))
              rw [hadvanced] at hafter hloop
              have henough : need + 1 - taken ≤ ready.unread.length - taken ↔
                  need + 1 ≤ ready.unread.length := by omega
              refine ⟨after, ?_, ?_⟩
              · rw [hafter, List.drop_drop]
                congr 1
                omega
              · rw [List.length_take, hlength, hloop, hpart, List.length_drop]
                simp only [henough]
                rw [← List.take_add, Nat.add_sub_cancel' htaken]

/-- `read_exact` reads what there is to read, wherever it is held. -/
theorem readExact_eq (feed : Feed) (count : Nat) :
    ∃ after, after.unread = feed.unread.drop count ∧
      feed.readExact count =
        (if count ≤ feed.unread.length then .ok else .ioError,
          feed.unread.take count, after) :=
  readLoop_eq (Nat.le_refl count) feed

/-- A peek shows a beginning of what is unread. -/
theorem peekBytes_eq (feed : Feed) (count : Nat) :
    ∃ seen after, after.unread = feed.unread ∧
      feed.peekBytes count = (feed.unread.take (min seen count), after) := by
  unfold peekBytes
  by_cases hheld : feed.buffer.held = []
  · rw [if_pos hheld]
    refine ⟨feed.socket.finds 0,
      { feed with socket := (feed.socket.tcpPeek count).2 }, rfl, ?_⟩
    rw [unread, hheld, List.nil_append]
    rfl
  · rw [if_neg hheld]
    refine ⟨feed.buffer.held.length, feed, rfl, ?_⟩
    rw [unread, List.take_append_of_le_length (Nat.min_le_left _ _),
      Nat.min_comm, ← List.take_take, List.take_length]

theorem peekEnd_eq (feed : Feed) :
    ∃ look : Look, look.behind ≤ 1 ∧ ∃ after, after.unread = feed.unread ∧
      feed.peekEnd =
        ((feed.unread.drop look.behind).take (min look.seen 2), after) := by
  unfold peekEnd
  by_cases hheld : 2 ≤ feed.buffer.held.length
  · rw [if_pos hheld]
    refine ⟨⟨0, 2⟩, Nat.zero_le _, feed, rfl, ?_⟩
    rw [List.drop_zero, Nat.min_self, unread,
      List.take_append_of_le_length hheld]
  · rw [if_neg hheld]
    have hbehind : feed.buffer.held.length ≤ 1 := by omega
    refine ⟨⟨feed.buffer.held.length, feed.socket.finds 0⟩, hbehind,
      { feed with socket := (feed.socket.tcpPeek 2).2 }, rfl, ?_⟩
    rw [unread]
    dsimp only
    rw [List.drop_left]
    rfl

end Feed

/-! Any program that reads and peeks, what it does next being up to what it has
seen. -/

inductive Dialogue (α : Type) where
  | done (value : α)
  | failed (status : Status)
  | read (count : Nat) (next : Status → List UInt8 → Dialogue α)
  | peek (count : Nat) (next : List UInt8 → Dialogue α)
  | peekEnd (next : List UInt8 → Dialogue α)

namespace Dialogue

/-- With the read buffer. -/
def overFeed : Dialogue α → EStateM Status Feed α
  | .done value => pure value
  | .failed status => throw status
  | .read count next => fun feed =>
      let answer := feed.readExact count
      (next answer.1 answer.2.1).overFeed answer.2.2
  | .peek count next => fun feed =>
      (next (feed.peekBytes count).1).overFeed (feed.peekBytes count).2
  | .peekEnd next => fun feed =>
      (next feed.peekEnd.1).overFeed feed.peekEnd.2

/-- Over the octets as they are modelled. -/
def overOctets : Dialogue α → OctetReader α
  | .done value => pure value
  | .failed status => throw status
  | .read count next => fun state =>
      if count ≤ state.unread.length then
        (next .ok (state.unread.take count)).overOctets
          { state with unread := state.unread.drop count }
      else
        (next .ioError state.unread).overOctets { state with unread := [] }
  | .peek count next => do
      let seen ← Octets.peekBytes count
      (next seen).overOctets
  | .peekEnd next => fun state =>
      match state.own with
      | [] => (next []).overOctets state
      | look :: looks =>
          (next ((state.unread.drop look.behind).take
            (min look.seen 2))).overOctets { state with own := looks }

theorem overOctets_read (count : Nat)
    (next : Status → List UInt8 → Dialogue α)
    (state : Incoming (List Look)) :
    (read count next).overOctets state =
      (next (if count ≤ state.unread.length then .ok else .ioError)
        (state.unread.take count)).overOctets
          { state with unread := state.unread.drop count } := by
  change (if count ≤ state.unread.length then _ else _) = _
  by_cases hcount : count ≤ state.unread.length
  · rw [if_pos hcount, if_pos hcount]
  · rw [if_neg hcount, if_neg hcount,
      List.take_of_length_le (Nat.le_of_not_le hcount),
      List.drop_of_length_le (Nat.le_of_not_le hcount)]

/-- With the read buffer a program does what it does over the octets that are
unread, its peeks finding what they find. -/
theorem overFeed_mirrors (dialogue : Dialogue α) (feed : Feed) :
    ∃ looks, Near looks ∧ ∀ later,
      dialogue.overOctets ⟨feed.unread, looks ++ later⟩ =
        match dialogue.overFeed feed with
        | .ok value after => .ok value ⟨after.unread, later⟩
        | .error status after => .error status ⟨after.unread, later⟩ := by
  induction dialogue generalizing feed with
  | done value => exact ⟨[], near_nil, fun later => rfl⟩
  | failed status => exact ⟨[], near_nil, fun later => rfl⟩
  | read count next ih =>
      obtain ⟨after, hafter, hread⟩ := feed.readExact_eq count
      obtain ⟨looks, hlooks, hnext⟩ := ih
        (if count ≤ feed.unread.length then .ok else .ioError)
        (feed.unread.take count) after
      refine ⟨looks, hlooks, fun later => ?_⟩
      rw [overOctets_read, overFeed]
      dsimp only
      rw [hread, ← hafter]
      exact hnext later
  | peek count next ih =>
      obtain ⟨seen, after, hafter, hpeek⟩ := feed.peekBytes_eq count
      obtain ⟨looks, hlooks, hnext⟩ :=
        ih (feed.unread.take (min seen count)) after
      refine ⟨⟨0, seen⟩ :: looks, ?_, fun later => ?_⟩
      · intro look hlook
        rcases List.mem_cons.mp hlook with rfl | hlook
        · exact Nat.zero_le 1
        · exact hlooks look hlook
      · have hseen := hnext later
        rw [hafter] at hseen
        rw [overFeed]
        dsimp only
        rw [hpeek]
        exact hseen
  | peekEnd next ih =>
      obtain ⟨look, hlook, after, hafter, hpeek⟩ := feed.peekEnd_eq
      obtain ⟨looks, hlooks, hnext⟩ := ih
        ((feed.unread.drop look.behind).take (min look.seen 2)) after
      refine ⟨look :: looks, ?_, fun later => ?_⟩
      · intro other hother
        rcases List.mem_cons.mp hother with rfl | hother
        · exact hlook
        · exact hlooks other hother
      · have hseen := hnext later
        rw [hafter] at hseen
        rw [overFeed, overOctets, List.cons_append]
        dsimp only
        rw [hpeek]
        exact hseen

end Dialogue

end Libsqli.Dispatch
