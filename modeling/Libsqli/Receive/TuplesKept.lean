import Libsqli.Receive.TupleStorage
import Mathlib.Algebra.Order.Ring.Int

namespace Libsqli.Octets

open Libsqli.Data
open Libsqli.Data.Blocks
open Libsqli.Data.Bytes
open Libsqli.Data.Program
open Libsqli.Data.Stream

/-! Every tuple stays where its row points to. -/

variable {storage after : TupleStorage} {held : List (List UInt8)}
  {payload arrived : List UInt8} {pointer row : Int} {block : Block}
  {allocator : Allocator} {size index : Nat}

/-- The payload lies in the arena, behind the pointer. -/
def TupleStorage.Denotes (storage : TupleStorage) (pointer : Int)
    (payload : List UInt8) : Prop :=
  ∃ block, storage.arena = some block ∧
    Blocks.Denotes block storage.arenaLen pointer payload

def TupleStorage.ShowsRow (storage : TupleStorage) (index : Nat)
    (payload : List UInt8) : Prop :=
  ∃ pointer, storage.rows[index]? = some pointer ∧
    storage.rowLens[index]? = some payload.length ∧
    storage.Denotes pointer payload

/-- The rows are the payloads held. -/
structure Shows (storage : TupleStorage) (held : List (List UInt8)) :
    Prop where
  count_eq : storage.rowCount = held.length
  row : ∀ index payload, held[index]? = some payload →
    storage.ShowsRow index payload
  arena_cap : ∀ block, storage.arena = some block →
    block.octets.length = storage.arenaCap
  arena_len : ∀ block, storage.arena = some block →
    storage.arenaLen ≤ block.octets.length
  capacity : storage.rowCapacity = 0 ∨
    ∃ exponent ≤ 30, storage.rowCapacity = 2 ^ exponent
  count_le : storage.rowCount ≤ storage.rowCapacity
  rows_room : storage.rowCapacity ≤ storage.rows.length
  lens_room : storage.rowCapacity ≤ storage.rowLens.length

theorem Shows.clearRows (storage : TupleStorage) :
    Shows storage.clearRows [] where
  count_eq := rfl
  row := nofun
  arena_cap := nofun
  arena_len := nofun
  capacity := .inl rfl
  count_le := Int.le_refl 0
  rows_room := Int.le_refl 0
  lens_room := Int.le_refl 0

theorem Shows.empty : Shows .empty [] := Shows.clearRows .empty

theorem Shows.index_lt (hshows : Shows storage held)
    (hheld : held[index]? = some payload) : index < storage.rowCount := by
  rw [hshows.count_eq]
  exact (List.getElem?_eq_some_iff.mp hheld).1

/-- As many rows as fit if the arrays double from four to the last `int`. -/
theorem Shows.count_le_limit (hshows : Shows storage held) :
    held.length ≤ Receive.rowLimit := by
  have hcount := hshows.count_le
  rw [hshows.count_eq] at hcount
  unfold Receive.rowLimit
  rcases hshows.capacity with hzero | ⟨exponent, hexponent, hpower⟩
  · omega
  · have hle : (2 : Int) ^ exponent ≤ 2 ^ 30 :=
      pow_le_pow_right₀ (by omega) hexponent
    omega

/-! The arena. -/

theorem getElem?_rebased {rows : List Int} {count : Nat} {delta : Int}
    (hindex : index < count) (hrow : rows[index]? = some pointer) :
    (rebased rows count delta)[index]? = some (pointer + delta) := by
  have hlength : index < rows.length := (List.getElem?_eq_some_iff.mp hrow).1
  unfold rebased
  rw [List.getElem?_append_left (by
    rw [List.length_map, List.length_take]
    omega)]
  rw [List.getElem?_map, List.getElem?_take, if_pos hindex, hrow]
  rfl

theorem length_rebased (rows : List Int) (count : Nat) (delta : Int) :
    (rebased rows count delta).length = rows.length := by
  simp only [rebased, List.length_append, List.length_map, List.length_take,
    List.length_drop]
  omega

/-- Room for `size` octets more. -/
structure Roomy (storage : TupleStorage) (held : List (List UInt8))
    (block : Block) (size : Nat) : Prop where
  kept : Shows storage held
  arena_eq : storage.arena = some block
  room : storage.arenaLen + size ≤ block.octets.length

theorem growCapacityDoubling_le {current needed enough : Nat}
    (h : growCapacityDoubling current needed = some enough) :
    needed ≤ enough := by
  refine doubledTo_le ?_ h
  split <;> omega

theorem holds_growArena (hshows : Shows storage held) :
    Holds (· = storage) (growArena allocator (storage.arenaLen + size))
      (fun block after => Roomy after held block size)
      fun _ after => Shows after held := by
  rintro storage rfl
  unfold growArena
  dsimp only
  cases hcapacity : growCapacityDoubling
      (if 0 < storage.arenaCap then storage.arenaCap else 32768)
      (storage.arenaLen + size) with
  | none => exact hshows
  | some capacity =>
      have henough := growCapacityDoubling_le hcapacity
      dsimp only
      cases harena : allocator.arena capacity with
      | none => exact hshows
      | some given =>
          obtain ⟨base, fresh⟩ := given
          refine ⟨⟨hshows.count_eq, ?_, ?_, ?_, hshows.capacity,
            hshows.count_le, ?_, hshows.lens_room⟩, rfl, ?_⟩
          · intro index payload hheld
            obtain ⟨pointer, hrow, hlength, block, hblock, hdenotes⟩ :=
              hshows.row index payload hheld
            have hindex := hshows.index_lt hheld
            have hmoved := @Denotes.moved block
              ⟨base, resized block.octets fresh capacity⟩ _ _ _ hdenotes
              (take_resized (hshows.arena_len block hblock) (by omega))
            refine ⟨_, getElem?_rebased hindex hrow, hlength, _, rfl, ?_⟩
            rw [hblock, if_pos (by omega : 0 < storage.rowCount)]
            have hdelta : base + (storage.rows.headD 0 - block.base) -
                storage.rows.headD 0 = base - block.base := by
              omega
            rw [Option.getD_some, hdelta]
            exact hmoved
          · intro block hblock
            cases hblock
            exact length_resized
          · intro block hblock
            cases hblock
            rw [length_resized]
            exact Nat.le_trans (Nat.le_add_right _ _) henough
          · rw [length_rebased]
            exact hshows.rows_room
          · rw [length_resized]
            exact henough

theorem holds_reserve (size : Nat) :
    Holds (Shows · held) (reserve allocator size)
      (fun block after => Roomy after held block size)
      fun _ after => Shows after held := by
  intro storage hshows
  unfold reserve
  by_cases hsize : sizeMax - size < storage.arenaLen
  · rw [if_pos hsize]
    exact hshows
  · rw [if_neg hsize]
    cases harena : storage.arena with
    | none => exact holds_growArena hshows storage rfl
    | some block =>
        dsimp only
        by_cases hroom : storage.arenaCap < storage.arenaLen + size
        · rw [if_pos hroom]
          exact holds_growArena hshows storage rfl
        · rw [if_neg hroom]
          have hcap := hshows.arena_cap block harena
          exact ⟨hshows, harena, by omega⟩

/-! The payload. -/

/-- Octets written behind those in use leave the rows as they are. -/
theorem Roomy.written (hroomy : Roomy storage held block size) {used : Nat}
    {octets : List UInt8} (hoctets : octets.length ≤ size)
    (hused : storage.arenaLen ≤ used) (hsize : used ≤ storage.arenaLen + size) :
    Shows
      { storage with
        arena := some (block.overwrite storage.arenaLen octets)
        arenaLen := used } held := by
  obtain ⟨hshows, harena, hroom⟩ := hroomy
  have hlength : (block.overwrite storage.arenaLen octets).octets.length =
      block.octets.length := length_overwritten (by omega)
  refine ⟨hshows.count_eq, ?_, ?_, ?_, hshows.capacity, hshows.count_le,
    hshows.rows_room, hshows.lens_room⟩
  · intro index payload hheld
    obtain ⟨pointer, hrow, hsize, found, hfound, hdenotes⟩ :=
      hshows.row index payload hheld
    cases harena.symm.trans hfound
    exact ⟨pointer, hrow, hsize, _, rfl,
      (hdenotes.overwrite (by omega)).mono hused⟩
  · intro found hfound
    cases hfound
    exact hlength.trans (hshows.arena_cap block harena)
  · intro found hfound
    cases hfound
    rw [hlength]
    exact Nat.le_trans hsize hroom

/-- A payload in the arena for which there is no row yet. -/
structure Stored (storage : TupleStorage) (held : List (List UInt8))
    (row : Int) (payload : List UInt8) (size : Nat) : Prop where
  kept : Shows storage held
  denotes : storage.Denotes row payload
  length_eq : payload.length = size

theorem holds_readPayload :
    Holds (Sees arrived (Roomy · held block size)) (readPayload block size)
      (fun row => Sees (arrived.drop size)
        (Stored · held row (arrived.take size) size))
      fun _ state => Shows state.own held := by
  rintro ⟨unread, storage⟩ ⟨rfl, hroomy⟩
  have hlength := List.length_take_le size unread
  unfold readPayload
  dsimp only
  by_cases hsize : size ≤ unread.length
  · rw [if_pos hsize]
    have hfull : (unread.take size).length = size :=
      List.length_take_of_le hsize
    refine ⟨rfl, hroomy.written hlength (Nat.le_add_right _ _)
      (Nat.le_refl _), ⟨_, rfl, ?_⟩, hfull⟩
    have hused : storage.arenaLen ≤ block.octets.length :=
      Nat.le_trans (Nat.le_add_right _ _) hroomy.room
    have hdenotes := @denotes_overwrite block _ (unread.take size) hused
    rwa [hfull] at hdenotes
  · rw [if_neg hsize]
    exact hroomy.written hlength (Nat.le_refl _) (Nat.le_add_right _ _)

/-! The rows. -/

theorem elementBytes_div {exponent : Nat} (hexponent : exponent ≤ 30) :
    elementBytes (2 ^ exponent) / 8 = 2 ^ exponent := by
  unfold elementBytes
  have hle : (2 : Nat) ^ exponent ≤ 2 ^ 30 :=
    Nat.pow_le_pow_right (by omega) hexponent
  have hcast : ((2 : Int) ^ exponent) = ((2 ^ exponent : Nat) : Int) := by
    norm_cast
  rw [hcast]
  generalize 2 ^ exponent = count at hle ⊢
  omega

/-- The capacity after `capacity`. -/
theorem nextCapacity_cases {capacity : Int}
    (hcapacity : capacity = 0 ∨ ∃ exponent ≤ 30, capacity = 2 ^ exponent) :
    (∃ exponent ≤ 30, nextCapacity capacity = 2 ^ exponent ∧
      capacity < nextCapacity capacity) ∨
    2 ^ 63 ≤ elementBytes (nextCapacity capacity) := by
  rcases hcapacity with rfl | ⟨exponent, hexponent, rfl⟩
  · exact .inl ⟨2, by omega, rfl, by decide⟩
  · have hpos : (0 : Int) < 2 ^ exponent := by positivity
    have hnext : nextCapacity (2 ^ exponent) = toInt32 (2 ^ (exponent + 1)) := by
      rw [nextCapacity, if_neg (by omega), pow_succ]
    rcases Nat.lt_or_eq_of_le hexponent with hless | rfl
    · left
      have hle : (2 : Int) ^ (exponent + 1) ≤ 2 ^ 30 :=
        pow_le_pow_right₀ (by omega) hless
      have hdouble : (2 : Int) ^ (exponent + 1) = 2 ^ exponent * 2 :=
        pow_succ 2 exponent
      have hsame : toInt32 (2 ^ (exponent + 1)) = 2 ^ (exponent + 1) :=
        toInt32_eq_of_range (by omega) (by unfold int32Max; omega)
      refine ⟨exponent + 1, hless, hnext.trans hsame, ?_⟩
      rw [hnext, hsame]
      omega
    · right
      rw [hnext]
      decide

theorem Shows.resized_rows (hshows : Shows storage held) {count : Nat}
    (hcount : storage.rowCapacity ≤ count) (fresh : Nat → Int) :
    Shows { storage with rows := resized storage.rows fresh count } held := by
  refine ⟨hshows.count_eq, ?_, hshows.arena_cap, hshows.arena_len,
    hshows.capacity, hshows.count_le, ?_, hshows.lens_room⟩
  · intro index payload hheld
    obtain ⟨pointer, hrow, hlength, hdenotes⟩ :=
      hshows.row index payload hheld
    have hindex := hshows.index_lt hheld
    have hroom := hshows.count_le
    have hrows := hshows.rows_room
    exact ⟨pointer, (getElem?_resized (by omega) (by omega)).trans hrow,
      hlength, hdenotes⟩
  · simpa using hcount

theorem Shows.resized_lens (hshows : Shows storage held) {count : Nat}
    (hcount : storage.rowCapacity ≤ count) (fresh : Nat → Nat) :
    Shows { storage with rowLens := resized storage.rowLens fresh count }
      held := by
  refine ⟨hshows.count_eq, ?_, hshows.arena_cap, hshows.arena_len,
    hshows.capacity, hshows.count_le, hshows.rows_room, ?_⟩
  · intro index payload hheld
    obtain ⟨pointer, hrow, hlength, hdenotes⟩ :=
      hshows.row index payload hheld
    have hindex := hshows.index_lt hheld
    have hroom := hshows.count_le
    have hlens := hshows.lens_room
    exact ⟨pointer, hrow,
      (getElem?_resized (by omega) (by omega)).trans hlength, hdenotes⟩
  · simpa using hcount

theorem Shows.grown (hshows : Shows storage held) {exponent : Nat}
    (hexponent : exponent ≤ 30) (hle : storage.rowCapacity ≤ 2 ^ exponent)
    (hrows : (2 : Int) ^ exponent ≤ storage.rows.length)
    (hlens : (2 : Int) ^ exponent ≤ storage.rowLens.length) :
    Shows { storage with rowCapacity := 2 ^ exponent } held :=
  ⟨hshows.count_eq, hshows.row, hshows.arena_cap, hshows.arena_len,
    .inr ⟨exponent, hexponent, rfl⟩, Int.le_trans hshows.count_le hle, hrows,
    hlens⟩

theorem holds_growRows :
    Holds (Stored · held row payload size) (growRows allocator)
      (fun _ after => Stored after held row payload size ∧
        after.rowCount < after.rowCapacity)
      fun _ after => Shows after held := by
  intro storage hstored
  unfold growRows
  by_cases hroom : storage.rowCount < storage.rowCapacity
  · rw [if_pos hroom]
    exact ⟨hstored, hroom⟩
  · rw [if_neg hroom]
    obtain ⟨hshows, hdenotes, hlength⟩ := hstored
    have hcount := hshows.count_le
    rcases nextCapacity_cases hshows.capacity with
      ⟨exponent, hexponent, hnext, hless⟩ | hrefused
    · dsimp only
      rw [hnext, elementBytes_div hexponent]
      rw [hnext] at hless
      have hcast : ((2 ^ exponent : Nat) : Int) = 2 ^ exponent := by
        norm_cast
      have hwide : storage.rowCapacity ≤ ((2 ^ exponent : Nat) : Int) :=
        hcast ▸ hless.le
      cases hrows : allocator.rows (elementBytes (2 ^ exponent)) with
      | none => exact hshows
      | some pointers =>
          have hfirst := hshows.resized_rows hwide pointers
          dsimp only
          cases hlens : allocator.lens (elementBytes (2 ^ exponent)) with
          | none => exact hfirst
          | some lengths =>
              have hsecond := hfirst.resized_lens hwide lengths
              have hgrown := hsecond.grown hexponent hless.le
                (by rw [length_resized, hcast]) (by rw [length_resized, hcast])
              refine ⟨⟨hgrown, hdenotes, hlength⟩, ?_⟩
              dsimp only
              omega
    · dsimp only
      rw [allocator.rows_eq_none _ hrefused]
      exact hshows

theorem holds_register (warnings : Nat) :
    Holds (fun storage => Stored storage held row payload size ∧
        storage.rowCount < storage.rowCapacity)
      (register row size warnings)
      (fun _ after => Shows after (held ++ [payload]))
      fun _ after => Shows after held := by
  rintro storage ⟨⟨hshows, hdenotes, hlength⟩, hroom⟩
  have hrows := hshows.rows_room
  have hlens := hshows.lens_room
  have hcount := hshows.count_eq
  refine ⟨?_, ?_, hshows.arena_cap, hshows.arena_len, hshows.capacity, ?_, ?_,
    ?_⟩
  · rw [List.length_append, List.length_singleton, ← hcount]
  · intro index found hfound
    rcases Nat.lt_trichotomy index storage.rowCount with hless | heq | hmore
    · rw [List.getElem?_append_left (by omega)] at hfound
      obtain ⟨pointer, hrow, hfoundLength, hfoundDenotes⟩ :=
        hshows.row index found hfound
      refine ⟨pointer, ?_, ?_, hfoundDenotes⟩
      · exact (List.getElem?_set_ne (by omega)).trans hrow
      · exact (List.getElem?_set_ne (by omega)).trans hfoundLength
    · subst index
      rw [hcount, List.getElem?_concat_length] at hfound
      cases hfound
      refine ⟨row, ?_, ?_, hdenotes⟩
      · exact List.getElem?_set_self (by omega)
      · rw [hlength]
        exact List.getElem?_set_self (by omega)
    · rw [List.getElem?_eq_none (by
        rw [List.length_append, List.length_singleton]
        omega)] at hfound
      cases hfound
  · dsimp only
    omega
  · simpa using hrows
  · simpa using hlens

/-! A whole tuple, and a run. -/

/-- The payload of a tuple that has arrived: behind warnings and size. -/
def payloadOf (arrived : List UInt8) : List UInt8 :=
  ((arrived.drop 2).drop 4).take (natOfBytes ((arrived.drop 2).take 4))

theorem holds_receiveTuple :
    Holds (Sees arrived (Shows · held)) (receiveTuple allocator)
      (fun _ state => Shows state.own (held ++ [payloadOf arrived]))
      fun _ state => Shows state.own held := by
  unfold receiveTuple payloadOf
  refine Holds.readNatural_bind ?_ ?_
  · refine Holds.readNatural_bind ?_ ?_
    · generalize natOfBytes ((arrived.drop 2).take 4) = size
      refine Holds.ite (fun _ state hstate => hstate.kept) fun _ => ?_
      refine (Holds.within (holds_reserve size)).bind fun block => ?_
      refine holds_readPayload.bind fun row => ?_
      refine Holds.readExact_bind ?_ ?_
      · refine (Holds.within holds_growRows).bind fun _ => ?_
        exact (Holds.within (holds_register _)).mono (fun _ h => h)
          (fun _ _ h => h.kept) fun _ _ h => h
      · exact fun _ hstored => hstored.kept
    · exact fun _ hshows => hshows
  · exact fun _ hshows => hshows

/-- The abstract result, which lists its rows, takes the same tuple. -/
theorem receiveTuple_refines {result : Result} {after : Incoming TupleStorage}
    (hshows : Shows storage result.rows.val)
    (hrun : receiveTuple allocator ⟨arrived, storage⟩ = .ok () after)
    (warnings : UInt16) :
    ∃ next, Receive.receiveTuple warnings (payloadOf arrived) result =
        some next ∧ Shows after.own next.rows.val := by
  have hholds := @holds_receiveTuple result.rows.val arrived allocator
    ⟨arrived, storage⟩ ⟨rfl, hshows⟩
  rw [hrun] at hholds
  have hafter : Shows after.own (result.rows.val ++ [payloadOf arrived]) :=
    hholds
  have hlimit := hafter.count_le_limit
  rw [List.length_append, List.length_singleton] at hlimit
  have hroom : result.rows.val.length < Receive.rowLimit := hlimit
  exact ⟨_, dif_pos hroom, hafter⟩

/-- What happens to the rows of a result. -/
inductive RowAction where
  | receive (allocator : Allocator) (arrived : List UInt8)
  | clear

/-- A result beside the payloads received since its rows were cleared last. -/
def RowAction.run (action : RowAction)
    (state : TupleStorage × List (List UInt8)) :
    TupleStorage × List (List UInt8) :=
  match action with
  | .clear => (state.1.clearRows, [])
  | .receive allocator arrived =>
      match receiveTuple allocator ⟨arrived, state.1⟩ with
      | .ok _ after => (after.own, state.2 ++ [payloadOf arrived])
      | .error _ after => (after.own, state.2)

theorem RowAction.shows_run {state : TupleStorage × List (List UInt8)}
    (hshows : Shows state.1 state.2) (action : RowAction) :
    Shows (action.run state).1 (action.run state).2 := by
  cases action with
  | clear => exact Shows.clearRows state.1
  | receive allocator arrived =>
      have hrun := @holds_receiveTuple state.2 arrived allocator
        ⟨arrived, state.1⟩ ⟨rfl, hshows⟩
      unfold RowAction.run
      dsimp only
      cases hresult : receiveTuple allocator ⟨arrived, state.1⟩ with
      | ok value after =>
          rw [hresult] at hrun
          exact hrun
      | error error after =>
          rw [hresult] at hrun
          exact hrun

def RowAction.runAll (actions : List RowAction)
    (state : TupleStorage × List (List UInt8)) :
    TupleStorage × List (List UInt8) :=
  actions.foldl (fun state action => action.run state) state

theorem RowAction.shows_runAll {state : TupleStorage × List (List UInt8)}
    (hshows : Shows state.1 state.2) (actions : List RowAction) :
    Shows (RowAction.runAll actions state).1
      (RowAction.runAll actions state).2 := by
  induction actions generalizing state with
  | nil => exact hshows
  | cons action actions ih => exact ih (action.shows_run hshows)

theorem tuples_kept (actions : List RowAction) :
    Shows (RowAction.runAll actions (.empty, [])).1
      (RowAction.runAll actions (.empty, [])).2 :=
  RowAction.shows_runAll Shows.empty actions

end Libsqli.Octets
