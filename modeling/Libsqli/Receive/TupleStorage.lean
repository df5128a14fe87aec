import Libsqli.Data.Blocks
import Libsqli.Receive.Octets
import Libsqli.Result.State

namespace Libsqli.Octets

open Libsqli.Data.Blocks
open Libsqli.Data.Bytes
open Libsqli.Data.Program
open Libsqli.Data.Stream

/-! The tuples of a result: their payloads lie in one arena. -/

/-- `SQLI_MAX_TUPLE_BYTES` -/
def maxTupleBytes : Nat := 64 * 1024 * 1024

def sizeMax : Nat := 2 ^ 64 - 1

/-- The row fields of `struct sqli_result`; `rows` and `rowLens` have the elements
that are allocated. -/
structure TupleStorage where
  arena : Option Block
  arenaLen : Nat
  arenaCap : Nat
  rows : List Int
  rowLens : List Nat
  rowCount : Nat
  rowCapacity : Int
  useArena : Bool
  warnings : Nat
  adaptiveTupleBytes : Nat
  adaptiveTupleCount : Nat

namespace TupleStorage

def empty : TupleStorage :=
  ⟨none, 0, 0, [], [], 0, 0, false, 0, 0, 0⟩

/-- `sqli_result_clear_rows` -/
def clearRows (storage : TupleStorage) : TupleStorage :=
  { storage with
    arena := none
    arenaLen := 0
    arenaCap := 0
    rows := []
    rowLens := []
    rowCount := 0
    rowCapacity := 0
    useArena := false }

end TupleStorage

/-- What `realloc` does for each size: where the arena goes, and what the elements
behind the old ones are.  No object has more than `PTRDIFF_MAX` octets. -/
structure Allocator where
  arena : Nat → Option (Int × (Nat → UInt8))
  rows : Nat → Option (Nat → Int)
  lens : Nat → Option (Nat → Nat)
  rows_eq_none : ∀ size, 2 ^ 63 ≤ size → rows size = none

/-- `grow_capacity_doubling` -/
def growCapacityDoubling (current needed : Nat) : Option Nat :=
  doubledTo sizeMax (if current = 0 then 1 else current) needed

abbrev TupleReader := Reading Status TupleStorage

section Receiving

variable (allocator : Allocator)

/-- The rows move along with the arena. -/
def rebased (rows : List Int) (count : Nat) (delta : Int) : List Int :=
  (rows.take count).map (· + delta) ++ rows.drop count

/-- `realloc` of the arena; the pointers into it come along. -/
def growArena (needed : Nat) : EStateM Status TupleStorage Block := fun storage =>
  let old := storage.arena.getD ⟨0, []⟩
  let capacity := if 0 < storage.arenaCap then storage.arenaCap else 32768
  match growCapacityDoubling capacity needed with
  | none => .error .allocFail storage
  | some capacity =>
      let first := storage.rows.headD 0
      let firstRowOffset := if 0 < storage.rowCount then first - old.base else 0
      match allocator.arena capacity with
      | none => .error .allocFail storage
      | some (base, fresh) =>
          let moved : Block := ⟨base, resized old.octets fresh capacity⟩
          let delta := base + firstRowOffset - first
          .ok moved
            { storage with
              arena := some moved
              arenaCap := capacity
              rows := rebased storage.rows storage.rowCount delta }

/-- The arena, with room for a tuple behind those that are there. -/
def reserve (size : Nat) : EStateM Status TupleStorage Block := fun storage =>
  if sizeMax - size < storage.arenaLen then .error .allocFail storage
  else
    match storage.arena with
    | some block =>
        if storage.arenaCap < storage.arenaLen + size then
          growArena allocator (storage.arenaLen + size) storage
        else .ok block storage
    | none => growArena allocator (storage.arenaLen + size) storage

/-- `read_exact` into the arena: a short read leaves there what has arrived. -/
def readPayload (block : Block) (size : Nat) : TupleReader Int := fun state =>
  let storage := state.own
  let written :=
    block.overwrite storage.arenaLen (state.unread.take size)
  if size ≤ state.unread.length then
    .ok (block.base + storage.arenaLen)
      ⟨state.unread.drop size,
        { storage with
          arena := some written
          arenaLen := storage.arenaLen + size }⟩
  else .error .ioError ⟨[], { storage with arena := some written }⟩

/-- The octets of `capacity` pointers or lengths. -/
def elementBytes (capacity : Int) : Nat :=
  (capacity % 2 ^ 64).toNat * 8 % 2 ^ 64

def nextCapacity (capacity : Int) : Int :=
  if capacity = 0 then 4 else toInt32 (capacity * 2)

/-- Both arrays get room for one more row. -/
def growRows : EStateM Status TupleStorage Unit := fun storage =>
  if storage.rowCount < storage.rowCapacity then .ok () storage
  else
    let capacity := nextCapacity storage.rowCapacity
    let size := elementBytes capacity
    match allocator.rows size with
    | none => .error .allocFail storage
    | some fresh =>
        let storage :=
          { storage with rows := resized storage.rows fresh (size / 8) }
        match allocator.lens size with
        | none => .error .allocFail storage
        | some fresh =>
            .ok ()
              { storage with
                rowLens := resized storage.rowLens fresh (size / 8)
                rowCapacity := capacity }

def register (row : Int) (size warnings : Nat) :
    EStateM Status TupleStorage Unit := fun storage =>
  .ok ()
    { storage with
      useArena := true
      rows := storage.rows.set storage.rowCount row
      rowLens := storage.rowLens.set storage.rowCount size
      rowCount := storage.rowCount + 1
      adaptiveTupleBytes := (storage.adaptiveTupleBytes + size) % 2 ^ 64
      adaptiveTupleCount :=
        if storage.adaptiveTupleCount < 2 ^ 32 - 1 then
          storage.adaptiveTupleCount + 1
        else storage.adaptiveTupleCount
      warnings := warnings }

/-- `receive_tuple` -/
def receiveTuple : TupleReader Unit := do
  let warnings ← readNatural .ioError 2
  let size ← readNatural .ioError 4
  if maxTupleBytes < size then throw .protoError
  else
    let block ← within (reserve allocator size)
    let row ← readPayload block size
    let _ ← readExact .ioError (size % 2)
    within (growRows allocator)
    within (register row size warnings)

end Receiving

end Libsqli.Octets
