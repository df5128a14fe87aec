import Libsqli.Data.Radix

namespace Libsqli.Data.Bytes

open Libsqli.Data.Radix

/-! Unsigned integers as big-endian octets, truncated to their width. -/

def bigEndian (width value : Nat) : List UInt8 :=
  (toBigEndian 256 width value).map UInt8.ofNat

def natOfBytes (bytes : List UInt8) : Nat :=
  ofBigEndian 256 (bytes.map UInt8.toNat)

@[simp] theorem length_bigEndian (width value : Nat) :
    (bigEndian width value).length = width := by
  simp [bigEndian]

theorem bigEndian_ne_nil {width : Nat} (hwidth : 0 < width) (value : Nat) :
    bigEndian width value ≠ [] :=
  List.ne_nil_of_length_pos (by rwa [length_bigEndian])

@[simp] theorem natOfBytes_nil : natOfBytes [] = 0 := rfl

theorem natOfBytes_lt (bytes : List UInt8) :
    natOfBytes bytes < 256 ^ bytes.length := by
  have hlt := @ofBigEndian_lt 256 (by decide)
    (bytes.map UInt8.toNat) fun digit member => by
      obtain ⟨byte, -, rfl⟩ := List.mem_map.mp member
      exact byte.toNat_lt
  simpa [natOfBytes] using hlt

theorem natOfBytes_bigEndian (width value : Nat) :
    natOfBytes (bigEndian width value) = value % 256 ^ width := by
  have hdigits : ((toBigEndian 256 width value).map UInt8.ofNat).map
      UInt8.toNat = toBigEndian 256 width value := by
    rw [List.map_map]
    refine (List.map_congr_left (fun digit member => ?_)).trans
      (List.map_id _)
    exact UInt8.toNat_ofNat_of_lt' (toBigEndian_lt (by decide) _ _ _ member)
  rw [natOfBytes, bigEndian, hdigits, ofBigEndian_toBigEndian_mod]

theorem natOfBytes_bigEndian_of_lt {width value : Nat}
    (hvalue : value < 256 ^ width) :
    natOfBytes (bigEndian width value) = value := by
  rw [natOfBytes_bigEndian, Nat.mod_eq_of_lt hvalue]

theorem bigEndian_natOfBytes (bytes : List UInt8) :
    bigEndian bytes.length (natOfBytes bytes) = bytes := by
  have hdigits : ∀ digit ∈ bytes.map UInt8.toNat, digit < 256 := by
    intro digit member
    obtain ⟨byte, -, rfl⟩ := List.mem_map.mp member
    exact byte.toNat_lt
  have hround := toBigEndian_ofBigEndian (by decide) hdigits
  rw [List.length_map] at hround
  rw [bigEndian, natOfBytes, hround, List.map_map]
  exact List.map_id'' (fun byte => UInt8.ofNat_toNat) bytes

/-! Octet strings padded with one zero to an even length. -/

def padEven (bytes : List UInt8) : List UInt8 :=
  bytes ++ List.replicate (bytes.length % 2) 0

@[simp] theorem length_padEven (bytes : List UInt8) :
    (padEven bytes).length = bytes.length + bytes.length % 2 := by
  simp [padEven]

theorem padEven_even (hbytes : bytes.length % 2 = 0) :
    padEven bytes = bytes := by
  simp [padEven, hbytes]

theorem padEven_odd (hbytes : bytes.length % 2 = 1) :
    padEven bytes = bytes ++ [0] := by
  simp [padEven, hbytes]

/-! A reader takes a value off the front of the octets it is given. -/

abbrev Reader := StateT (List UInt8) Option

/-- `bytes` is read as `value`, whatever follows. -/
def Reads (reader : Reader α) (bytes : List UInt8) (value : α) : Prop :=
  ∀ rest, reader (bytes ++ rest) = some (value, rest)

/-- Every value that the reader can return satisfies `property`. -/
def Yields (reader : Reader α) (property : α → Prop) : Prop :=
  ∀ bytes value rest, reader bytes = some (value, rest) → property value

theorem Reads.pure (value : α) : Reads (Pure.pure value) [] value :=
  fun _ => rfl

theorem Reads.bind {reader : Reader α} {next : α → Reader β}
    (hreader : Reads reader front value)
    (hnext : Reads (next value) back result) :
    Reads (reader >>= next) (front ++ back) result := by
  intro rest
  change (reader (front ++ back ++ rest)).bind
    (fun outcome => next outcome.1 outcome.2) = _
  rw [List.append_assoc, hreader]
  exact hnext rest

theorem Reads.map {reader : Reader α} (hreader : Reads reader bytes value)
    (convert : α → β) :
    Reads (convert <$> reader) bytes (convert value) := by
  intro rest
  change (reader (bytes ++ rest)).bind
    (fun outcome => some (convert outcome.1, outcome.2)) = _
  rw [hreader]
  rfl

theorem Reads.all {reader : Reader α} (hreader : Reads reader bytes value) :
    reader bytes = some (value, []) := by
  simpa using hreader []

theorem reader_bind_eq_some {reader : Reader α} {next : α → Reader β} :
    (reader >>= next) bytes = some outcome ↔
      ∃ value rest, reader bytes = some (value, rest) ∧
        next value rest = some outcome := by
  change (reader bytes).bind _ = _ ↔ _
  rw [Option.bind_eq_some_iff]
  constructor
  · rintro ⟨⟨value, rest⟩, hreader, hnext⟩
    exact ⟨value, rest, hreader, hnext⟩
  · rintro ⟨value, rest, hreader, hnext⟩
    exact ⟨(value, rest), hreader, hnext⟩

theorem Yields.pure (hvalue : property value) :
    Yields (Pure.pure value) property := by
  intro bytes other rest hread
  cases hread
  exact hvalue

theorem Yields.bind {reader : Reader α} {next : α → Reader β}
    (hreader : Yields reader first)
    (hnext : ∀ value, first value → Yields (next value) property) :
    Yields (reader >>= next) property := by
  intro bytes result rest hread
  obtain ⟨value, middle, hfirst, hsecond⟩ := reader_bind_eq_some.mp hread
  exact hnext value (hreader bytes value middle hfirst) middle result rest
    hsecond

theorem Yields.map {reader : Reader α} (hreader : Yields reader first)
    (convert : α → β) (hconvert : ∀ value, first value →
      property (convert value)) :
    Yields (convert <$> reader) property :=
  Yields.bind hreader fun value hvalue => Yields.pure (hconvert value hvalue)

theorem Yields.any (reader : Reader α) : Yields reader fun _ => True :=
  fun _ _ _ _ => trivial

/-! Fixed-width fields. -/

def take (count : Nat) : Reader (List UInt8) := fun bytes =>
  if count ≤ bytes.length then some (bytes.take count, bytes.drop count)
  else none

theorem Reads.take (hcount : bytes.length = count) :
    Reads (Bytes.take count) bytes bytes := by
  intro rest
  subst count
  simp [Bytes.take]

theorem Yields.take (count : Nat) :
    Yields (Bytes.take count) fun bytes => bytes.length = count := by
  intro bytes value rest hread
  unfold Bytes.take at hread
  split at hread
  · cases hread
    simpa
  · cases hread

def natural (width : Nat) : Reader Nat := natOfBytes <$> take width

theorem Reads.natural {width value : Nat} (hvalue : value < 256 ^ width) :
    Reads (Bytes.natural width) (bigEndian width value) value := by
  have hread := (Reads.take (length_bigEndian width value)).map natOfBytes
  rwa [natOfBytes_bigEndian_of_lt hvalue] at hread

theorem Yields.natural (width : Nat) :
    Yields (Bytes.natural width) fun value => value < 256 ^ width := by
  refine (Yields.take width).map natOfBytes ?_
  intro bytes hlength
  simpa [hlength] using natOfBytes_lt bytes

def padded (count : Nat) : Reader (List UInt8) := do
  let bytes ← take count
  let _ ← take (count % 2)
  return bytes

theorem Reads.padded (hcount : bytes.length = count) :
    Reads (Bytes.padded count) (padEven bytes) bytes := by
  subst count
  have hpad : Reads (do
      let _ ← Bytes.take (bytes.length % 2)
      return bytes) (List.replicate (bytes.length % 2) 0 ++ []) bytes :=
    (Reads.take (by simp)).bind (Reads.pure bytes)
  rw [List.append_nil] at hpad
  exact (Reads.take rfl).bind hpad

theorem Yields.padded (count : Nat) :
    Yields (Bytes.padded count) fun bytes => bytes.length = count := by
  refine Yields.bind (Yields.take count) ?_
  intro bytes hlength
  exact Yields.bind (Yields.any _) fun _ _ => Yields.pure hlength

/-- Constant octets that a message must carry. -/
def expect (bytes : List UInt8) : Reader Unit := do
  let found ← take bytes.length
  if found = bytes then return else failure

theorem Reads.expect (bytes : List UInt8) :
    Reads (Bytes.expect bytes) bytes () := by
  have hcheck : Reads (if bytes = bytes then return () else failure) [] () := by
    rw [if_pos rfl]
    exact Reads.pure ()
  have hread : Reads (Bytes.expect bytes) (bytes ++ []) () :=
    (Reads.take rfl).bind hcheck
  rwa [List.append_nil] at hread

/-! A counted sequence, item by item. -/

def readAll : List (Reader α) → Reader (List α)
  | [] => return []
  | reader :: readers => do
      let value ← reader
      let values ← readAll readers
      return value :: values

theorem Reads.cons {reader : Reader α} {readers : List (Reader α)}
    (hreader : Reads reader front value)
    (hreaders : Reads (readAll readers) back values) :
    Reads (readAll (reader :: readers)) (front ++ back) (value :: values) := by
  have hrest : Reads (do
      let values ← readAll readers
      return value :: values) (back ++ []) (value :: values) :=
    hreaders.bind (Reads.pure (value :: values))
  rw [List.append_nil] at hrest
  exact hreader.bind hrest

theorem Yields.readAll {readers : List (Reader α)} :
    Yields (Bytes.readAll readers) fun values =>
      values.length = readers.length := by
  induction readers with
  | nil => exact Yields.pure rfl
  | cons reader readers ih =>
      refine Yields.bind (Yields.any _) fun value _ => ?_
      refine Yields.bind ih fun values hlength => ?_
      exact Yields.pure (by simp [hlength])

theorem Yields.readAll_forall {readers : List (Reader α)}
    (hreaders : ∀ reader ∈ readers, Yields reader property) :
    Yields (Bytes.readAll readers) fun values =>
      ∀ value ∈ values, property value := by
  induction readers with
  | nil => exact Yields.pure (by simp)
  | cons reader readers ih =>
      rw [List.forall_mem_cons] at hreaders
      refine Yields.bind hreaders.1 fun value hvalue => ?_
      refine Yields.bind (ih hreaders.2) fun values hvalues => ?_
      exact Yields.pure (List.forall_mem_cons.mpr ⟨hvalue, hvalues⟩)

end Libsqli.Data.Bytes
