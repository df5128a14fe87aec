import Libsqli.Result.TupleReads

namespace Libsqli.TupleReads

open Libsqli.Data.Bytes
open Libsqli.Data.Memory
open Libsqli.Layout (Column Located Span numberAt)

variable {tuple : List UInt8} {column : Column} {base start width length : Nat}
  {span : Span} {type : UInt8}

/-! Each read is inside the tuple and gives what the layout says. -/

theorem sizeSub_eq (hsize : length < 2 ^ 64) (hle : base ≤ length) :
    sizeSub length base = length - base := by
  unfold sizeSub
  omega

theorem yields_readNumber (hinside : start + width ≤ tuple.length) :
    Yields tuple (readNumber start width) (numberAt tuple start width) :=
  (yields_readMany hinside).bind (reading_pure rfl)

theorem plainSpan_eq (hsize : tuple.length < 2 ^ 64)
    (hbase : base ≤ tuple.length) :
    plainSpan tuple.length base width = Layout.plainSpan tuple base width := by
  rw [plainSpan, sizeSub_eq hsize hbase, Layout.plainSpan]

theorem yields_prefixedByOne (hsize : tuple.length < 2 ^ 64)
    (hbase : base < tuple.length) :
    Yields tuple (prefixedByOne tuple.length base)
      (Layout.prefixedSpan tuple base 1) := by
  refine (yields_readNumber (by omega)).bind (reading_pure ?_)
  rw [payloadSpan, sizeSub_eq hsize (by omega), Layout.prefixedSpan]
  exact if_congr (iff_and_self.mpr fun _ => by omega) rfl rfl

theorem yields_prefixedByTwo (hsize : tuple.length < 2 ^ 64)
    (hbase : base ≤ tuple.length) :
    Yields tuple (prefixedByTwo tuple.length base)
      (Layout.prefixedSpan tuple base 2) := by
  unfold prefixedByTwo
  rw [sizeSub_eq hsize hbase]
  by_cases hheader : 2 ≤ tuple.length - base
  · rw [if_pos hheader]
    refine (yields_readNumber (by omega)).bind (reading_pure ?_)
    rw [payloadSpan, sizeSub_eq hsize (by omega), Layout.prefixedSpan]
    exact if_congr (iff_and_self.mpr fun _ => hheader) rfl rfl
  · rw [if_neg hheader, Layout.prefixedSpan, if_neg fun h => hheader h.1]
    exact reading_pure rfl

theorem yields_opaqueSpan (hsize : tuple.length < 2 ^ 64)
    (hbase : base ≤ tuple.length) :
    Yields tuple (opaqueSpan tuple.length base)
      (Layout.opaqueSpan tuple base) := by
  have hshort := yields_prefixedByTwo hsize hbase
  unfold opaqueSpan Layout.opaqueSpan Layout.opaqueLength
  rw [sizeSub_eq hsize hbase]
  by_cases hheader : 5 ≤ tuple.length - base
  · rw [if_pos hheader]
    have hfirst : base < tuple.length := by omega
    have hmarker : tuple.getD base 0 = tuple[base] := by
      rw [List.getD_eq_getElem?_getD, List.getElem?_eq_getElem hfirst]
      rfl
    refine (yields_read (by omega)).bind ?_
    refine (yields_readNumber (by omega)).bind ?_
    rw [sizeSub_eq hsize (by omega), hmarker]
    simp only [hheader, true_and]
    split
    · exact reading_pure rfl
    · split
      · exact reading_pure rfl
      · exact hshort
  · rw [if_neg hheader, if_neg fun h => hheader h.1,
      if_neg fun h => hheader h.1]
    exact hshort

theorem yields_shortChar (hsize : tuple.length < 2 ^ 64)
    (hbase : base < tuple.length) :
    Yields tuple (shortChar tuple.length base width)
      (if Layout.shortChar tuple base width then
        some ⟨base + 1, numberAt tuple base 1, width⟩ else none) := by
  unfold shortChar
  rw [sizeSub_eq hsize (by omega)]
  by_cases hwidth : 0 < width
  · rw [if_pos ⟨by omega, hwidth⟩]
    refine (yields_readNumber (by omega)).bind (reading_pure ?_)
    rw [sizeSub_eq hsize (by omega)]
    refine if_congr ?_ rfl rfl
    simp only [Layout.shortChar, Bool.and_eq_true, decide_eq_true_eq,
      beq_iff_eq]
    tauto
  · rw [if_neg fun h => hwidth h.2, if_neg ?_]
    · exact reading_pure rfl
    · simp [Layout.shortChar, hwidth]

theorem yields_locate (hsize : tuple.length < 2 ^ 64) :
    Yields tuple (locate column base tuple.length)
      (Layout.locateColumn column base tuple) := by
  unfold locate Layout.locateColumn
  by_cases hbase : tuple.length ≤ base
  · rw [if_pos hbase, if_pos hbase]
    exact reading_pure rfl
  rw [if_neg hbase, if_neg hbase]
  have hlong : ¬ (Layout.isCharType column.type = true ∧
      Layout.shortChar tuple base (Layout.declaredWidth column) = true) →
      Yields tuple (locateLong column base tuple.length)
        (Layout.locateColumn column base tuple) := by
    intro hshort
    unfold locateLong Layout.locateColumn
    rw [if_neg hbase, if_neg hshort, plainSpan_eq hsize (by omega),
      plainSpan_eq hsize (by omega), plainSpan_eq hsize (by omega)]
    by_cases hpacked : column.type ∈ [Layout.typeDecimal, Layout.typeMoney,
        Layout.typeDatetime, Layout.typeInterval]
    · rw [if_pos hpacked, if_pos hpacked]
      exact reading_pure rfl
    rw [if_neg hpacked, if_neg hpacked]
    by_cases hlegacy : column.type ∈ [Layout.typeByte, Layout.typeText]
    · rw [if_pos hlegacy, if_pos hlegacy]
      exact reading_pure rfl
    rw [if_neg hlegacy, if_neg hlegacy]
    by_cases hopaque : column.type ∈ [Layout.typeBool, Layout.typeDboolean,
        Layout.typeLvarchar, Layout.typeBlob, Layout.typeClob]
    · rw [if_pos hopaque, if_pos hopaque]
      exact yields_opaqueSpan hsize (by omega)
    rw [if_neg hopaque, if_neg hopaque]
    by_cases hwidth : 0 < Layout.declaredWidth column
    · rw [if_pos hwidth, if_pos hwidth]
      exact reading_pure rfl
    rw [if_neg hwidth, if_neg hwidth]
    split
    · exact yields_prefixedByOne hsize (by omega)
    · exact yields_prefixedByTwo hsize (by omega)
  unfold Layout.locateColumn at hlong
  rw [if_neg hbase] at hlong
  by_cases hchar : Layout.isCharType column.type = true
  · rw [if_pos hchar]
    refine (yields_shortChar hsize (by omega)).bind ?_
    by_cases hshort :
        Layout.shortChar tuple base (Layout.declaredWidth column) = true
    · rw [if_pos hshort, if_pos ⟨hchar, hshort⟩]
      exact reading_pure rfl
    · rw [if_neg hshort]
      exact hlong fun h => hshort h.2
  · rw [if_neg hchar]
    exact hlong fun h => hchar h.1

theorem yields_columnSpan (hsize : tuple.length < 2 ^ 64) :
    Yields tuple (columnSpan column base tuple.length)
      (Layout.columnSpan column base tuple) := by
  unfold columnSpan Layout.columnSpan
  by_cases hbase : tuple.length ≤ base
  · rw [if_pos hbase, if_pos hbase]
    exact reading_pure rfl
  rw [if_neg hbase, if_neg hbase, sizeSub_eq hsize (by omega),
    plainSpan_eq hsize (by omega), plainSpan_eq hsize (by omega)]
  have hlocate := @yields_locate tuple column base hsize
  have hone := @yields_prefixedByOne tuple base hsize (by omega)
  have htwo := @yields_prefixedByTwo tuple base hsize (by omega)
  repeat' split
  all_goals first
    | exact reading_pure rfl
    | exact hlocate
    | exact hone
    | exact htwo

/-! NULL forms. -/

abbrev dataAt (tuple : List UInt8) (start length : Nat) : List UInt8 :=
  (tuple.drop start).take length

theorem length_dataAt (hinside : start + length ≤ tuple.length) :
    (dataAt tuple start length).length = length := by
  rw [List.length_take, List.length_drop]
  omega

theorem all_eq_beq_replicate (bytes : List UInt8) (byte : UInt8) :
    bytes.all (· == byte) = (bytes == List.replicate bytes.length byte) := by
  rw [Bool.eq_iff_iff, List.all_eq_true, beq_iff_eq, List.eq_replicate_iff]
  simp

theorem yields_isExactly {expected : List UInt8}
    (hinside : start + length ≤ tuple.length) :
    Yields tuple (isExactly start length expected)
      (dataAt tuple start length == expected) := by
  unfold isExactly
  by_cases hlength : length = expected.length
  · rw [if_pos hlength, hlength]
    exact yields_agreesFrom (by omega)
  · rw [if_neg hlength]
    refine reading_pure (Eq.symm (beq_eq_false_iff_ne.mpr fun hdata => ?_))
    exact hlength (hdata ▸ (length_dataAt hinside).symm)

theorem yields_nullForm (hinside : start + length ≤ tuple.length)
    (hchar : ¬ (Layout.isCharType type = true ∧
      (dataAt tuple start length).head? = some 0)) :
    Yields tuple (nullForm type start length)
      (Layout.nullData type (dataAt tuple start length)) := by
  have hexactly (expected : List UInt8) :=
    @yields_isExactly tuple start length expected hinside
  have hlength := length_dataAt hinside
  unfold nullForm Layout.nullData
  rw [if_neg hchar]
  by_cases hdate : type = Layout.typeDate
  · rw [if_pos hdate, if_pos hdate]
    by_cases hfour : 4 ≤ length
    · rw [if_pos hfour]
      refine (yields_readMany (by omega)).bind (reading_pure ?_)
      rw [List.take_take, Nat.min_eq_left hfour]
    · rw [if_neg hfour]
      refine reading_pure (Eq.symm (beq_eq_false_iff_ne.mpr fun hdata => ?_))
      have hshort := congrArg List.length hdata
      rw [List.length_take, hlength] at hshort
      simp only [List.length_cons, List.length_nil] at hshort
      omega
  rw [if_neg hdate, if_neg hdate]
  by_cases hsmall : type = Layout.typeSmallint
  · rw [if_pos hsmall, if_pos hsmall]
    exact hexactly _
  rw [if_neg hsmall, if_neg hsmall]
  by_cases hint : type ∈ [Layout.typeInt, Layout.typeSerial]
  · rw [if_pos hint, if_pos hint]
    exact hexactly _
  rw [if_neg hint, if_neg hint]
  by_cases hbig : type ∈ [Layout.typeBigint, Layout.typeBigserial]
  · rw [if_pos hbig, if_pos hbig]
    exact hexactly _
  rw [if_neg hbig, if_neg hbig]
  by_cases hint8 : type ∈ [Layout.typeInt8, Layout.typeSerial8]
  · rw [if_pos hint8, if_pos hint8]
    by_cases htwo : 2 ≤ length
    · rw [if_pos htwo]
      refine (yields_agreesFrom (by simpa using by omega)).congr ?_
      rw [List.take_take, Nat.min_eq_left htwo]
      rfl
    · rw [if_neg htwo]
      refine reading_pure (Eq.symm (beq_eq_false_iff_ne.mpr fun hdata => ?_))
      have hshort := congrArg List.length hdata
      rw [List.length_take, hlength] at hshort
      simp only [List.length_cons, List.length_nil] at hshort
      omega
  rw [if_neg hint8, if_neg hint8]
  by_cases hsmfloat : type = Layout.typeSmfloat
  · rw [if_pos hsmfloat, if_pos hsmfloat]
    exact hexactly _
  rw [if_neg hsmfloat, if_neg hsmfloat]
  by_cases hfloat : type = Layout.typeFloat
  · rw [if_pos hfloat, if_pos hfloat]
    exact hexactly _
  rw [if_neg hfloat, if_neg hfloat]
  by_cases hvarchar : type ∈ [Layout.typeVarchar, Layout.typeNvchar]
  · rw [if_pos hvarchar, if_pos hvarchar]
    exact hexactly _
  rw [if_neg hvarchar, if_neg hvarchar]
  by_cases hlob : type ∈ [Layout.typeByte, Layout.typeText]
  · rw [if_pos hlob, if_pos hlob, hlength]
    by_cases hforty : 40 ≤ length
    · rw [if_pos hforty]
      have hfits : start + 39 < tuple.length := by omega
      refine (yields_read hfits).bind (reading_pure ?_)
      have hflags : (dataAt tuple start length).getD 39 0 =
          tuple[start + 39] := by
        rw [List.getD_eq_getElem?_getD, List.getElem?_take_of_lt (by omega),
          List.getElem?_drop, List.getElem?_eq_getElem hfits]
        rfl
      rw [hflags]
      simp [hforty]
    · rw [if_neg hforty]
      exact reading_pure (by simp [hforty])
  rw [if_neg hlob, if_neg hlob]
  by_cases hzero : Layout.allZeroIsNullSentinel type = true
  · rw [if_pos hzero]
    refine (yields_agreesFrom (by simpa using hinside)).congr ?_
    rw [hzero, Bool.true_and, all_eq_beq_replicate, hlength,
      List.length_replicate]
  · rw [if_neg hzero]
    refine reading_pure ?_
    rw [Bool.eq_false_of_not_eq_true hzero, Bool.false_and]

theorem yields_nullData (hinside : start + length ≤ tuple.length)
    (hlength : 0 < length) :
    Yields tuple (nullData type start length)
      (Layout.nullData type (dataAt tuple start length)) := by
  have hstart : start < tuple.length := by omega
  have hdata : dataAt tuple start length =
      tuple[start] :: dataAt tuple (start + 1) (length - 1) := by
    obtain ⟨rest, rfl⟩ : ∃ rest, length = rest + 1 := ⟨length - 1, by omega⟩
    rw [dataAt, List.drop_eq_getElem_cons hstart, List.take_succ_cons]
    rfl
  unfold nullData
  by_cases hchar : Layout.isCharType type = true
  · rw [if_pos hchar]
    refine (yields_read hstart).bind ?_
    by_cases hfirst : tuple[start] = 0
    · rw [if_pos hfirst]
      refine (yields_agreesFrom (by
        rw [List.length_replicate]
        omega)).congr ?_
      rw [Layout.nullData, hdata, if_pos ⟨hchar, by rw [hfirst]; rfl⟩,
        List.tail_cons, all_eq_beq_replicate, length_dataAt (by omega),
        List.length_replicate]
    · rw [if_neg hfirst]
      refine yields_nullForm hinside fun h => hfirst ?_
      rw [hdata] at h
      exact Option.some.inj h.2
  · rw [if_neg hchar]
    exact yields_nullForm hinside fun h => hchar h.1

theorem yields_spanIsNull (hbase : base < tuple.length)
    (hinside : span.start + span.length ≤ tuple.length) :
    Yields tuple (spanIsNull type base span)
      (Layout.spanIsNull type base span tuple) := by
  unfold spanIsNull Layout.spanIsNull
  by_cases hempty : span.length = 0
  · rw [if_pos hempty, if_pos hempty]
    have hmarker : tuple.getD base 0 = tuple[base] := by
      rw [List.getD_eq_getElem?_getD, List.getElem?_eq_getElem hbase]
      rfl
    rw [hmarker, Bool.or_assoc]
    by_cases hopaque : type ∈
        [Layout.typeLvarchar, Layout.typeBool, Layout.typeDboolean] ∧
        5 ≤ span.width
    · rw [if_pos hopaque]
      refine (yields_read hbase).bind (reading_pure ?_)
      rw [decide_eq_true hopaque.1, decide_eq_true hopaque.2, Bool.true_and,
        Bool.true_and]
      rfl
    · rw [if_neg hopaque]
      refine reading_pure ?_
      rw [← Bool.decide_and, decide_eq_false hopaque, Bool.false_and,
        Bool.false_or]
      rfl
  · rw [if_neg hempty, if_neg hempty]
    exact yields_nullData hinside (by omega)

/-! Where spans end. -/

/-- A column's data ends where its span ends, inside the tuple. -/
structure Ends (tuple : List UInt8) (base : Nat) (span : Span) : Prop where
  start : base ≤ span.start
  width : span.start + span.length = base + span.width
  inside : span.start + span.length ≤ tuple.length

theorem plainSpan_ends (hbase : base ≤ tuple.length)
    (hspan : Layout.plainSpan tuple base width = .ok span) :
    Ends tuple base span := by
  unfold Layout.plainSpan at hspan
  split at hspan
  · next hfits =>
    cases hspan
    have := hfits.2
    exact ⟨Nat.le_refl _, rfl, by dsimp only; omega⟩
  · cases hspan

theorem prefixedSpan_ends {header : Nat} (hbase : base ≤ tuple.length)
    (hspan : Layout.prefixedSpan tuple base header = .ok span) :
    Ends tuple base span := by
  unfold Layout.prefixedSpan at hspan
  split at hspan
  · next hfits =>
    cases hspan
    have := hfits.1
    have := hfits.2
    exact ⟨by dsimp only; omega, by dsimp only; omega, by dsimp only; omega⟩
  · cases hspan

theorem opaqueSpan_ends (hbase : base ≤ tuple.length)
    (hspan : Layout.opaqueSpan tuple base = .ok span) :
    Ends tuple base span := by
  unfold Layout.opaqueSpan at hspan
  split at hspan
  · next hnull =>
    cases hspan
    have := hnull.1
    exact ⟨by dsimp only; omega, rfl, by dsimp only; omega⟩
  · split at hspan
    · next hfits =>
      cases hspan
      have := hfits.1
      have := hfits.2.2
      exact ⟨by dsimp only; omega, by dsimp only; omega,
        by dsimp only; omega⟩
    · exact prefixedSpan_ends hbase hspan

theorem locateColumn_ends
    (hspan : Layout.locateColumn column base tuple = .ok span) :
    Ends tuple base span := by
  unfold Layout.locateColumn at hspan
  by_cases hbase : tuple.length ≤ base
  · rw [if_pos hbase] at hspan
    cases hspan
  have hinside : base ≤ tuple.length := by omega
  rw [if_neg hbase] at hspan
  split at hspan
  · next hshort =>
    cases hspan
    have hfits := hshort.2
    simp only [Layout.shortChar, Bool.and_eq_true, decide_eq_true_eq,
      beq_iff_eq] at hfits
    have := hfits.1.2
    have := hfits.2
    exact ⟨by dsimp only; omega, by dsimp only; omega, by dsimp only; omega⟩
  · repeat' split at hspan
    all_goals first
      | exact plainSpan_ends hinside hspan
      | exact prefixedSpan_ends hinside hspan
      | exact opaqueSpan_ends hinside hspan

theorem columnSpan_ends
    (hspan : Layout.columnSpan column base tuple = .ok span) :
    base < tuple.length ∧ Ends tuple base span := by
  unfold Layout.columnSpan at hspan
  by_cases hbase : tuple.length ≤ base
  · rw [if_pos hbase] at hspan
    cases hspan
  have hinside : base ≤ tuple.length := by omega
  rw [if_neg hbase] at hspan
  refine ⟨by omega, ?_⟩
  split at hspan
  · split at hspan
    · next hfits =>
      cases hspan
      have := hfits.2
      exact ⟨Nat.le_refl _, rfl, by dsimp only; omega⟩
    · split at hspan
      · exact prefixedSpan_ends hinside hspan
      · cases hspan
  split at hspan
  · exact plainSpan_ends hinside hspan
  split at hspan
  · exact locateColumn_ends hspan
  split at hspan
  · exact plainSpan_ends hinside hspan
  split at hspan
  · split at hspan
    · next hfits =>
      cases hspan
      have := hfits.2
      exact ⟨Nat.le_refl _, rfl, by dsimp only; omega⟩
    · exact locateColumn_ends hspan
  split at hspan
  · exact prefixedSpan_ends hinside hspan
  · exact prefixedSpan_ends hinside hspan

/-! A whole row. -/

/-- Spans in column order from an offset on, each up to the next one. -/
def LaidOut (size : Nat) : Nat → List Nat → List Located → Prop
  | offset, position :: positions, entry :: entries =>
      position = offset ∧ position ≤ entry.start ∧
        position < entry.start + entry.length ∧
        entry.start + entry.length ≤ size ∧
        LaidOut size (entry.start + entry.length) positions entries
  | _, positions, entries => positions = [] ∧ entries = []

theorem reading_locateRow (hsize : tuple.length < 2 ^ 64)
    (columns : List Column) :
    Reading tuple (locateRow tuple.length base columns) fun run =>
      match Layout.locateRow tuple base columns with
      | .ok located => run.1 = .ok ∧ run.2.entries = located ∧
          LaidOut tuple.length base run.2.positions located
      | .error status => run.1 = status := by
  induction columns generalizing base with
  | nil => exact reading_pure ⟨rfl, rfl, rfl, rfl⟩
  | cons column columns ih =>
      unfold locateRow Layout.locateRow
      by_cases hlimit : 0xFFFFFFFF < base
      · rw [if_pos hlimit, if_pos hlimit]
        exact reading_pure rfl
      rw [if_neg hlimit, if_neg hlimit]
      refine (yields_columnSpan hsize).bind ?_
      cases hspan : Layout.columnSpan column base tuple with
      | error status => exact reading_pure rfl
      | ok span =>
          dsimp only
          obtain ⟨hbase, hends⟩ := columnSpan_ends hspan
          obtain ⟨hstart, hwidth, hinside⟩ := hends
          rw [sizeSub_eq hsize (by omega)]
          by_cases hbad : span.width = 0 ∨ tuple.length < span.start ∨
              tuple.length - span.start < span.length
          · rw [if_pos hbad, if_pos hbad]
            exact reading_pure rfl
          rw [if_neg hbad, if_neg hbad]
          refine (yields_spanIsNull hbase hinside).bind ?_
          refine Reading.bind ih fun run hrun => reading_pure ?_
          cases hrest : Layout.locateRow tuple (base + span.width) columns with
          | error status =>
              rw [hrest] at hrun
              exact hrun
          | ok located =>
              rw [hrest] at hrun
              obtain ⟨hstatus, hentries, hlaid⟩ := hrun
              refine ⟨hstatus, by rw [hentries], rfl, hstart, ?_, hinside, ?_⟩
              · dsimp only
                omega
              · rw [hwidth]
                exact hlaid

/-- The spans of a row's columns: each starts where the one before it ends, they
are disjoint, and all are inside the tuple. -/
structure Spans (size : Nat) (positions : List Nat)
    (located : List Located) : Prop where
  count : positions.length = located.length
  first : ∀ position, positions[0]? = some position → position = 0
  next : ∀ (index : Nat) entry position, located[index]? = some entry →
    positions[index + 1]? = some position →
    position = entry.start + entry.length
  inside : ∀ (index : Nat) position entry, positions[index]? = some position →
    located[index]? = some entry → position ≤ entry.start ∧
      position < entry.start + entry.length ∧
      entry.start + entry.length ≤ size
  disjoint : ∀ (index later : Nat) entry position, index < later →
    located[index]? = some entry → positions[later]? = some position →
    entry.start + entry.length ≤ position

variable {size offset : Nat} {positions : List Nat} {located : List Located}

theorem LaidOut.length_eq (hlaid : LaidOut size offset positions located) :
    positions.length = located.length := by
  induction positions generalizing offset located with
  | nil =>
      cases located with
      | nil => rfl
      | cons entry located => cases hlaid.2
  | cons position positions ih =>
      cases located with
      | nil => cases hlaid.1
      | cons entry located =>
          rw [List.length_cons, List.length_cons, ih hlaid.2.2.2.2]

theorem LaidOut.first (hlaid : LaidOut size offset positions located)
    {position : Nat} (hposition : positions[0]? = some position) :
    position = offset := by
  cases positions with
  | nil => cases hposition
  | cons head positions =>
      cases located with
      | nil => cases hlaid.1
      | cons entry located =>
          cases hposition
          exact hlaid.1

theorem LaidOut.offset_le (hlaid : LaidOut size offset positions located)
    {index position : Nat} (hposition : positions[index]? = some position) :
    offset ≤ position := by
  induction positions generalizing offset located index with
  | nil => cases hposition
  | cons head positions ih =>
      cases located with
      | nil => cases hlaid.1
      | cons entry located =>
          obtain ⟨rfl, hstart, hend, -, hrest⟩ := hlaid
          cases index with
          | zero =>
              cases hposition
              exact Nat.le_refl _
          | succ index =>
              have := ih hrest hposition
              omega

theorem LaidOut.spans (hlaid : LaidOut size offset positions located)
    (index : Nat) (entry : Located) (hentry : located[index]? = some entry) :
    (∀ position, positions[index]? = some position →
      position ≤ entry.start ∧ position < entry.start + entry.length ∧
        entry.start + entry.length ≤ size) ∧
      LaidOut size (entry.start + entry.length) (positions.drop (index + 1))
        (located.drop (index + 1)) := by
  induction index generalizing offset positions located with
  | zero =>
      cases located with
      | nil => cases hentry
      | cons head located =>
          cases hentry
          cases positions with
          | nil => cases hlaid.2
          | cons first positions =>
              obtain ⟨rfl, hstart, hend, hinside, hrest⟩ := hlaid
              refine ⟨fun position hposition => ?_, hrest⟩
              cases hposition
              exact ⟨hstart, hend, hinside⟩
  | succ index ih =>
      cases located with
      | nil => cases hentry
      | cons head located =>
          cases positions with
          | nil => cases hlaid.2
          | cons first positions =>
              exact ih hlaid.2.2.2.2 hentry

theorem LaidOut.toSpans (hlaid : LaidOut size 0 positions located) :
    Spans size positions located where
  count := hlaid.length_eq
  first position hposition := hlaid.first hposition
  next index entry position hentry hposition := by
    obtain ⟨-, hrest⟩ := hlaid.spans index entry hentry
    refine hrest.first ?_
    rwa [List.getElem?_drop]
  inside index position entry hposition hentry :=
    (hlaid.spans index entry hentry).1 position hposition
  disjoint index later entry position hlater hentry hposition := by
    obtain ⟨-, hrest⟩ := hlaid.spans index entry hentry
    refine @LaidOut.offset_le _ _ _ _ hrest (later - (index + 1)) position ?_
    rw [List.getElem?_drop]
    have hsum : index + 1 + (later - (index + 1)) = later := by omega
    rwa [hsum]

/-- What a call leaves of a row that it can read, and of any other. -/
structure Cached (calloc : Bool) (result : Result) (size : Nat)
    (cache : RowCache) : Prop where
  status : cache.status = (result.prepareRowCache calloc).1
  spans : cache.status = .ok → ∃ cells, cache.result.located = some cells ∧
    Layout.locateRow (result.view.tuple.getD []) 0 result.columns =
      .ok (cells.take result.columns.length) ∧
    Spans size (cache.positions.take result.columns.length)
      (cells.take result.columns.length)
  unpublished : cache.status ≠ .ok → cache.result.view.cacheRow = -1

theorem reading_prepareRowCache {calloc : Bool} {result : Result}
    (hsize : tuple.length < 2 ^ 64) (hrow : result.view.tuple = some tuple)
    (positions : List Nat) :
    Reading tuple (prepareRowCache calloc result positions)
      (Cached calloc result tuple.length) := by
  have hlocate := @reading_locateRow tuple 0 hsize result.columns
  unfold prepareRowCache
  simp only [hrow]
  by_cases hnone : result.columns = [] ∨ result.view.currentRow < 0
  · rw [if_pos hnone]
    refine reading_pure ⟨?_, nofun, fun _ => rfl⟩
    by_cases hcurrent : result.view.currentRow < 0
    · unfold Result.prepareRowCache
      simp only [hrow]
      rw [if_pos hcurrent]
    · rw [Result.prepareRowCache_error hrow (Int.not_lt.mp hcurrent)
        (if_pos (hnone.resolve_right hcurrent))]
  rw [not_or] at hnone
  rw [if_neg (not_or.mpr hnone)]
  have hcurrent := Int.not_lt.mp hnone.2
  have hmodel : result.locate calloc tuple =
      if result.located = none ∧ calloc = false then .error .allocFail
      else Layout.locateRow tuple 0 result.columns := if_neg hnone.1
  by_cases halloc : result.located = none ∧ calloc = false
  · rw [if_pos halloc]
    rw [if_pos halloc] at hmodel
    refine reading_pure ⟨?_, nofun, fun _ => rfl⟩
    rw [Result.prepareRowCache_error hrow hcurrent hmodel]
  rw [if_neg halloc]
  rw [if_neg halloc] at hmodel
  refine Reading.bind hlocate fun run hrun => reading_pure ?_
  cases hfound : Layout.locateRow tuple 0 result.columns with
  | error status =>
      rw [hfound] at hrun hmodel
      have hfailed : run.1 ≠ .ok := by
        rw [show run.1 = status from hrun]
        rintro rfl
        exact Layout.locateRow_ne_ok hfound
      refine ⟨?_, fun hok => absurd hok hfailed, fun _ => ?_⟩
      · rw [Result.prepareRowCache_error hrow hcurrent hmodel]
        exact hrun
      dsimp only
      rw [if_neg hfailed]
      rfl
  | ok located =>
      rw [hfound] at hrun hmodel
      obtain ⟨hstatus, hentries, hlaid⟩ := hrun
      have hlength := Layout.locateRow_length hfound
      refine ⟨?_, fun _ => ?_, fun hfailed => absurd hstatus hfailed⟩
      · rw [Result.prepareRowCache_ok hrow hcurrent hmodel]
        exact hstatus
      refine ⟨run.2.entries ++ (result.located.getD
        result.emptyLocated).drop run.2.entries.length, ?_, ?_, ?_⟩
      · dsimp only
        rw [if_pos hstatus]
        rfl
      · rw [hentries, List.take_left' hlength, hrow]
        exact hfound
      · dsimp only
        rw [List.take_left' (hlaid.length_eq.trans hlength), hentries,
          List.take_left' hlength]
        exact hlaid.toSpans

theorem currentSpan_of_unpublished {setting : Setting} {result : Result}
    (hcache : result.view.cacheRow = -1) (index : Nat) :
    ∃ status, status ≠ .ok ∧
      result.currentSpan setting index = .error status := by
  unfold Result.currentSpan
  split
  · exact ⟨.outOfRange, nofun, rfl⟩
  · split
    · next hfailed => exact ⟨result.fetchStatus, hfailed, rfl⟩
    · rw [if_pos]
      · exact ⟨.invalidState, nofun, rfl⟩
      · by_cases hcurrent : result.view.currentRow < 0
        · exact .inr (.inl hcurrent)
        · exact .inr (.inr (.inr (.inr (by rw [hcache]; omega))))

/-- Decoding a row reads only the tuple, whatever follows it in memory. -/
theorem row_inside {calloc : Bool} {result : Result}
    (hsize : tuple.length < 2 ^ 64) (hrow : result.view.tuple = some tuple)
    {memory : Nat → UInt8} (hmemory : Holding tuple memory)
    (positions : List Nat) :
    let run := prepareRowCache calloc result positions memory
    (∀ address ∈ run.2, address < tuple.length) ∧
    (run.1.status = .ok → ∃ cells, run.1.result.located = some cells ∧
      result.columns.length ≤ cells.length ∧
      Spans tuple.length (run.1.positions.take result.columns.length)
        (cells.take result.columns.length)) ∧
    (run.1.status ≠ .ok → run.1.result.view.cacheRow = -1 ∧
      ∀ setting, (∀ index, ∃ status, status ≠ .ok ∧
        run.1.result.currentSpan setting index = .error status) ∧
        Result.GettersRefuse setting run.1.result) ∧
    ∀ column base out,
      let located := tupleLocateColumn column base tuple.length out memory
      (∀ address ∈ located.2, address < tuple.length) ∧
      (located.1.1 = .ok → base ≤ located.1.2.start ∧
        located.1.2.start + located.1.2.length ≤ tuple.length) ∧
      (located.1.1 ≠ .ok → located.1.2 = out) := by
  dsimp only
  obtain ⟨hcached, hreads⟩ :=
    @reading_prepareRowCache tuple calloc result hsize hrow positions memory
      hmemory
  refine ⟨hreads, fun hok => ?_, fun hfailed => ?_, ?_⟩
  · obtain ⟨cells, hcells, hlocate, hspans⟩ := hcached.spans hok
    refine ⟨cells, hcells, ?_, hspans⟩
    have hlength := Layout.locateRow_length hlocate
    rw [List.length_take] at hlength
    omega
  · have hcache := hcached.unpublished hfailed
    have hspan (setting : Setting) (index : Nat) :=
      @currentSpan_of_unpublished setting _ hcache index
    exact ⟨hcache, fun setting => ⟨hspan setting,
      Result.gettersRefuse_of_error (hspan setting)⟩⟩
  · intro column base out
    have hlocated :
        Yields tuple (tupleLocateColumn column base tuple.length out) _ :=
      (yields_locate hsize).bind (reading_pure rfl)
    obtain ⟨hvalue, hinside⟩ := hlocated memory hmemory
    refine ⟨hinside, ?_, ?_⟩
    · rw [hvalue]
      cases hspan : Layout.locateColumn column base tuple with
      | ok span =>
          have hends := locateColumn_ends hspan
          exact fun _ => ⟨hends.start, hends.inside⟩
      | error status =>
          intro hok
          cases hok
          exact absurd hspan Layout.locateColumn_ne_ok
    · rw [hvalue]
      cases Layout.locateColumn column base tuple with
      | ok span => exact fun hfailed => absurd rfl hfailed
      | error status => exact fun _ => rfl

/-- A row of a CHAR(2) and a VARCHAR, with other octets behind it in memory. -/
def twoTexts : Result where
  columns := [⟨Layout.typeChar, 2⟩, ⟨Layout.typeVarchar, 20⟩]
  rowsAffected := 0
  generatedSerial := 0
  generatedSerial8 := 0
  hasGeneratedSerial := false
  hasGeneratedSerial8 := false
  statementType := 2
  warnings := 0
  stmtId := 1
  cursorType := .forwardOnly
  holdability := .holdOverCommit
  commitEpoch := 0
  rollbackEpoch := 0
  rows := ⟨[[97, 98, 1, 99]], by decide⟩
  view := ⟨0, 1, false, false, some [97, 98, 1, 99], 0, -1⟩
  eof := true
  errorCode := 0
  lastWasNull := false
  sawDone := true
  sawError := false
  located := none
  fetchStatus := .ok

def twoTextsMemory (address : Nat) : UInt8 := [97, 98, 1, 99].getD address 0xEE

theorem row_inside_twoTexts :
    (∀ address ∈ (prepareRowCache true twoTexts [0, 0] twoTextsMemory).2,
      address < 4) ∧
    (prepareRowCache true twoTexts [0, 0] twoTextsMemory).1.result.located =
      some [⟨0, 2, false⟩, ⟨3, 1, false⟩] := by
  have hmemory : Holding [97, 98, 1, 99] twoTextsMemory := by
    intro address hinside
    rw [twoTextsMemory, List.getD_eq_getElem?_getD,
      List.getElem?_eq_getElem hinside]
    rfl
  exact ⟨(@row_inside [97, 98, 1, 99] true twoTexts (by decide) rfl
    twoTextsMemory hmemory [0, 0]).1, rfl⟩

end Libsqli.TupleReads
