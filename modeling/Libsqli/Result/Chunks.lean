import Libsqli.Result.Buffered
import Libsqli.Result.Getters
import Libsqli.Result.Shown

namespace Libsqli.Result

open Layout

/-! `sqli_result_stream_bytes`. -/

def lobLike (type : UInt8) : Bool :=
  type ∈ [typeByte, typeText, typeBlob, typeClob]

/-- The NULL forms known where a row has no cache. -/
def uncachedNull (column : Column) (base : Nat) (tuple : List UInt8) : Bool :=
  match locateColumn column base tuple with
  | .error _ => true
  | .ok span =>
      if span.length = 0 then
        !isStringyType column.type && (isTwoBytePrefixed column.type ||
          allZeroIsNullSentinel column.type)
      else if isCharType column.type ∨
          column.type ∈ [typeVarchar, typeNvchar] then false
      else nullData column.type ((tuple.drop span.start).take span.length)

/-- `sqli_result_is_null_internal`; `base` is the column's `col_start_pos`. -/
def isNullInternal (calloc : Bool) (base : Nat) (result : Result)
    (index : Nat) : Bool × Result :=
  match result.columns[index]?, result.view.tuple with
  | some column, some tuple =>
      if result.view.currentRow < 0 ∨ tuple = [] then (true, result)
      else
        let cached :=
          if result.view.cacheRow = result.view.currentRow then result
          else (prepareRowCache calloc result).2
        if cached.view.cacheRow = cached.view.currentRow ∧
            cached.located.isSome then (cached.nullAt index, cached)
        else (uncachedNull column base tuple, cached)
  | _, _ => (true, result)

/-- The chunks that a callback is called with, `given` before; it sees them all,
the latest last, and says whether to go on. -/
def deliverChunks (accepts : List (List UInt8) → Bool) (size : Nat)
    (given : List (List UInt8)) (data : List UInt8) :
    Status × List (List UInt8) :=
  if _hdone : data = [] ∨ size = 0 then (.ok, given)
  else
    let shown := given ++ [data.take size]
    if accepts shown = false then (.err, shown)
    else deliverChunks accepts size shown (data.drop size)
termination_by data.length
decreasing_by
  have := List.length_pos_iff.mpr fun h => _hdone (.inl h)
  rw [List.length_drop]
  omega

/-- The stored data of a column that is not a LOB, or whose LOB could not be
fetched. -/
def streamColumn (accepts : List (List UInt8) → Bool) (size : Nat)
    (column : Column) (base : Nat) (tuple : List UInt8) :
    Status × List (List UInt8) :=
  match locateColumn column base tuple with
  | .error status => (status, [])
  | .ok span => deliverChunks accepts size []
      ((tuple.drop span.start).take span.length)

/-- `sqli_result_stream_bytes` -/
def streamBytes (calloc : Bool) (services : Services)
    (accepts : List (List UInt8) → Bool) (size base : Nat) (result : Result)
    (index : Nat) : (Status × List (List UInt8)) × Result :=
  if size = 0 ∨ result.columns.length ≤ index then
    ((.invalidState, []), result)
  else
    let checked := isNullInternal calloc base result index
    let flagged := { checked.2 with lastWasNull := checked.1 }
    if checked.1 then ((.ok, []), flagged)
    else
      match result.columns[index]?, result.view.tuple with
      | some column, some tuple =>
          if lobLike column.type then
            match services.materialize index with
            | .ok lob => (deliverChunks accepts size [] lob, flagged)
            | .error _ =>
                (streamColumn accepts size column base tuple, flagged)
          else (streamColumn accepts size column base tuple, flagged)
      | _, _ => ((.invalidState, []), flagged)

/-! A callback that accepts everything. -/

theorem deliverChunks_all {size : Nat} (hsize : 0 < size)
    (given : List (List UInt8)) (data : List UInt8) :
    (deliverChunks (fun _ => true) size given data).1 = .ok ∧
      ∃ chunks, (deliverChunks (fun _ => true) size given data).2 =
          given ++ chunks ∧
        (∀ chunk ∈ chunks, chunk ≠ [] ∧ chunk.length ≤ size) ∧
        chunks.flatten = data := by
  fun_induction deliverChunks (fun _ => true) size given data with
  | case1 given data hdone =>
      have hempty : data = [] := by
        rcases hdone with hempty | hzero
        · exact hempty
        · omega
      exact ⟨rfl, [], by simp, by simp, hempty.symm⟩
  | case2 given data hdone shown haccepts => cases haccepts
  | case3 given data hdone shown haccepts ih =>
      obtain ⟨hstatus, chunks, hchunks, hbounds, hflatten⟩ := ih
      refine ⟨hstatus, data.take size :: chunks, ?_, ?_, ?_⟩
      · rw [hchunks]
        exact List.append_assoc _ _ _
      · refine List.forall_mem_cons.mpr ⟨⟨?_, List.length_take_le _ _⟩,
          hbounds⟩
        intro hempty
        rcases List.take_eq_nil_iff.mp hempty with hzero | hnil
        · omega
        · exact hdone (.inl hnil)
      · rw [List.flatten_cons, hflatten, List.take_append_drop]

/-! The spans of the row cache and those found again. -/

variable {column : Column} {base : Nat} {tuple : List UInt8} {span : Span}

/-- The `col_start_pos` that the row cache leaves at a column. -/
def columnStart (tuple : List UInt8) : Nat → List Column → Nat → Nat
  | start, column :: columns, index + 1 =>
      match columnSpan column start tuple with
      | .ok span => columnStart tuple (start + span.width) columns index
      | .error _ => start
  | start, _, _ => start

theorem locateRow_columnStart {columns : List Column} {start index : Nat}
    {located : List Located} {entry : Located}
    (hlocate : locateRow tuple start columns = .ok located)
    (hentry : located[index]? = some entry) :
    ∃ column span, columns[index]? = some column ∧
      columnSpan column (columnStart tuple start columns index) tuple =
        .ok span ∧
      entry = ⟨span.start, span.length, spanIsNull column.type
        (columnStart tuple start columns index) span tuple⟩ := by
  induction columns generalizing start index located with
  | nil =>
      cases hlocate
      cases hentry
  | cons column columns ih =>
      unfold locateRow at hlocate
      split at hlocate
      · cases hlocate
      · split at hlocate
        · cases hlocate
        · next span hspan =>
          split at hlocate
          · cases hlocate
          · split at hlocate
            · cases hlocate
            · next rest hrest =>
              cases hlocate
              cases index with
              | zero =>
                  cases hentry
                  exact ⟨column, span, rfl, hspan, rfl⟩
              | succ index =>
                  have hfound := ih hrest hentry
                  rw [columnStart, hspan]
                  exact hfound

/-- Found again by `sqli_tuple_locate_column`, a column has the same data: a CHAR
of declared width that fits and does not look like a short one, a type 45 whose
octet is also what stands behind an opaque header, and any other type. -/
def FoundAgain (column : Column) (base : Nat) (tuple : List UInt8) : Prop :=
  if isCharType column.type then 0 < charWidth column →
    charWidth column ≤ tuple.length - base ∧
      shortChar tuple base (charWidth column) = false
  else if column.type = typeDboolean then ∃ span,
    opaqueSpan tuple base = .ok span ∧
      (tuple.drop span.start).take span.length = (tuple.drop base).take 1
  else True

def dataOf (tuple : List UInt8) (span : Span) : List UInt8 :=
  (tuple.drop span.start).take span.length

theorem fixedWidth_unpacked (hwidth : 0 < fixedWidthForType column.type) :
    column.type ∉ [typeDecimal, typeMoney, typeDatetime, typeInterval] := by
  intro hpacked
  simp only [List.mem_cons, List.not_mem_nil, or_false] at hpacked
  rcases hpacked with htype | htype | htype | htype <;>
    rw [htype] at hwidth <;> exact absurd hwidth (by decide)

/-- Most columns are located alike. -/
theorem locateColumn_of_columnSpan
    (hspan : columnSpan column base tuple = .ok span)
    (hchar : isCharType column.type = false)
    (hlob : lobLike column.type = false)
    (hboolean : column.type ≠ typeDboolean) :
    locateColumn column base tuple = .ok span := by
  have hcolumn : column.type ∉ [typeByte, typeText] := by
    intro hmem
    have hany : column.type ∈ [typeByte, typeText, typeBlob, typeClob] := by
      simp only [List.mem_cons, List.not_mem_nil, or_false] at hmem ⊢
      exact hmem.elim .inl fun h => .inr (.inl h)
    rw [lobLike, decide_eq_false_iff_not] at hlob
    exact hlob hany
  have hwidth : declaredWidth column = fixedWidthForType column.type := by
    rw [declaredWidth, if_neg (by rw [hchar]; nofun)]
  unfold columnSpan at hspan
  by_cases hbase : tuple.length ≤ base
  · rw [if_pos hbase] at hspan
    cases hspan
  rw [if_neg hbase, if_neg (by rw [hchar]; nofun), if_neg hcolumn] at hspan
  by_cases hopaque : column.type ∈ [typeBool, typeLvarchar, typeBlob, typeClob]
  · rw [if_pos hopaque] at hspan
    exact hspan
  rw [if_neg hopaque] at hspan
  by_cases hfixed : 0 < fixedWidthForType column.type
  · rw [if_pos hfixed] at hspan
    have hunpacked := fixedWidth_unpacked hfixed
    have hplain : column.type ∉
        [typeBool, typeDboolean, typeLvarchar, typeBlob, typeClob] := by
      simp only [List.mem_cons, List.not_mem_nil, or_false] at hopaque ⊢
      tauto
    unfold locateColumn
    rw [if_neg hbase, if_neg (by rw [hchar]; exact fun h => nomatch h.1),
      if_neg hunpacked, if_neg hcolumn, if_neg hplain, hwidth, if_pos hfixed]
    exact hspan
  rw [if_neg hfixed] at hspan
  by_cases hpacked : column.type ∈
      [typeDecimal, typeMoney, typeDatetime, typeInterval]
  · rw [if_pos hpacked] at hspan
    split at hspan
    · next hfits =>
      unfold locateColumn
      rw [if_neg hbase, if_neg (by rw [hchar]; exact fun h => nomatch h.1),
        if_pos hpacked, plainSpan, if_pos hfits]
      exact hspan
    · exact hspan
  rw [if_neg hpacked] at hspan
  have hplain : column.type ∉
      [typeBool, typeDboolean, typeLvarchar, typeBlob, typeClob] := by
    simp only [List.mem_cons, List.not_mem_nil, or_false] at hopaque ⊢
    tauto
  unfold locateColumn
  rw [if_neg hbase, if_neg (by rw [hchar]; exact fun h => nomatch h.1),
    if_neg hpacked, if_neg hcolumn, if_neg hplain, hwidth, if_neg hfixed]
  have hsame : (column.type ∈
        [typeVarchar, typeNvchar, typeChar, typeNchar] ∨
          ¬isTwoBytePrefixed column.type) ↔
      (column.type ∈ [typeVarchar, typeNvchar] ∨
        ¬isTwoBytePrefixed column.type) := by
    simp only [isCharType, decide_eq_false_iff_not, List.mem_cons,
      List.not_mem_nil, or_false] at hchar ⊢
    tauto
  rw [if_congr hsame rfl rfl]
  exact hspan

theorem locateColumn_char (hchar : isCharType column.type = true)
    (hbase : ¬ tuple.length ≤ base) :
    locateColumn column base tuple =
      if shortChar tuple base (charWidth column) then
        .ok ⟨base + 1, numberAt tuple base 1, charWidth column⟩
      else if 0 < charWidth column then plainSpan tuple base (charWidth column)
      else prefixedSpan tuple base 1 := by
  have hwidth : declaredWidth column = charWidth column := if_pos hchar
  have htype : column.type = typeChar ∨ column.type = typeNchar := by
    simpa [isCharType] using hchar
  unfold locateColumn
  rw [if_neg hbase, hwidth]
  by_cases hshort : shortChar tuple base (charWidth column) = true
  · rw [if_pos ⟨hchar, hshort⟩, if_pos hshort]
  · rw [if_neg fun h => hshort h.2, if_neg hshort]
    have hpacked : column.type ∉
        [typeDecimal, typeMoney, typeDatetime, typeInterval] := by
      rcases htype with htype | htype <;> rw [htype] <;> decide
    have hlob : column.type ∉ [typeByte, typeText] := by
      rcases htype with htype | htype <;> rw [htype] <;> decide
    have hopaque : column.type ∉
        [typeBool, typeDboolean, typeLvarchar, typeBlob, typeClob] := by
      rcases htype with htype | htype <;> rw [htype] <;> decide
    have hprefixed : column.type ∈
        [typeVarchar, typeNvchar, typeChar, typeNchar] := by
      rcases htype with htype | htype <;> rw [htype] <;> decide
    rw [if_neg hpacked, if_neg hlob, if_neg hopaque,
      if_pos (show column.type ∈ _ ∨ _ from .inl hprefixed)]

theorem columnSpan_char (hchar : isCharType column.type = true)
    (hbase : ¬ tuple.length ≤ base) :
    columnSpan column base tuple =
      if 0 < charWidth column ∧ charWidth column ≤ tuple.length - base then
        .ok ⟨base, charWidth column, charWidth column⟩
      else if base + 1 < tuple.length then prefixedSpan tuple base 1
      else .error .protoError := by
  unfold columnSpan
  rw [if_neg hbase, if_pos hchar]

theorem columnSpan_inside (hspan : columnSpan column base tuple = .ok span) :
    ¬ tuple.length ≤ base := by
  intro hbase
  unfold columnSpan at hspan
  rw [if_pos hbase] at hspan
  cases hspan

/-- A short CHAR has one octet less than its declared width. -/
theorem shortChar_length {width : Nat}
    (hshort : shortChar tuple base width = true) :
    0 < width ∧ 1 + numberAt tuple base 1 = width ∧
      numberAt tuple base 1 ≤ tuple.length - (base + 1) := by
  simp only [shortChar, Bool.and_eq_true, decide_eq_true_eq, beq_iff_eq]
    at hshort
  exact ⟨hshort.1.1.1.1, hshort.1.2, hshort.2⟩

theorem foundAgain_char (hchar : isCharType column.type = true)
    (hspan : columnSpan column base tuple = .ok span) :
    (∃ again, locateColumn column base tuple = .ok again ∧
      dataOf tuple again = dataOf tuple span) ↔
      FoundAgain column base tuple := by
  have hbase := columnSpan_inside hspan
  rw [columnSpan_char hchar hbase] at hspan
  rw [locateColumn_char hchar hbase, FoundAgain, if_pos hchar]
  by_cases hshort : shortChar tuple base (charWidth column) = true
  · obtain ⟨hpos, hwidth, hroom⟩ := shortChar_length hshort
    have hfits : charWidth column ≤ tuple.length - base := by omega
    rw [if_pos ⟨hpos, hfits⟩] at hspan
    cases hspan
    rw [if_pos hshort]
    constructor
    · rintro ⟨again, hagain, hdata⟩
      cases hagain
      have hlength := congrArg List.length hdata
      simp only [dataOf, List.length_take, List.length_drop] at hlength
      omega
    · intro hfound
      rw [(hfound hpos).2] at hshort
      cases hshort
  · rw [if_neg hshort]
    by_cases hpos : 0 < charWidth column
    · rw [if_pos hpos, plainSpan]
      by_cases hfits : charWidth column ≤ tuple.length - base
      · rw [if_pos ⟨hpos, hfits⟩] at hspan ⊢
        cases hspan
        exact iff_of_true ⟨_, rfl, rfl⟩
          fun _ => ⟨hfits, Bool.eq_false_of_not_eq_true hshort⟩
      · rw [if_neg fun h => hfits h.2]
        refine iff_of_false ?_ fun hfound => hfits (hfound hpos).1
        rintro ⟨again, hagain, -⟩
        cases hagain
    · rw [if_neg fun h => hpos h.1] at hspan
      rw [if_neg hpos]
      split at hspan
      · exact iff_of_true ⟨span, hspan, rfl⟩ fun h => absurd h hpos
      · cases hspan

theorem foundAgain_boolean (hboolean : column.type = typeDboolean)
    (hspan : columnSpan column base tuple = .ok span) :
    (∃ again, locateColumn column base tuple = .ok again ∧
      dataOf tuple again = dataOf tuple span) ↔
      FoundAgain column base tuple := by
  have hbase := columnSpan_inside hspan
  have hlocate : locateColumn column base tuple = opaqueSpan tuple base := by
    unfold locateColumn
    rw [if_neg hbase, hboolean, if_neg (fun h => by cases h.1),
      if_neg (by decide), if_neg (by decide), if_pos (by decide)]
  have hfixed : columnSpan column base tuple = plainSpan tuple base 1 := by
    unfold columnSpan
    rw [if_neg hbase, hboolean, if_neg (by decide), if_neg (by decide),
      if_neg (by decide), if_pos (by decide)]
    rfl
  rw [hfixed, plainSpan] at hspan
  split at hspan
  · cases hspan
    rw [hlocate, FoundAgain, if_neg (by rw [hboolean]; decide),
      if_pos hboolean]
    exact Iff.rfl
  · cases hspan

theorem foundAgain_iff (hlob : lobLike column.type = false)
    (hspan : columnSpan column base tuple = .ok span) :
    (∃ again, locateColumn column base tuple = .ok again ∧
      dataOf tuple again = dataOf tuple span) ↔
      FoundAgain column base tuple := by
  cases hchar : isCharType column.type with
  | true => exact foundAgain_char hchar hspan
  | false =>
      by_cases hboolean : column.type = typeDboolean
      · exact foundAgain_boolean hboolean hspan
      · have hlocate := locateColumn_of_columnSpan hspan hchar hlob hboolean
        rw [FoundAgain, if_neg (by rw [hchar]; nofun), if_neg hboolean]
        exact iff_of_true ⟨span, hlocate, rfl⟩ trivial

/-! Reading a column whole and in chunks. -/

/-- What streaming with a callback that accepts everything owes to
`sqli_result_get_bytes`. -/
structure Agrees (size : Nat) (whole : Status × Buffer)
    (streamed : Status × List (List UInt8)) : Prop where
  payload : whole.1 = .ok → whole.2.isNull = false → streamed.1 = .ok ∧
    (∀ chunk ∈ streamed.2, chunk ≠ [] ∧ chunk.length ≤ size) ∧
    streamed.2.flatten = (whole.2.out.getD []).take whole.2.required
  null : whole.1 = .ok → whole.2.isNull = true → streamed.2 = []
  failed : whole.1 ≠ .ok → streamed.1 ≠ .ok

/-- A column that is NULL, a LOB that can be fetched, or data found again. -/
def Streamable (services : Services) (isNull : Bool) (index : Nat)
    (column : Column) (base : Nat) (tuple : List UInt8) : Prop :=
  isNull = true ∨
    if lobLike column.type then ∃ lob, services.materialize index = .ok lob
    else FoundAgain column base tuple

variable {result : Result} {setting : Setting} {services : Services}
  {located : List Located} {index size : Nat} {buffer : Buffer}
  {room : List UInt8}

theorem RowShown.currentSpan (hshown : RowShown setting result tuple located)
    (hcolumn : result.columns[index]? = some column) :
    ∃ span, columnSpan column (columnStart tuple 0 result.columns index) tuple =
        .ok span ∧
      currentSpan setting result index = .ok (column, dataOf tuple span) := by
  have hlength := locateRow_length hshown.locates
  obtain ⟨hindex, -⟩ := List.getElem?_eq_some_iff.mp hcolumn
  have hinside : index < located.length := by omega
  have hentry : located[index]? = some located[index] :=
    List.getElem?_eq_getElem hinside
  obtain ⟨found, span, hfound, hspan, hlocated⟩ :=
    locateRow_columnStart hshown.locates hentry
  cases hcolumn.symm.trans hfound
  obtain ⟨hstart, hinside⟩ := locateRow_inside hshown.locates _
    (List.mem_of_getElem? hentry)
  rw [hlocated] at hstart hinside hentry
  refine ⟨span, hspan, ?_⟩
  have hopen : ¬(result.isClosedByCommit setting = true ∨
      result.view.currentRow < 0 ∨ result.view.atBeforeFirst = true ∨
      result.view.atAfterLast = true ∨
      result.view.cacheRow ≠ result.view.currentRow) := by
    rw [hshown.alive, hshown.beforeFirst, hshown.afterLast, hshown.cacheRow]
    have := hshown.currentRow
    simp [this]
  unfold Result.currentSpan
  rw [hcolumn]
  dsimp only
  rw [if_neg (not_not.mpr hshown.fetchStatus), if_neg hopen, hshown.row,
    hshown.entries]
  dsimp only [Option.bind]
  rw [hentry]
  dsimp only
  rw [if_neg (by dsimp only at hstart hinside; omega)]
  rfl

theorem RowShown.getBytes_eq (hshown : RowShown setting result tuple located)
    (hcolumn : result.columns[index]? = some column) :
    ∃ span, columnSpan column (columnStart tuple 0 result.columns index) tuple =
        .ok span ∧
      getBytes setting services result index buffer =
        if result.nullAt index then copyResultBuffer none false buffer
        else if lobLike column.type then
          match services.materialize index with
          | .error status => (status, buffer)
          | .ok lob => copyResultBuffer (some lob) false buffer
        else copyResultBuffer (some (dataOf tuple span)) false buffer := by
  obtain ⟨span, hspan, hcurrent⟩ := hshown.currentSpan hcolumn
  refine ⟨span, hspan, ?_⟩
  unfold getBytes readColumn
  rw [hcurrent]
  have hlob : lobLike column.type = true ↔
      column.type ∈ [typeByte, typeText, typeBlob, typeClob] :=
    decide_eq_true_iff
  exact if_congr Iff.rfl rfl (if_congr hlob.symm rfl rfl)

theorem RowShown.tuple_ne_nil (hshown : RowShown setting result tuple located)
    (hcolumn : result.columns[index]? = some column) : tuple ≠ [] := by
  obtain ⟨span, hspan, -⟩ := hshown.currentSpan hcolumn
  rintro rfl
  exact columnSpan_inside hspan (Nat.zero_le _)

theorem RowShown.opened (hshown : RowShown setting result tuple located)
    (hcolumn : result.columns[index]? = some column) :
    ¬ (result.view.currentRow < 0 ∨ result.view.tuple.getD [] = []) := by
  have hcurrent := hshown.currentRow
  rw [hshown.row]
  rintro (hbefore | hempty)
  · omega
  · exact hshown.tuple_ne_nil hcolumn hempty

theorem RowShown.isNullInternal_eq
    (hshown : RowShown setting result tuple located)
    (hcolumn : result.columns[index]? = some column) (calloc : Bool)
    (base : Nat) :
    isNullInternal calloc base result index =
      (result.nullAt index, result) := by
  have htuple := hshown.tuple_ne_nil hcolumn
  have hcurrent := hshown.currentRow
  unfold isNullInternal
  rw [hcolumn, hshown.row]
  dsimp only
  rw [if_neg (by rintro (h | h); omega; exact htuple h),
    if_pos hshown.cacheRow, if_pos ⟨hshown.cacheRow, by rw [hshown.entries]; rfl⟩]

theorem RowShown.streamBytes_eq
    (hshown : RowShown setting result tuple located)
    (hcolumn : result.columns[index]? = some column) (hsize : 0 < size)
    (calloc : Bool) (accepts : List (List UInt8) → Bool) (base : Nat) :
    (streamBytes calloc services accepts size base result index).1 =
      if result.nullAt index then (.ok, [])
      else if lobLike column.type then
        match services.materialize index with
        | .ok lob => deliverChunks accepts size [] lob
        | .error _ => streamColumn accepts size column base tuple
      else streamColumn accepts size column base tuple := by
  obtain ⟨hindex, -⟩ := List.getElem?_eq_some_iff.mp hcolumn
  have hnull := hshown.isNullInternal_eq hcolumn calloc base
  unfold streamBytes
  rw [if_neg (by omega), hnull]
  dsimp only
  split
  · rfl
  · rw [hcolumn, hshown.row]
    dsimp only
    split
    · cases services.materialize index with
      | ok lob => rfl
      | error status => rfl
    · rfl

/-- What a caller's buffer that is large enough holds afterwards. -/
theorem copyResultBuffer_some (hout : buffer.out = some room)
    {data : List UInt8} (hroom : data.length ≤ room.length) :
    copyResultBuffer (some data) false buffer =
      (.ok, ⟨some (data ++ room.drop data.length), data.length, false⟩) := by
  unfold copyResultBuffer
  simp only [hout]
  rw [if_neg (by simp)]
  have hfits : ¬ room.length < data.length := by omega
  simp [hfits]

theorem agrees_of_data {streamed : Status × List (List UInt8)}
    (hout : buffer.out = some room) {data : List UInt8}
    (hroom : data.length ≤ room.length) :
    Agrees size (copyResultBuffer (some data) false buffer) streamed ↔
      streamed.1 = .ok ∧
        (∀ chunk ∈ streamed.2, chunk ≠ [] ∧ chunk.length ≤ size) ∧
        streamed.2.flatten = data := by
  rw [copyResultBuffer_some hout hroom]
  have htake : (data ++ room.drop data.length).take data.length = data :=
    List.take_left
  constructor
  · intro hagrees
    obtain ⟨hstatus, hbounds, hflatten⟩ := hagrees.payload rfl rfl
    exact ⟨hstatus, hbounds, hflatten.trans htake⟩
  · rintro ⟨hstatus, hbounds, hflatten⟩
    exact ⟨fun _ _ => ⟨hstatus, hbounds, hflatten.trans htake.symm⟩, nofun,
      fun hfailed => absurd rfl hfailed⟩

theorem deliverChunks_agrees (hsize : 0 < size) (data : List UInt8) :
    (deliverChunks (fun _ => true) size [] data).1 = .ok ∧
      (∀ chunk ∈ (deliverChunks (fun _ => true) size [] data).2,
        chunk ≠ [] ∧ chunk.length ≤ size) ∧
      (deliverChunks (fun _ => true) size [] data).2.flatten = data := by
  obtain ⟨hstatus, chunks, hchunks, hbounds, hflatten⟩ :=
    deliverChunks_all hsize [] data
  rw [hchunks, List.nil_append]
  exact ⟨hstatus, hbounds, hflatten⟩

/-- A column found again. -/
theorem streamColumn_agrees_iff (hsize : 0 < size) (data : List UInt8) :
    (streamColumn (fun _ => true) size column base tuple).1 = .ok ∧
      (∀ chunk ∈ (streamColumn (fun _ => true) size column base tuple).2,
        chunk ≠ [] ∧ chunk.length ≤ size) ∧
      (streamColumn (fun _ => true) size column base tuple).2.flatten = data ↔
    ∃ again, locateColumn column base tuple = .ok again ∧
      dataOf tuple again = data := by
  unfold streamColumn
  cases hlocate : locateColumn column base tuple with
  | error status =>
      refine iff_of_false ?_ ?_
      · rintro ⟨hstatus, -⟩
        cases hstatus
        exact locateColumn_ne_ok hlocate
      · rintro ⟨again, hagain, -⟩
        cases hagain
  | ok again =>
      obtain ⟨hstatus, hbounds, hflatten⟩ :=
        deliverChunks_agrees hsize (dataOf tuple again)
      constructor
      · rintro ⟨-, -, hdata⟩
        exact ⟨again, rfl, hflatten.symm.trans hdata⟩
      · rintro ⟨other, hother, hdata⟩
        cases hother
        exact ⟨hstatus, hbounds, hflatten.trans hdata⟩

theorem locateColumn_lob (hlob : lobLike column.type = true)
    (hspan : columnSpan column base tuple = .ok span) :
    locateColumn column base tuple = .ok span := by
  have htype : column.type ∈ [typeByte, typeText, typeBlob, typeClob] :=
    decide_eq_true_iff.mp hlob
  have hbase := columnSpan_inside hspan
  rw [← hspan]
  simp only [List.mem_cons, List.not_mem_nil, or_false] at htype
  by_cases hlegacy : column.type ∈ [typeByte, typeText]
  · have hplain : column.type ∉
        [typeDecimal, typeMoney, typeDatetime, typeInterval] ∧
          isCharType column.type = false := by
      rcases htype with htype | htype | htype | htype <;> rw [htype] <;> decide
    unfold locateColumn columnSpan
    rw [if_neg hbase, if_neg hbase, hplain.2, if_neg (fun h => nomatch h.1),
      if_neg hplain.1, if_pos hlegacy, if_neg nofun, if_pos hlegacy]
  · have hopaque : column.type ∈
        [typeBool, typeLvarchar, typeBlob, typeClob] ∧
          isCharType column.type = false := by
      rcases htype with htype | htype | htype | htype
      · exact absurd (by rw [htype]; decide) hlegacy
      · exact absurd (by rw [htype]; decide) hlegacy
      · rw [htype]
        decide
      · rw [htype]
        decide
    rw [columnSpan, if_neg hbase, hopaque.2, if_neg nofun, if_neg hlegacy,
      if_pos hopaque.1]

/-- The stored data of a LOB column is always found again. -/
theorem streamColumn_lob (hlob : lobLike column.type = true)
    (hspan : columnSpan column base tuple = .ok span) (hsize : 0 < size) :
    (streamColumn (fun _ => true) size column base tuple).1 = .ok :=
  ((streamColumn_agrees_iff hsize (dataOf tuple span)).mpr
    ⟨span, locateColumn_lob hlob hspan, rfl⟩).1

/-- Streamed in chunks, a column of a fetched row gives what it gives as a whole,
exactly if it is NULL, a LOB that can be fetched, or found again. -/
theorem streamBytes_agrees_iff
    (hshown : RowShown setting result tuple located)
    (hcolumn : result.columns[index]? = some column) (hsize : 0 < size)
    (hout : buffer.out = some room) (hroom : tuple.length ≤ room.length)
    (hlobs : ∀ lob, services.materialize index = .ok lob →
      lob.length ≤ room.length)
    (hfetches : ∀ index status, services.materialize index = .error status →
      status ≠ .ok) (calloc : Bool) :
    Agrees size (getBytes setting services result index buffer)
        (streamBytes calloc services (fun _ => true) size
          (columnStart tuple 0 result.columns index) result index).1 ↔
      Streamable services (result.nullAt index) index column
        (columnStart tuple 0 result.columns index) tuple := by
  obtain ⟨span, hspan, hbytes⟩ :=
    @RowShown.getBytes_eq column tuple result setting services located index
      buffer hshown hcolumn
  have hchunks := @RowShown.streamBytes_eq column tuple result setting services
    located index size hshown hcolumn hsize calloc (fun _ => true)
    (columnStart tuple 0 result.columns index)
  generalize columnStart tuple 0 result.columns index = base
    at hspan hchunks ⊢
  rw [hbytes, hchunks, Streamable]
  cases hnull : result.nullAt index with
  | true =>
      simp only [↓reduceIte]
      exact iff_of_true ⟨nofun, fun _ _ => rfl,
        fun hfailed => absurd rfl hfailed⟩ (.inl trivial)
  | false =>
      simp only [Bool.false_eq_true, ↓reduceIte, false_or]
      cases hlob : lobLike column.type with
      | true =>
          simp only [↓reduceIte]
          cases hfetch : services.materialize index with
          | ok lob =>
              dsimp only
              rw [agrees_of_data hout (hlobs lob hfetch)]
              exact iff_of_true (deliverChunks_agrees hsize lob) ⟨lob, rfl⟩
          | error status =>
              have hstreamed := streamColumn_lob hlob hspan hsize
              have hfailed : status ≠ .ok := hfetches index status hfetch
              refine iff_of_false ?_ ?_
              · intro hagrees
                exact hagrees.failed hfailed hstreamed
              · rintro ⟨lob, hsome⟩
                cases hsome
      | false =>
          simp only [Bool.false_eq_true, ↓reduceIte]
          have hdata : (dataOf tuple span).length ≤ room.length := by
            rw [dataOf, List.length_take, List.length_drop]
            omega
          rw [agrees_of_data hout hdata, streamColumn_agrees_iff hsize,
            foundAgain_iff hlob hspan]

/-- A CHAR(5) column whose first octet looks like a length. -/
def shortText : Result :=
  { twoIntegers with
    columns := [⟨typeChar, 5⟩]
    rows := ⟨[[4, 97, 98, 99, 100], [104, 101, 108, 108, 111]], by decide⟩ }

/-- LOBs that cannot be fetched, and nothing else to help. -/
def noServices : Services :=
  ⟨fun _ => true, true, fun _ => .ok none, fun _ => .ok none,
    fun _ => .ok none, fun _ => .ok none, fun _ => .error .timeout, .ok, false⟩

def eightOctets : Buffer := ⟨some (List.replicate 8 0), 0, false⟩

def secondText : Result :=
  shortText.afterMoves [(unowned, .fetch), (unowned, .fetch)]

theorem secondText_shown :
    RowShown unowned secondText [104, 101, 108, 108, 111] [⟨0, 5, false⟩] :=
  ⟨⟨rfl, rfl, rfl, by decide, rfl, rfl, rfl⟩, rfl, rfl⟩

theorem streamBytes_agrees_shortText :
    Agrees 2 (getBytes unowned noServices secondText 0 eightOctets)
      (streamBytes true noServices (fun _ => true) 2 0 secondText 0).1 := by
  have hcolumn : secondText.columns[0]? = some ⟨typeChar, 5⟩ := rfl
  have hout : eightOctets.out = some (List.replicate 8 0) := rfl
  have hfailing : ∀ (index : Nat) (status : Status),
      noServices.materialize index = .error status → status ≠ .ok := by
    intro index status hfailed
    cases hfailed
    decide
  have hagain : FoundAgain ⟨typeChar, 5⟩ 0 [104, 101, 108, 108, 111] :=
    fun _ => by decide
  have hlobs : ∀ lob, noServices.materialize 0 = .ok lob →
      lob.length ≤ (List.replicate 8 (0 : UInt8)).length :=
    fun lob hfetched => by cases hfetched
  exact (streamBytes_agrees_iff secondText_shown hcolumn (by decide) hout
    (by decide) hlobs hfailing true).mpr (.inr hagain)

/-- Read whole the column has five octets, in chunks the last four of them. -/
theorem shortText_differs :
    (fetch unowned shortText).1 = .ok ∧
      getBytes unowned noServices (fetch unowned shortText).2 0 eightOctets =
        (.ok, ⟨some [4, 97, 98, 99, 100, 0, 0, 0], 5, false⟩) ∧
      (streamBytes true noServices (fun _ => true) 8 0
        (fetch unowned shortText).2 0).1 = (.ok, [[97, 98, 99, 100]]) := by
  refine ⟨rfl, rfl, ?_⟩
  have hchunks : (streamBytes true noServices (fun _ => true) 8 0
      (fetch unowned shortText).2 0).1 =
        deliverChunks (fun _ => true) 8 [] [97, 98, 99, 100] := rfl
  rw [hchunks]
  simp [deliverChunks]

end Libsqli.Result
