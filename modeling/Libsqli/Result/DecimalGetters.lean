import Libsqli.Result.LegacyDecimal

namespace Libsqli.Result

open Libsqli.Base100
open Libsqli.Data.Numeral
open Libsqli.Decimal
open Layout

/-! The string getters beside `sqli_result_get_decimal`. -/

variable {result : Result} {setting : Setting} {tuple bytes : List UInt8}
  {located : List Located} {index base : Nat} {column : Column}
  {type : WireType} {malloc : Nat → Bool} {out decoded : Decimal}
  {calloc buffers : Bool} {otherText : Result → Nat → List UInt8}

/-- What a string getter owes to the decimal getter. -/
structure TextAgrees (text : List UInt8 × Result) (decoded : Decimal) :
    Prop where
  null : decoded.isNull = true → text.1 = [] ∧ text.2.lastWasNull = true
  value : decoded.isNull = false → readNumeral text.1 = some decoded.number

def AllZero (bytes : List UInt8) : Prop := ∀ byte ∈ bytes, byte = 0

instance (bytes : List UInt8) : Decidable (AllZero bytes) :=
  inferInstanceAs (Decidable (∀ byte ∈ bytes, byte = 0))

theorem represents_allZero (hvalid : type.Valid)
    (hrepresents : Represents type bytes decoded) :
    decoded.isNull = true ↔ AllZero bytes := by
  have hwidth := hvalid.width_pos
  cases hrepresents with
  | null is_null bytes_eq =>
      refine iff_of_true is_null ?_
      rw [bytes_eq]
      exact fun byte hbyte => List.eq_of_mem_replicate hbyte
  | zero not_null limbs_nil bytes_eq =>
      refine iff_of_false (by rw [not_null]; nofun) fun hzero => ?_
      rw [bytes_eq] at hzero
      exact absurd (hzero positiveFlag List.mem_cons_self) (by decide)
  | nonzero magnitude zeros fits payload denotes bytes_eq =>
      refine iff_of_false (by rw [isNull, denotes.not_null]; nofun)
        fun hzero => ?_
      have hpositive := payload.codedGroups_value_pos
      have hgroups := byteGroups_groupBytes payload.codedGroups_lt
      rw [bytes_eq] at hzero
      have hnone : Data.Radix.ofBigEndian radix payload.codedGroups =
          0 := by
        rw [Data.Radix.ofBigEndian_eq_zero_iff (by decide), ← hgroups]
        intro group hgroup
        obtain ⟨byte, hbyte, rfl⟩ := List.mem_map.mp hgroup
        rw [hzero byte (List.mem_cons_of_mem _ hbyte)]
        rfl
      omega

/-- The decoder that `sqli_result_get_decimal` ends in. -/
theorem getDecimal_ok
    (hspan : currentSpan setting result index = .ok (column, bytes))
    (hget : getDecimal setting malloc result index out = (.ok, decoded)) :
    decimalType column.type = true ∧
      decodeWire malloc bytes column.encodedLength.toUInt16 out =
        (.ok, decoded) := by
  unfold getDecimal readColumn at hget
  rw [hspan] at hget
  dsimp only at hget
  by_cases hdecimal : decimalType column.type = false
  · rw [if_pos hdecimal] at hget
    cases hget
  · rw [if_neg hdecimal] at hget
    split at hget
    · cases hget
    · exact ⟨Bool.not_eq_false _ ▸ hdecimal, hget⟩

theorem rawScale_eq {encoded : UInt32}
    (htype : decodeType encoded.toUInt16 = .ok type) :
    (encoded &&& 0xFF).toNat = type.scale := by
  have hmask (value : Nat) : value &&& 0xFF = value % 256 :=
    Nat.and_two_pow_sub_one_eq_mod value 8
  unfold decodeType at htype
  simp only at htype
  split at htype
  · cases htype
  · cases htype
    change _ = encoded.toUInt16.toNat &&& 0xFF
    rw [UInt32.toNat_and, UInt32.toNat_toUInt16]
    change encoded.toNat &&& 0xFF = _
    rw [hmask, hmask]
    omega

/-- The entry of the row cache that a column is read through. -/
theorem currentSpan_entry
    (hspan : currentSpan setting result index = .ok (column, bytes)) :
    result.columns[index]? = some column ∧
      currentValue result index = .ok bytes := by
  have hread {row : List UInt8} {entry : Located}
      (hrow : result.view.tuple = some row)
      (hentry : (result.located.bind fun entries => entries[index]?) = some entry)
      (hinside : ¬ (row.length < entry.start ∨
        row.length - entry.start < entry.length)) :
      currentValue result index =
        .ok ((row.drop entry.start).take entry.length) := by
    rw [currentValue, hrow, hentry]
    exact if_neg hinside
  unfold currentSpan at hspan
  split at hspan
  · cases hspan
  · next found hcolumn =>
    split at hspan
    · cases hspan
    · split at hspan
      · cases hspan
      · split at hspan
        · next row entry hrow hentry =>
          split at hspan
          · cases hspan
          · next hinside =>
            cases hspan
            exact ⟨hcolumn, hread hrow hentry hinside⟩
        · cases hspan

theorem nullData_decimal {data : List UInt8} {type : UInt8}
    (hdecimal : decimalType type = true) :
    nullData type data = data.all (· == 0) := by
  have htypes : type = typeDecimal ∨ type = typeMoney := by
    simpa [decimalType] using hdecimal
  rcases htypes with rfl | rfl <;> rfl

theorem nullAt_eq (hshown : RowShown setting result tuple located)
    (hspan : currentSpan setting result index = .ok (column, bytes))
    (hdecimal : decimalType column.type = true) (hbytes : bytes ≠ []) :
    result.nullAt index = true ↔ AllZero bytes := by
  obtain ⟨hcolumn, hvalue⟩ := currentSpan_entry hspan
  unfold currentValue at hvalue
  rw [hshown.row, hshown.entries] at hvalue
  cases hentry : located[index]? with
  | none =>
      rw [Option.bind_some, hentry] at hvalue
      cases hvalue
  | some entry =>
      obtain ⟨found, span, hfound, -, hlocated⟩ :=
        locateRow_columnStart hshown.locates hentry
      cases hcolumn.symm.trans hfound
      rw [Option.bind_some, hentry] at hvalue
      dsimp only at hvalue
      split at hvalue
      · cases hvalue
      · cases hvalue
        have hlength : span.length ≠ 0 := by
          intro hzero
          rw [hlocated, hzero] at hbytes
          exact hbytes rfl
        have hnull : result.nullAt index = entry.isNull := by
          unfold nullAt
          rw [hshown.entries, Option.bind_some, hentry]
        rw [hnull, hlocated]
        change spanIsNull _ _ _ _ = true ↔ _
        rw [spanIsNull, if_neg hlength, nullData_decimal hdecimal,
          List.all_eq_true]
        exact forall₂_congr fun byte _ => beq_iff_eq

theorem RowShown.hasCache_eq (hshown : RowShown setting result tuple located) :
    hasCache result = true := by
  simp [hasCache, hshown.cacheRow, hshown.entries]

theorem getDecimalString_eq (hshown : RowShown setting result tuple located)
    (hspan : currentSpan setting result index = .ok (column, bytes))
    (hdecimal : decimalType column.type = true) :
    getDecimalString calloc base otherText result index =
      ((if result.nullAt index then []
        else decimalText (column.encodedLength &&& 0xFF).toNat bytes),
        { result with lastWasNull := result.nullAt index }) := by
  obtain ⟨hcolumn, hvalue⟩ := currentSpan_entry hspan
  have hcache := hshown.hasCache_eq
  have hopen := hshown.opened hcolumn
  unfold getDecimalString
  rw [hcolumn]
  dsimp only
  rw [if_neg hopen, hshown.isNullInternal_eq hcolumn calloc base]
  dsimp only
  split
  · rfl
  · have hextracted (flag : Bool) :
        withCache calloc { result with lastWasNull := flag } =
          { result with lastWasNull := flag } := if_pos hcache
    have hcached (flag : Bool) :
        ¬ hasCache { result with lastWasNull := flag } = false :=
      fun hnone => Bool.true_eq_false_eq_False (hcache.symm.trans hnone)
    have hcurrent (flag : Bool) :
        currentValue { result with lastWasNull := flag } index = .ok bytes :=
      hvalue
    rw [hdecimal, if_neg Bool.true_eq_false_eq_False, hextracted,
      if_neg (hcached _), hcurrent]

/-! The text is short enough for every buffer it passes through. -/

theorem length_integralText (digits : List UInt8) (decPos : Int) :
    (integralText digits decPos).length ≤ digits.length + 1 := by
  unfold integralText
  split
  · simp
  · have hsuffix := (skipZeros_spec (digits.take decPos.toNat)).2.1
    have hle := hsuffix.length_le
    rw [List.length_take] at hle
    omega

theorem strippedScale_le (digits : List UInt8) (decPos : Int) (scale : Nat) :
    strippedScale digits decPos scale ≤ scale := by
  induction scale with
  | zero => exact Nat.le_refl _
  | succ scale ih =>
      unfold strippedScale
      split
      · exact Nat.le_refl _
      · omega

theorem shownScale_le (rawScale : Nat) (fracDigits : Int) :
    shownScale rawScale fracDigits ≤ 30 := by
  unfold shownScale
  split
  · split
    · omega
    · split <;> omega
  · split <;> omega

theorem length_numeral (negative : Bool) (integral fraction : List UInt8) :
    (numeral negative integral fraction).length ≤
      integral.length + fraction.length + 2 := by
  have hsign : (if negative = true then [minus] else []).length ≤ 1 := by
    cases negative <;> decide
  have hfraction : (if fraction = [] then [] else point :: fraction).length ≤
      fraction.length + 1 := by
    split <;> simp
  rw [numeral, List.length_append, List.length_append]
  omega

theorem length_partsText (rawScale : Nat) (parts : Base100Parts) :
    (partsText rawScale parts).length ≤ 2 * parts.groups.length + 33 := by
  unfold partsText
  simp only
  refine (length_numeral _ _ _).trans ?_
  have hintegral := length_integralText (parts.groups.flatMap groupDigits)
    ((parts.groups.flatMap groupDigits).length - max parts.fracDigits 0)
  rw [length_groupsDigits] at hintegral ⊢
  have hshown := shownScale_le rawScale parts.fracDigits
  have hscale : (if rawScale = floatingScale then
      strippedScale (parts.groups.flatMap groupDigits)
        (((2 * parts.groups.length : Nat) : Int) - max parts.fracDigits 0)
        (shownScale rawScale parts.fracDigits)
      else shownScale rawScale parts.fracDigits) ≤ 30 := by
    split
    · exact (strippedScale_le _ _ _).trans hshown
    · exact hshown
  rw [fractionText, List.length_map, List.length_range]
  omega

theorem length_base100Complement (bytes : List UInt8) :
    (base100Complement bytes).length = bytes.length := by
  unfold base100Complement
  induction bytes with
  | nil => rfl
  | cons byte bytes ih =>
      rw [List.foldr_cons]
      split <;> simp only [List.length_cons, ih]

theorem length_base100Groups {raw : List UInt8} {parts : Base100Parts}
    (hparts : base100DecodeParts raw = some parts) :
    parts.groups.length ≤ raw.length := by
  unfold base100DecodeParts at hparts
  split at hparts
  · cases hparts
  · cases hparts
  · next header bytes _ =>
    cases hparts
    simp only [List.length_cons]
    split
    · rw [length_base100Complement]
      omega
    · omega

theorem length_decimalText (rawScale : Nat) (raw : List UInt8) :
    (decimalText rawScale raw).length ≤ 161 := by
  have hraw : (raw.take rawSize).length ≤ rawSize := List.length_take_le _ _
  unfold decimalText
  split
  · exact Nat.zero_le _
  · next parts hparts =>
    split
    · exact Nat.zero_le _
    · have hgroups := length_base100Groups hparts
      have htext := length_partsText rawScale parts
      rw [rawSize] at hraw
      rw [rawSize] at hgroups
      omega

theorem RowShown.flagged (hshown : RowShown setting result tuple located)
    (flag : Bool) :
    RowShown setting { result with lastWasNull := flag } tuple located :=
  ⟨⟨hshown.row, hshown.entries, hshown.locates, hshown.currentRow,
    hshown.cacheRow, hshown.beforeFirst, hshown.afterLast⟩,
    hshown.fetchStatus, hshown.alive⟩

theorem getString_eq (hshown : RowShown setting result tuple located)
    (hspan : currentSpan setting result index = .ok (column, bytes))
    (hdecimal : decimalType column.type = true) (hbytes : bytes ≠ []) :
    (getString calloc buffers base otherText result index).1 =
        (if result.nullAt index = true ∨ buffers = false then []
          else decimalText (column.encodedLength &&& 0xFF).toNat bytes) ∧
      (getString calloc buffers base otherText result index).2.lastWasNull =
        result.nullAt index := by
  obtain ⟨hcolumn, hvalue⟩ := currentSpan_entry hspan
  have hcache := hshown.hasCache_eq
  have hopen := hshown.opened hcolumn
  have hcached : withCache calloc result = result := if_pos hcache
  unfold getString
  rw [hcolumn]
  dsimp only
  rw [if_neg hopen, hcached, if_neg (by rw [hcache]; nofun)]
  cases hnull : result.nullAt index with
  | true => simp
  | false =>
      have hflagged := hshown.flagged false
      have hsame : currentValue { result with lastWasNull := false } index =
          .ok bytes := hvalue
      rw [if_neg nofun, hsame]
      dsimp only
      cases buffers with
      | false => simp
      | true =>
          have htext := @getDecimalString_eq { result with lastWasNull := false }
            setting tuple bytes located index base column calloc otherText
            hflagged hspan hdecimal
          have hnone : Result.nullAt { result with lastWasNull := false }
              index = false := hnull
          rw [hnone, if_neg nofun] at htext
          rw [if_neg (by simp [hbytes]), if_neg (by rw [hdecimal]; nofun), htext,
            if_neg (by simp)]
          refine ⟨List.take_of_length_le ?_, rfl⟩
          exact (length_decimalText _ _).trans (by decide)

/-! The two getters on a row. -/

theorem accepted_bytes
    (hspan : currentSpan setting result index = .ok (column, bytes))
    (htype : decodeType column.encodedLength.toUInt16 = .ok type)
    (hget : getDecimal setting malloc result index out = (.ok, decoded)) :
    decimalType column.type = true ∧ Represents type bytes decoded ∧
      bytes ≠ [] := by
  obtain ⟨hdecimal, hdecode⟩ := getDecimal_ok hspan hget
  obtain ⟨found, hfound, hlength, hrepresents⟩ := decodeWire_represents hdecode
  cases htype.symm.trans hfound
  have hwidth := (decodeType_valid htype).width_pos
  refine ⟨hdecimal, hrepresents, fun hempty => ?_⟩
  rw [hempty, List.length_nil] at hlength
  omega

/-- A text that is empty for NULL and otherwise that of the payload. -/
theorem textAgrees_iff {text : List UInt8 × Result}
    (htype : decodeType column.encodedLength.toUInt16 = .ok type)
    (hrepresents : Represents type bytes decoded)
    (hnull : AllZero bytes → text.1 = [] ∧ text.2.lastWasNull = true)
    (hvalue : ¬ AllZero bytes → text.1 = [] ∨
      text.1 = decimalText (column.encodedLength &&& 0xFF).toNat bytes) :
    TextAgrees text decoded ↔
      AllZero bytes ∨ text.1 ≠ [] ∧ Showable type bytes := by
  have hzero := represents_allZero (decodeType_valid htype) hrepresents
  by_cases hall : AllZero bytes
  · refine iff_of_true ⟨fun _ => hnull hall, fun hsome => ?_⟩ (.inl hall)
    rw [hzero.mpr hall] at hsome
    cases hsome
  · have hsome : decoded.isNull = false :=
      Bool.eq_false_iff.mpr fun h => hall (hzero.mp h)
    have hagrees := decimalText_agrees_iff htype hrepresents hsome
    rw [or_iff_right hall]
    constructor
    · intro htext
      have hread := htext.value hsome
      have hnonempty : text.1 ≠ [] := by
        intro hempty
        rw [hempty] at hread
        cases hread
      rw [(hvalue hall).resolve_left hnonempty, rawScale_eq htype] at hread
      exact ⟨hnonempty, hagrees.mp hread⟩
    · rintro ⟨hnonempty, hshowable⟩
      refine ⟨fun h => absurd (hzero.mp h) hall, fun _ => ?_⟩
      rw [(hvalue hall).resolve_left hnonempty, rawScale_eq htype]
      exact hagrees.mpr hshowable

theorem decimalText_ne_nil
    (htype : decodeType column.encodedLength.toUInt16 = .ok type)
    (hrepresents : Represents type bytes decoded) (hsome : ¬ AllZero bytes) :
    decimalText (column.encodedLength &&& 0xFF).toNat bytes ≠ [] := by
  have hvalid := decodeType_valid htype
  have hnull : decoded.isNull = false := Bool.eq_false_iff.mpr fun h =>
    hsome ((represents_allZero hvalid hrepresents).mp h)
  have hread := (represents_number hvalid hrepresents hnull).1.text_value
    hvalid.width_pos (decodeType_width htype).1
  intro hempty
  rw [rawScale_eq htype] at hempty
  rw [hempty] at hread
  cases hread

theorem getDecimalString_agrees_iff
    (hshown : RowShown setting result tuple located)
    (hspan : currentSpan setting result index = .ok (column, bytes))
    (htype : decodeType column.encodedLength.toUInt16 = .ok type)
    (hget : getDecimal setting malloc result index out = (.ok, decoded)) :
    TextAgrees (getDecimalString calloc base otherText result index) decoded ↔
      AllZero bytes ∨ Showable type bytes := by
  obtain ⟨hdecimal, hrepresents, hbytes⟩ := accepted_bytes hspan htype hget
  have hnullAt := nullAt_eq hshown hspan hdecimal hbytes
  rw [getDecimalString_eq hshown hspan hdecimal]
  refine (textAgrees_iff htype hrepresents (fun hall => ?_)
    fun hsome => .inr ?_).trans ?_
  · rw [if_pos (hnullAt.mpr hall)]
    exact ⟨rfl, hnullAt.mpr hall⟩
  · rw [if_neg fun h => hsome (hnullAt.mp h)]
  · by_cases hall : AllZero bytes
    · exact iff_of_true (.inl hall) (.inl hall)
    · rw [if_neg fun h => hall (hnullAt.mp h), or_iff_right hall,
        or_iff_right hall]
      exact and_iff_right (decimalText_ne_nil htype hrepresents hall)

theorem getString_agrees_iff
    (hshown : RowShown setting result tuple located)
    (hspan : currentSpan setting result index = .ok (column, bytes))
    (htype : decodeType column.encodedLength.toUInt16 = .ok type)
    (hget : getDecimal setting malloc result index out = (.ok, decoded)) :
    TextAgrees (getString calloc buffers base otherText result index) decoded ↔
      AllZero bytes ∨ buffers = true ∧ Showable type bytes := by
  obtain ⟨hdecimal, hrepresents, hbytes⟩ := accepted_bytes hspan htype hget
  have hnullAt := nullAt_eq hshown hspan hdecimal hbytes
  obtain ⟨htext, hflag⟩ := @getString_eq result setting tuple bytes located
    index base column calloc buffers otherText hshown hspan hdecimal hbytes
  refine (textAgrees_iff htype hrepresents (fun hall => ?_)
    fun hsome => ?_).trans ?_
  · rw [htext, hflag, if_pos (.inl (hnullAt.mpr hall))]
    exact ⟨rfl, hnullAt.mpr hall⟩
  · rw [htext]
    split
    · exact .inl rfl
    · exact .inr rfl
  · by_cases hall : AllZero bytes
    · exact iff_of_true (.inl hall) (.inl hall)
    · have hnull : ¬ result.nullAt index = true := fun h => hall (hnullAt.mp h)
      rw [htext, or_iff_right hall, or_iff_right hall]
      cases buffers with
      | false => simp
      | true =>
          rw [if_neg (by simp [hnull]), and_iff_right rfl]
          exact and_iff_right (decimalText_ne_nil htype hrepresents hall)

/-- On a fetched row the string getters give what the decimal getter gives, exactly
if the payload is NULL or can be shown; `sqli_result_get_string` needs its buffers
besides. -/
theorem decimalStrings_agree_iff
    (hshown : RowShown setting result tuple located)
    (hspan : currentSpan setting result index = .ok (column, bytes))
    (htype : decodeType column.encodedLength.toUInt16 = .ok type)
    (hget : getDecimal setting malloc result index out = (.ok, decoded))
    (calloc buffers : Bool) (base : Nat)
    (otherText : Result → Nat → List UInt8) :
    (TextAgrees (getDecimalString calloc base otherText result index) decoded ↔
        AllZero bytes ∨ Showable type bytes) ∧
      (TextAgrees (getString calloc buffers base otherText result index)
          decoded ↔
        AllZero bytes ∨ buffers = true ∧ Showable type bytes) :=
  ⟨getDecimalString_agrees_iff hshown hspan htype hget,
    getString_agrees_iff hshown hspan htype hget⟩

/-- A row of a DECIMAL(16) column: 12.345. -/
def fewDigits : Result :=
  { twoIntegers with
    columns := [⟨typeDecimal, 0x10FF⟩]
    rows := ⟨[[0xC1, 12, 34, 50, 0, 0, 0, 0, 0, 0]], by decide⟩ }

/-- A row of a DECIMAL(16) column: ten to the power of 38. -/
def manyZeros : Result :=
  { twoIntegers with
    columns := [⟨typeDecimal, 0x10FF⟩]
    rows := ⟨[[0xD4, 1, 0, 0, 0, 0, 0, 0, 0, 0]], by decide⟩ }

def fetched (result : Result) : Result :=
  result.afterMoves [(unowned, .fetch)]

theorem fewDigits_shown :
    RowShown unowned (fetched fewDigits)
      [0xC1, 12, 34, 50, 0, 0, 0, 0, 0, 0] [⟨0, 10, false⟩] :=
  ⟨⟨rfl, rfl, rfl, by decide, rfl, rfl, rfl⟩, rfl, rfl⟩

theorem manyZeros_shown :
    RowShown unowned (fetched manyZeros)
      [0xD4, 1, 0, 0, 0, 0, 0, 0, 0, 0] [⟨0, 10, false⟩] :=
  ⟨⟨rfl, rfl, rfl, by decide, rfl, rfl, rfl⟩, rfl, rfl⟩

/-- What the decimal getter stores for the first column of a fetched row. -/
def storedDecimal (result : Result) : Decimal :=
  (getDecimal unowned (fun _ => true) (fetched result) 0 .null).2

theorem decimalStrings_agree_fewDigits :
    (fetch unowned fewDigits).1 = .ok ∧
      TextAgrees (getDecimalString true 0 (fun _ _ => []) (fetched fewDigits) 0)
        (storedDecimal fewDigits) ∧
      TextAgrees
        (getString true true 0 (fun _ _ => []) (fetched fewDigits) 0)
        (storedDecimal fewDigits) := by
  have hspan : currentSpan unowned (fetched fewDigits) 0 =
      .ok (⟨typeDecimal, 0x10FF⟩, [0xC1, 12, 34, 50, 0, 0, 0, 0, 0, 0]) := rfl
  have htype : decodeType (0x10FF : UInt32).toUInt16 =
      .ok ⟨16, floatingScale, 10⟩ := rfl
  have hget : getDecimal unowned (fun _ => true) (fetched fewDigits) 0 .null =
      (.ok, storedDecimal fewDigits) := by
    decide +kernel
  obtain ⟨hdecimal, hstring⟩ := decimalStrings_agree_iff fewDigits_shown hspan
    htype hget true true 0 fun _ _ => []
  exact ⟨rfl, hdecimal.mpr (.inr (by decide +kernel)),
    hstring.mpr (.inr ⟨rfl, by decide +kernel⟩)⟩

/-- The text of ten to the power of 38 has lost its trailing zeros. -/
theorem manyZeros_differs :
    (fetch unowned manyZeros).1 = .ok ∧
      (getDecimal unowned (fun _ => true) (fetched manyZeros) 0 .null).1 =
        .ok ∧
      (storedDecimal manyZeros).isNull = false ∧
      ¬ TextAgrees
        (getDecimalString true 0 (fun _ _ => []) (fetched manyZeros) 0)
        (storedDecimal manyZeros) := by
  have hspan : currentSpan unowned (fetched manyZeros) 0 =
      .ok (⟨typeDecimal, 0x10FF⟩, [0xD4, 1, 0, 0, 0, 0, 0, 0, 0, 0]) := rfl
  have htype : decodeType (0x10FF : UInt32).toUInt16 =
      .ok ⟨16, floatingScale, 10⟩ := rfl
  have hget : getDecimal unowned (fun _ => true) (fetched manyZeros) 0 .null =
      (.ok, storedDecimal manyZeros) := by
    decide +kernel
  refine ⟨rfl, congrArg Prod.fst hget, by decide +kernel, fun hagrees => ?_⟩
  rcases (getDecimalString_agrees_iff manyZeros_shown hspan htype hget).mp
    hagrees with hzero | hshowable
  · exact absurd hzero (by decide +kernel)
  · exact absurd hshowable (by decide +kernel)

end Libsqli.Result
