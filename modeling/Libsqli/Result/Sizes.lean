import Libsqli.Result.Integers

namespace Libsqli.Result

open Layout

/-! The size contract of `sqli_result_get_string_len` and
`sqli_result_get_bytes`. -/

variable {result : Result} {setting : Setting} {services : Services}
  {index : Nat} {column : Column} {bytes terminator : List UInt8}

/-- A call reports a size that does not depend on the buffer it is given, and
writes all of the value or nothing. -/
inductive SizeContract (terminator : List UInt8)
    (value : Except Status (Option (List UInt8)))
    (call : Buffer → Status × Buffer) : Prop
  | fails (status : Status) (hstatus : status ≠ .ok)
      (hvalue : value = .error status)
      (unchanged : ∀ out, call out = (status, out))
  | tooLong (content : List UInt8) (hvalue : value = .ok (some content))
      (hlong : 2 ^ 64 ≤ (content ++ terminator).length)
      (unchanged : ∀ out, call out = (.limitExceeded, out))
  | null (hvalue : value = .ok none)
      (unwritten : ∀ out, call out =
        (.ok, { out with required := 0, isNull := true }))
  | given (content : List UInt8) (hvalue : value = .ok (some content))
      (query : ∀ required isNull, call ⟨none, required, isNull⟩ =
        (.ok, ⟨none, (content ++ terminator).length, false⟩))
      (stored : ∀ old required isNull,
        (content ++ terminator).length ≤ old.length →
        call ⟨some old, required, isNull⟩ = (.ok,
          ⟨some (content ++ terminator ++
              old.drop (content ++ terminator).length),
            (content ++ terminator).length, false⟩))
      (tooSmall : ∀ old required isNull,
        old.length < (content ++ terminator).length →
        call ⟨some old, required, isNull⟩ = (.bufferTooSmall,
          ⟨some old, (content ++ terminator).length, false⟩))

/-- A buffer of the size that a query reported is large enough. -/
theorem SizeContract.sufficient {value : Except Status (Option (List UInt8))}
    {call : Buffer → Status × Buffer}
    (hcontract : SizeContract terminator value call)
    {required reported : Nat} {isNull flag : Bool}
    (hquery : call ⟨none, required, isNull⟩ = (.ok, ⟨none, reported, flag⟩))
    {old : List UInt8} (hroom : reported ≤ old.length) (size : Nat)
    (null : Bool) : (call ⟨some old, size, null⟩).1 = .ok := by
  cases hcontract with
  | fails status hstatus hvalue unchanged =>
      rw [unchanged] at hquery
      exact absurd (congrArg Prod.fst hquery) hstatus
  | tooLong content hvalue hlong unchanged =>
      rw [unchanged] at hquery
      cases hquery
  | null hvalue unwritten => rw [unwritten]
  | given content hvalue query stored tooSmall =>
      rw [query] at hquery
      cases hquery
      rw [stored old size null hroom]

/-! What the two getters copy. -/

/-- A service that fails does not report success. -/
structure Services.Failing (services : Services) : Prop where
  decimal : ∀ value, services.formatDecimal value ≠ .error .ok
  datetime : ∀ value, services.formatDatetime value ≠ .error .ok
  interval : ∀ value, services.formatInterval value ≠ .error .ok
  date : ∀ value, services.formatDate value ≠ .error .ok
  lob : ∀ index, services.materialize index ≠ .error .ok
  convert : ∀ text, services.convert text ≠ .error .ok

/-- The text of a column, `none` for NULL. -/
def stringValue (setting : Setting) (services : Services) (result : Result)
    (index : Nat) : Except Status (Option (List UInt8)) :=
  match currentSpan setting result index with
  | .error status => .error status
  | .ok (column, bytes) =>
      if result.nullAt index then .ok none
      else columnText setting services result index column bytes

/-- The payload of a column, `none` for NULL. -/
def bytesValue (setting : Setting) (services : Services) (result : Result)
    (index : Nat) : Except Status (Option (List UInt8)) :=
  match currentSpan setting result index with
  | .error status => .error status
  | .ok (column, bytes) =>
      if result.nullAt index then .ok none
      else if column.type ∈ [typeByte, typeText, typeBlob, typeClob] then
        (services.materialize index).map some
      else .ok (some bytes)

theorem currentSpan_ne_ok : currentSpan setting result index ≠ .error .ok := by
  unfold currentSpan
  split
  · nofun
  · split
    · next hfailed =>
      intro herror
      exact hfailed (Except.error.inj herror)
    · split
      · nofun
      · split
        · split <;> nofun
        · nofun

theorem formatted_ne_ok {α : Type} {read : Status × α}
    {format : α → Except Status (Option (List UInt8))}
    (hformat : ∀ value, format value ≠ .error .ok) :
    formatted read format ≠ .error .ok := by
  obtain ⟨status, value⟩ := read
  cases status with
  | ok => exact hformat value
  | _ => nofun

theorem map_ne_ok {α β : Type} {value : Except Status α} {change : α → β}
    (hvalue : value ≠ .error .ok) : value.map change ≠ .error .ok := by
  cases value with
  | ok value => nofun
  | error status =>
      intro herror
      cases Except.error.inj herror
      exact hvalue rfl

theorem columnText_ne_ok (hservices : services.Failing) :
    columnText setting services result index column bytes ≠ .error .ok := by
  unfold columnText
  split
  · split
    · nofun
    · exact formatted_ne_ok hservices.decimal
  · split
    · exact map_ne_ok (formatted_ne_ok hservices.datetime)
    · split
      · exact map_ne_ok (formatted_ne_ok hservices.interval)
      · split
        · exact formatted_ne_ok hservices.date
        · split
          · refine map_ne_ok ?_
            cases hlob : services.materialize index with
            | error status =>
                intro herror
                cases Except.error.inj herror
                exact hservices.lob index hlob
            | ok lob => exact hservices.convert lob
          · split
            · nofun
            · exact map_ne_ok (hservices.convert _)

theorem stringValue_ne_ok (hservices : services.Failing) :
    stringValue setting services result index ≠ .error .ok := by
  unfold stringValue
  split
  · next status hspan =>
    intro herror
    cases Except.error.inj herror
    exact currentSpan_ne_ok hspan
  · split
    · nofun
    · exact columnText_ne_ok hservices

theorem bytesValue_ne_ok (hservices : services.Failing) :
    bytesValue setting services result index ≠ .error .ok := by
  unfold bytesValue
  split
  · next status hspan =>
    intro herror
    cases Except.error.inj herror
    exact currentSpan_ne_ok hspan
  · split
    · nofun
    · split
      · exact map_ne_ok (hservices.lob index)
      · nofun

/-- Both getters are `copy_result_buffer` on the value. -/
def copied (text : Bool) (value : Except Status (Option (List UInt8)))
    (out : Buffer) : Status × Buffer :=
  match value with
  | .error status => (status, out)
  | .ok data => copyResultBuffer data text out

theorem getStringLen_copied (out : Buffer) :
    getStringLen setting services result index out =
      copied true (stringValue setting services result index) out := by
  unfold getStringLen readColumn stringValue copied
  cases currentSpan setting result index with
  | error status => rfl
  | ok span =>
      obtain ⟨column, bytes⟩ := span
      dsimp only
      split
      · rfl
      · cases columnText setting services result index column bytes <;> rfl

theorem getBytes_copied (out : Buffer) :
    getBytes setting services result index out =
      copied false (bytesValue setting services result index) out := by
  unfold getBytes readColumn bytesValue copied
  cases currentSpan setting result index with
  | error status => rfl
  | ok span =>
      obtain ⟨column, bytes⟩ := span
      dsimp only
      split
      · rfl
      · split
        · cases services.materialize index <;> rfl
        · rfl

/-- What `copy_result_buffer` adds to a text. -/
def terminatorOf (text : Bool) : List UInt8 := if text then [0] else []

theorem copied_contract (text : Bool)
    {value : Except Status (Option (List UInt8))}
    (hvalue : value ≠ .error .ok) :
    SizeContract (terminatorOf text) value (copied text value) := by
  cases value with
  | error status =>
      exact .fails status (fun hok => hvalue (hok ▸ rfl)) rfl fun _ => rfl
  | ok data =>
      cases data with
      | none => exact .null rfl fun _ => rfl
      | some content =>
          by_cases hlimit : text = true ∧ 2 ^ 64 ≤ content.length + 1
          · refine .tooLong content rfl ?_ fun out => ?_
            · rw [hlimit.1, terminatorOf, if_pos rfl, List.length_append]
              exact hlimit.2
            · simp only [copied, copyResultBuffer]
              rw [if_pos hlimit]
          · have hwritten : (if text then content ++ [0] else content) =
                content ++ terminatorOf text := by
              unfold terminatorOf
              cases text <;> simp
            refine .given content rfl ?_ ?_ ?_
            · intro required isNull
              simp only [copied, copyResultBuffer]
              rw [if_neg hlimit, hwritten]
            · intro old required isNull hroom
              simp only [copied, copyResultBuffer]
              rw [if_neg hlimit, hwritten, if_neg (Nat.not_lt.mpr hroom)]
            · intro old required isNull hsmall
              simp only [copied, copyResultBuffer]
              rw [if_neg hlimit, hwritten, if_pos hsmall]

theorem getters_sizeContract (hservices : services.Failing)
    (setting : Setting) (result : Result) (index : Nat) :
    SizeContract [0] (stringValue setting services result index)
        (getStringLen setting services result index) ∧
      SizeContract [] (bytesValue setting services result index)
        (getBytes setting services result index) ∧
      ∀ call ∈ [getStringLen setting services result index,
          getBytes setting services result index],
        ∀ required isNull reported flag,
          call ⟨none, required, isNull⟩ = (.ok, ⟨none, reported, flag⟩) →
          ∀ old size null, old.length = reported →
            (call ⟨some old, size, null⟩).1 = .ok := by
  have htext : SizeContract [0] (stringValue setting services result index)
      (getStringLen setting services result index) := by
    rw [show getStringLen setting services result index =
      copied true (stringValue setting services result index) from
        funext getStringLen_copied]
    exact copied_contract true (stringValue_ne_ok hservices)
  have hbytes : SizeContract [] (bytesValue setting services result index)
      (getBytes setting services result index) := by
    rw [show getBytes setting services result index =
      copied false (bytesValue setting services result index) from
        funext getBytes_copied]
    exact copied_contract false (bytesValue_ne_ok hservices)
  refine ⟨htext, hbytes, ?_⟩
  intro call hcall required isNull reported flag hquery old size null hsize
  simp only [List.mem_cons, List.not_mem_nil, or_false] at hcall
  rcases hcall with rfl | rfl
  · exact htext.sufficient hquery hsize.ge size null
  · exact hbytes.sufficient hquery hsize.ge size null

/-- A row with a CHAR column. -/
theorem getters_sizeContract_text :
    SizeContract [0] (stringValue unowned noServices secondText 0)
      (getStringLen unowned noServices secondText 0) := by
  have hservices : noServices.Failing := by
    constructor <;>
    · intro value herror
      cases herror
  exact (getters_sizeContract hservices unowned secondText 0).1

end Libsqli.Result
