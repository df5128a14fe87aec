import Libsqli.Decimal.Magnitude
import Libsqli.Decimal.Object
import Mathlib.Data.List.GetD

namespace Libsqli.Decimal

open Libsqli.Data

/-! Objects with their storage against the values they stand for. -/

namespace Object

/-- The arrays have the sizes that the fields say. -/
structure Sized (object : Object) : Prop where
  inline_length : object.inlineLimbs.length = Decimal.inlineLimbs
  limbs_length : object.limbs.length = object.capacity
  used_le : object.used ≤ object.capacity

/-- The object holds the value. -/
structure Stores (object : Object) (value : Decimal) : Prop extends
    Object.Sized object where
  parts_eq : object.parts = value.parts

/-- A temporary with a coefficient, possibly behind leading zero limbs. -/
structure Carries (temporary : Object) (coefficient : Nat) : Prop extends
    Object.Sized temporary where
  limbs_lt : ∀ limb ∈ temporary.limbs.take temporary.used, limb < limbBase
  value_eq : Nat.ofDigits limbBase (temporary.limbs.take temporary.used) =
    coefficient

/-- The call does to objects what `spec` does to values, writes within its
arrays only, and leaves the object alone when it fails. -/
def Simulates (call : Object → Option (Status × Object))
    (spec : Decimal → Status × Decimal) : Prop :=
  ∀ object value, object.Stores value →
    ∃ result, call object = some ((spec value).1, result) ∧
      result.Stores (spec value).2 ∧ ((spec value).1 ≠ .ok → result = object)

/-- The allocations that succeed, by their size in bytes. -/
def allocates (malloc : Malloc) (bytes : Nat) : Bool := (malloc (bytes / 4)).isSome

variable {object reserved destination temporary : Object} {value : Decimal}
  {malloc : Malloc} {block limbs : List Nat}

@[simp] theorem init_limbs :
    init.limbs = List.replicate Decimal.inlineLimbs 0 := rfl

theorem init_sized : init.Sized := ⟨rfl, rfl, Nat.zero_le _⟩

theorem init_stores : init.Stores null := ⟨init_sized, rfl⟩

@[simp] theorem limbs_setLimbs (object : Object) (block : List Nat) :
    (object.setLimbs block).limbs = block := by
  unfold setLimbs limbs
  cases object.heapLimbs <;> rfl

/-- A block of the right length, its first `count` limbs and the other fields. -/
theorem Sized.assign (hsized : reserved.Sized)
    (hlength : block.length = reserved.limbs.length)
    (hcount : count ≤ block.length) (scale : Int32) (negative isNull : Bool) :
    Sized { reserved.setLimbs block with
      used := count, scale, negative, isNull } := by
  have hinline := hsized.inline_length
  have hcapacity := hsized.limbs_length
  unfold limbs at hlength hcapacity
  constructor <;> simp only [setLimbs, limbs] <;>
    cases hheap : reserved.heapLimbs <;>
    simp only [hheap, Option.getD_none, Option.getD_some] at * <;> omega

theorem assign_parts (block : List Nat) (count : Nat) (scale : Int32)
    (negative isNull : Bool) :
    parts { reserved.setLimbs block with
      used := count, scale, negative, isNull } =
        ⟨block.take count, scale, negative, isNull⟩ := by
  unfold parts setLimbs limbs
  cases reserved.heapLimbs <;> rfl

theorem move_parts (destination temporary : Object) :
    (destination.move temporary).parts = temporary.parts := by
  unfold move parts limbs
  cases hheap : temporary.heapLimbs <;> simp

theorem Sized.move (hdestination : destination.Sized)
    (htemporary : temporary.Sized) : (destination.move temporary).Sized := by
  have hinline := hdestination.inline_length
  have hother := htemporary.inline_length
  have hlimbs := htemporary.limbs_length
  have hused := htemporary.used_le
  unfold limbs at hlimbs
  cases hheap : temporary.heapLimbs with
  | none =>
      simp only [hheap, Option.getD_none] at hlimbs
      constructor <;> simp only [Object.move, hheap, limbs, Option.getD_none] <;>
        omega
  | some block =>
      simp only [hheap, Option.getD_some] at hlimbs
      constructor <;> simp only [Object.move, hheap, limbs, Option.getD_some] <;>
        omega

/-- Moving a temporary leaves its value in the destination. -/
theorem Sized.move_stores (hdestination : destination.Sized)
    (htemporary : temporary.Sized) (hparts : temporary.parts = value.parts) :
    (destination.move temporary).Stores value :=
  ⟨hdestination.move htemporary, (move_parts _ _).trans hparts⟩

theorem assign_digits (block : List Nat) (count : Nat) (scale : Int32)
    (negative isNull : Bool) :
    digits { reserved.setLimbs block with
      used := count, scale, negative, isNull } =
        decimalDigits (block.take count) :=
  congrArg (fun parts : Parts => decimalDigits parts.limbs)
    (assign_parts block count scale negative isNull)

theorem limbCount_le (hfits : width ≤ maxDigits) : limbCount width ≤ maxLimbs :=
  Nat.div_le_div_right (by omega)

theorem le_limbCount (width : Nat) : width ≤ limbCount width * limbDigits := by
  simp only [limbCount, limbDigits]
  omega

/-- Space for a temporary is there unless an allocation fails. -/
theorem reserve_init (malloc : Malloc) (hcount : count ≤ maxLimbs) :
    (∃ reserved, reserve malloc init count = (.ok, reserved) ∧
      reserved.Sized ∧ count ≤ reserved.limbs.length) ∨
    reserve malloc init count = (.allocFail, init) ∧
      Decimal.inlineLimbs < count ∧ malloc count = none := by
  have hcapacity : init.capacity = Decimal.inlineLimbs := rfl
  rw [reserve, if_neg (Nat.not_lt.mpr hcount), hcapacity]
  by_cases hinline : count ≤ Decimal.inlineLimbs
  · rw [if_pos hinline]
    exact .inl ⟨init, rfl, init_sized, hinline⟩
  · rw [if_neg hinline]
    cases hmalloc : malloc count with
    | none => exact .inr ⟨rfl, Nat.lt_of_not_le hinline, rfl⟩
    | some block =>
        have hlimbs : (init.limbs.take init.used ++
            block.val.drop init.used).length = count := by
          simp [init, block.property]
        exact .inl ⟨_, rfl, ⟨rfl, hlimbs, Nat.zero_le _⟩, hlimbs.ge⟩

theorem take_trimmedCount (hcount : count ≤ limbs.length) :
    limbs.take (trimmedCount limbs count) = trimLimbs (limbs.take count) := by
  induction count with
  | zero => simp [trimmedCount]
  | succ count ih =>
      have htake : limbs.take (count + 1) =
          limbs.take count ++ [limbs.getD count 0] := by
        rw [List.getD_eq_getElem _ _ hcount, List.take_succ_eq_append_getElem]
      rw [trimmedCount]
      split
      · rename_i hzero
        rw [htake, hzero, trimLimbs_concat_zero, ih (by omega)]
      · rename_i hnonzero
        rw [htake, trimLimbs_concat_nonzero _ hnonzero]

theorem trimmedCount_le (limbs : List Nat) (count : Nat) :
    trimmedCount limbs count ≤ count := by
  induction count with
  | zero => exact Nat.le_refl _
  | succ count ih =>
      rw [trimmedCount]
      split <;> omega

theorem trimmedCount_length (limbs : List Nat) :
    trimmedCount limbs limbs.length = (trimLimbs limbs).length := by
  have htake := congrArg List.length
    (take_trimmedCount (Nat.le_refl limbs.length))
  have hle := trimmedCount_le limbs limbs.length
  rw [List.length_take, List.take_length, Nat.min_eq_left hle] at htake
  exact htake

theorem Stores.setNull (hstores : object.Stores value) :
    object.setNull.2.Stores null where
  inline_length := hstores.inline_length
  limbs_length := hstores.limbs_length
  used_le := Nat.zero_le _
  parts_eq := by simp [Object.setNull, parts, null, nullParts]

theorem take_trimLimbs (limbs : List Nat) :
    limbs.take (trimLimbs limbs).length = trimLimbs limbs := by
  rw [← trimmedCount_length, take_trimmedCount (Nat.le_refl _), List.take_length]

theorem reserve_status (malloc : Malloc) (count : Nat) :
    (reserve malloc init count).1 =
      Decimal.reserve (allocates malloc) count := by
  have hcapacity : init.capacity = Decimal.inlineLimbs := rfl
  have hmalloc : allocates malloc (count * 4) = (malloc count).isSome := by
    rw [allocates, Nat.mul_div_cancel _ (by decide)]
  rw [reserve, Decimal.reserve, hcapacity, hmalloc]
  split
  · rfl
  · split
    · rfl
    · cases malloc count <;> rfl

/-- `sqli_decimal_set_parts` on objects is that on values. -/
theorem setParts_simulates (malloc : Malloc) (parts : Parts) :
    Simulates (setParts malloc parts)
      (Decimal.setParts (allocates malloc) parts) := by
  intro object value hstores
  unfold setParts Decimal.setParts
  by_cases hnull : parts.isNull = true
  · rw [if_pos hnull, if_pos hnull]
    exact ⟨_, rfl, hstores.setNull, fun hfailed => absurd rfl hfailed⟩
  rw [if_neg hnull, if_neg hnull]
  by_cases hlong : maxLimbs < parts.limbs.length
  · rw [if_pos hlong, if_pos hlong]
    exact ⟨object, rfl, hstores, fun _ => rfl⟩
  rw [if_neg hlong, if_neg hlong]
  by_cases hlimbs : ∀ limb ∈ parts.limbs, limb < limbBase
  swap
  · rw [if_pos hlimbs, dif_neg hlimbs]
    exact ⟨object, rfl, hstores, fun _ => rfl⟩
  rw [if_neg (not_not.mpr hlimbs), dif_pos hlimbs]
  have htrimmed : (trimmedParts parts).limbs = trimLimbs parts.limbs := rfl
  have hle := (trimLimbs_isPrefix parts.limbs).length_le
  have hstatus := reserve_status malloc (trimLimbs parts.limbs).length
  simp only [trimmedCount_length, htrimmed, take_trimLimbs]
  rcases reserve_init malloc (hle.trans (Nat.le_of_not_lt hlong)) with
    ⟨reserved, hreserved, hsized, hroom⟩ | ⟨hreserved, -, -⟩
  · rw [hreserved] at hstatus ⊢
    rw [← hstatus]
    simp only [Block.storeAll_eq hroom, Option.map_some]
    rw [assign_digits, List.take_left]
    by_cases hdigits : decimalDigits (trimLimbs parts.limbs) ≤ maxDigits
    · rw [if_neg (Nat.not_lt.mpr hdigits), dif_pos hdigits]
      refine ⟨_, rfl, hstores.move_stores (hsized.assign
        (Block.length_storeAll hroom) (by simp) _ _ _) ?_,
        fun hfailed => absurd rfl hfailed⟩
      rw [assign_parts, List.take_left]
      simp [trimmedParts]
    · rw [if_pos (Nat.lt_of_not_le hdigits), dif_neg hdigits]
      exact ⟨object, rfl, hstores, fun _ => rfl⟩
  · rw [hreserved] at hstatus ⊢
    rw [← hstatus]
    exact ⟨object, rfl, hstores, fun _ => rfl⟩

theorem trim_parts (hsized : temporary.Sized) (scale : Int32) (negative : Bool) :
    (trim { temporary with isNull := false, negative, scale }).parts =
      trimmedParts ⟨temporary.limbs.take temporary.used, scale, negative,
        false⟩ := by
  have hused : temporary.used ≤ temporary.limbs.length :=
    hsized.limbs_length ▸ hsized.used_le
  have htake := take_trimmedCount hused
  have hlimbs : limbs (trim { temporary with
      isNull := false, negative, scale }) = temporary.limbs := rfl
  have hcount : trimmedCount temporary.limbs temporary.used = 0 ↔
      trimLimbs (temporary.limbs.take temporary.used) = [] := by
    have hle := (trimmedCount_le temporary.limbs temporary.used).trans hused
    rw [← htake, List.take_eq_nil_iff]
    constructor
    · exact .inl
    · rintro (hzero | hempty)
      · exact hzero
      · have hnone := congrArg List.length hempty
        rw [List.length_nil] at hnone
        omega
  rw [parts, hlimbs]
  simp only [trim, trimmedParts, Parts.mk.injEq, true_and, and_true]
  refine ⟨htake, ?_⟩
  by_cases hzero : trimmedCount temporary.limbs temporary.used = 0
  · have hempty := hcount.mp hzero
    have hnone : trimmedCount
        (limbs { temporary with isNull := false, negative, scale })
          temporary.used = 0 := hzero
    simp [hnone, hempty]
  · have hnonempty : ¬ trimLimbs (temporary.limbs.take temporary.used) = [] :=
      fun hempty => hzero (hcount.mpr hempty)
    have hsome : ¬ trimmedCount
        (limbs { temporary with isNull := false, negative, scale })
          temporary.used = 0 := hzero
    simp [hsome, hnonempty]

theorem Sized.trim (hsized : temporary.Sized) (scale : Int32)
    (negative : Bool) :
    Sized (trim { temporary with isNull := false, negative, scale }) where
  inline_length := hsized.inline_length
  limbs_length := hsized.limbs_length
  used_le := (trimmedCount_le _ _).trans hsized.used_le

/-- Limbs at the start of a reserved block make a coefficient. -/
theorem Sized.carries {front back : List Nat} (hsized : reserved.Sized)
    (hlength : (front ++ back).length = reserved.limbs.length)
    (hcount : count = front.length)
    (hlimbs : ∀ limb ∈ front, limb < limbBase) :
    Carries { reserved.setLimbs (front ++ back) with used := count }
      (Nat.ofDigits limbBase front) := by
  subst hcount
  have htake : List.take front.length
      (reserved.setLimbs (front ++ back)).limbs = front := by
    rw [limbs_setLimbs, List.take_left]
  exact ⟨hsized.assign hlength (by simp) _ _ _,
    by
      intro limb member
      exact hlimbs limb (htake ▸ member),
    congrArg (Nat.ofDigits limbBase) htake⟩

/-- A temporary with an admissible coefficient becomes the new value. -/
theorem Carries.finish (hcarries : temporary.Carries whole)
    (hdestination : destination.Sized)
    (hdigits : whole < 10 ^ maxDigits) (scale : Int32)
    (negative : Bool) :
    ∃ after : Decimal, after.isNull = false ∧
      after.coefficient = whole ∧ after.scale = scale ∧
      after.negative = (whole ≠ 0 && negative) ∧
      (destination.move
        (trim { temporary with isNull := false, negative, scale })).Stores
          after := by
  let imported : Parts :=
    ⟨temporary.limbs.take temporary.used, scale, negative, false⟩
  have hvalue : (trimmedParts imported).coefficient = whole := by
    rw [Parts.coefficient, trimmedParts, ofDigits_trimLimbs]
    exact hcarries.value_eq
  have hlimbs : ∀ limb ∈ (trimmedParts imported).limbs, limb < limbBase :=
    fun limb member => hcarries.limbs_lt limb
      ((trimLimbs_isPrefix imported.limbs).subset member)
  have hlength : decimalDigits (trimmedParts imported).limbs ≤ maxDigits := by
    by_cases hempty : (trimmedParts imported).limbs = []
    · rw [hempty]
      decide
    · rw [decimalDigits_eq hempty (getLast?_trimLimbs _) hlimbs]
      exact (Nat.digits_length_le_iff (by decide) _).mpr (lt_of_eq_of_lt hvalue hdigits)
  refine ⟨⟨trimmedParts imported,
    trimmedParts_wellformed hcarries.limbs_lt hlength⟩, rfl, hvalue, rfl, ?_,
    hdestination.move_stores (hcarries.toSized.trim scale negative)
      (trim_parts hcarries.toSized scale negative)⟩
  have hzero : trimLimbs imported.limbs = [] ↔ whole = 0 := by
    rw [← hvalue]
    constructor
    · intro hempty
      simp [Parts.coefficient, trimmedParts, hempty]
    · intro hzero
      by_contra hne
      exact absurd hzero
        (coefficient_pos hne (getLast?_trimLimbs imported.limbs)).ne'
  simp [Decimal.negative, trimmedParts, hzero, imported]

/-! What an object and its value have in common. -/

theorem Stores.limbs_eq (hstores : object.Stores value) :
    object.limbs.take object.used = value.parts.limbs :=
  congrArg Parts.limbs hstores.parts_eq

theorem Stores.digits_eq (hstores : object.Stores value) :
    object.digits = decimalDigits value.parts.limbs :=
  congrArg decimalDigits hstores.limbs_eq

theorem Stores.used_eq (hstores : object.Stores value) :
    object.used = value.parts.limbs.length := by
  have hused : object.used ≤ object.limbs.length :=
    hstores.limbs_length ▸ hstores.used_le
  rw [← hstores.limbs_eq, List.length_take, Nat.min_eq_left hused]

theorem Stores.scale_eq (hstores : object.Stores value) :
    object.scale = value.scale :=
  congrArg Parts.scale hstores.parts_eq

theorem Stores.negative_eq (hstores : object.Stores value) :
    object.negative = value.negative :=
  congrArg Parts.negative hstores.parts_eq

theorem Stores.isNull_eq (hstores : object.Stores value) :
    object.isNull = value.isNull :=
  congrArg Parts.isNull hstores.parts_eq

end Object

end Libsqli.Decimal
