import Libsqli.Data.Multiword
import Libsqli.Decimal.Storage

namespace Libsqli.Decimal

open Libsqli.Data

namespace Object

/-! `sqli_decimal_rescale_exact`. -/

/-- The loop of `decimal_multiply_power`, from the limb `index` on. -/
def multiplyLoop (factor shift : Nat) :
    List Nat → Nat → Nat → List Nat → Option (List Nat × Nat)
  | [], _, carry, block => some (block, carry)
  | limb :: rest, index, carry, block =>
      (Block.store block (index + shift) ((limb * factor + carry) % limbBase)).bind
        (multiplyLoop factor shift rest (index + 1)
          ((limb * factor + carry) / limbBase))

/-- `decimal_multiply_power` into a fresh temporary. -/
def multiplyPower (malloc : Malloc) (value : Object) (power : Nat) :
    Option (Status × Object) :=
  let digits := value.digits
  if (maxDigits : Int) - digits < power then some (.limitExceeded, init)
  else
    let count := limbCount (digits + power)
    let shift := power / limbDigits
    match reserve malloc init count with
    | (.ok, out) => do
        let zeroed ← Block.storeAll out.limbs (List.replicate count 0)
        let (filled, carry) ← multiplyLoop (10 ^ (power % limbDigits)) shift
          (value.limbs.take value.used) 0 0 zeroed
        let block ←
          if carry ≠ 0 then Block.store filled (value.used + shift) carry
          else some filled
        pure (.ok, { out.setLimbs block with used := count })
    | (failure, out) => some (failure, out)

/-- The loop of `decimal_divide_power`, with `remaining` limbs to go. -/
def divideLoop (divisor shift : Nat) (limbs : List Nat) :
    Nat → Nat → List Nat → Option (List Nat)
  | 0, _, block => some block
  | remaining + 1, remainder, block =>
      let dividend := remainder * limbBase + limbs.getD (shift + remaining) 0
      (Block.store block remaining (dividend / divisor)).bind
        (divideLoop divisor shift limbs remaining (dividend % divisor))

/-- `decimal_divide_power` into a fresh temporary. -/
def dividePower (malloc : Malloc) (value : Object) (power : Nat) :
    Option (Status × Object) :=
  let limbs := value.limbs.take value.used
  let shift := power / limbDigits
  let divisor := 10 ^ (power % limbDigits)
  if value.digits ≤ power then some (.inexact, init)
  else if ¬ ∀ limb ∈ limbs.take shift, limb = 0 then some (.inexact, init)
  else if limbs.getD shift 0 % divisor ≠ 0 then some (.inexact, init)
  else
    let count := value.used - shift
    match reserve malloc init count with
    | (.ok, out) => do
        let block ← divideLoop divisor shift limbs count 0 out.limbs
        pure (.ok, { out.setLimbs block with used := count })
    | (failure, out) => some (failure, out)

def rescaleExact (malloc : Malloc) (scale : Int32) (object : Object) :
    Option (Status × Object) :=
  if object.isNull then some (.nullValue, object)
  else if object.scale = scale then some (.ok, object)
  else if object.used = 0 then some (.ok, { object with scale })
  else
    let difference := scale.toInt - object.scale.toInt
    let result :=
      if 0 < difference then multiplyPower malloc object difference.toNat
      else dividePower malloc object (-difference).toNat
    result.map fun
      | (.ok, temporary) =>
          (.ok, object.move (trim { temporary with
            isNull := false
            negative := object.negative
            scale }))
      | (failure, _) => (failure, object)

/-! What the loops leave in their blocks. -/

variable {object : Object} {malloc : Malloc}

theorem multiplyLoop_eq (factor shift : Nat) (limbs : List Nat) {index : Nat}
    (carry : Nat) {front old : List Nat} (back : List Nat)
    (hfront : front.length = index + shift) (hold : old.length = limbs.length) :
    multiplyLoop factor shift limbs index carry (front ++ old ++ back) =
      some (front ++ (Multiword.mulWord limbBase factor limbs carry).1 ++ back,
        (Multiword.mulWord limbBase factor limbs carry).2) := by
  induction limbs generalizing index carry front old with
  | nil =>
      obtain rfl := List.eq_nil_of_length_eq_zero hold
      simp [multiplyLoop, Multiword.mulWord]
  | cons limb rest ih =>
      cases old with
      | nil => simp at hold
      | cons word old =>
          rw [List.length_cons, List.length_cons, Nat.add_right_cancel_iff]
            at hold
          have hlength : (front ++ [(limb * factor + carry) % limbBase]).length =
              index + 1 + shift := by
            simp only [List.length_append, List.length_singleton]
            omega
          have hnext := ih ((limb * factor + carry) / limbBase) hlength hold
          rw [multiplyLoop, ← hfront, List.append_assoc, List.cons_append,
            Block.store_append, Option.bind_some]
          simpa [Multiword.mulWord] using hnext

theorem divideLoop_eq (divisor shift : Nat) (limbs : List Nat)
    {remaining : Nat} (hremaining : remaining ≤ (limbs.drop shift).length)
    {front : List Nat} (back : List Nat) (hfront : front.length = remaining) :
    divideLoop divisor shift limbs remaining
        (Multiword.divWord limbBase divisor
          ((limbs.drop shift).drop remaining)).2 (front ++ back) =
      some ((Multiword.divWord limbBase divisor (limbs.drop shift)).1.take
        remaining ++ back) := by
  induction remaining generalizing front back with
  | zero =>
      obtain rfl := List.eq_nil_of_length_eq_zero hfront
      simp [divideLoop]
  | succ remaining ih =>
      obtain ⟨below, last, rfl⟩ : ∃ below last, front = below ++ [last] :=
        ⟨_, _, (List.dropLast_append_getLast
          (List.ne_nil_of_length_eq_add_one hfront)).symm⟩
      have hbelow : below.length = remaining := by simpa using hfront
      have hword : (limbs.drop shift).drop remaining =
          limbs.getD (shift + remaining) 0 ::
            (limbs.drop shift).drop (remaining + 1) := by
        have hindex : shift + remaining < limbs.length := by
          rw [List.length_drop] at hremaining
          omega
        rw [List.drop_eq_getElem_cons hremaining, List.getElem_drop,
          List.getD_eq_getElem _ _ hindex]
      let above := Multiword.divWord limbBase divisor
        ((limbs.drop shift).drop (remaining + 1))
      let dividend := above.2 * limbBase + limbs.getD (shift + remaining) 0
      have hrest : Multiword.divWord limbBase divisor
          ((limbs.drop shift).drop remaining) =
            (dividend / divisor :: above.1, dividend % divisor) := by
        rw [hword]
        rfl
      have hquotient : (Multiword.divWord limbBase divisor
          (limbs.drop shift)).1.take (remaining + 1) =
            (Multiword.divWord limbBase divisor (limbs.drop shift)).1.take
              remaining ++ [dividend / divisor] := by
        rw [List.take_add, Multiword.drop_divWord, hrest]
        rfl
      have hnext := ih (by omega) (dividend / divisor :: back) hbelow
      rw [hrest] at hnext
      rw [divideLoop, List.append_assoc, List.singleton_append, ← hbelow,
        Block.store_append, hbelow, Option.bind_some, hquotient,
        List.append_assoc, List.singleton_append]
      exact hnext

/-! Multiplication by a power of ten. -/

/-- The limbs that the loop writes, its carry and the shift make the product. -/
theorem multiplied_value (limbs : List Nat) (power : Nat) :
    Nat.ofDigits limbBase (List.replicate (power / limbDigits) 0 ++
        (Multiword.mulWord limbBase (10 ^ (power % limbDigits)) limbs 0).1) +
      limbBase ^ (power / limbDigits + limbs.length) *
        (Multiword.mulWord limbBase (10 ^ (power % limbDigits)) limbs 0).2 =
      Nat.ofDigits limbBase limbs * 10 ^ power := by
  have hvalue := @Multiword.mulWord_value limbBase (10 ^ (power % limbDigits))
    limbs 0
  rw [Nat.ofDigits_append, Nat.ofDigits_replicate_zero, Nat.zero_add,
    List.length_replicate, pow_add, Nat.mul_assoc, ← Nat.mul_add, hvalue,
    power_eq_shift power]
  ring

theorem limbs_le_digits {limbs : List Nat} (hne : limbs ≠ []) :
    (limbs.length - 1) * limbDigits < decimalDigits limbs := by
  rw [decimalDigits, if_neg hne, coefficientDigits]
  rw [limbLength]
  split <;> omega

theorem shifted_le_limbCount {limbs : List Nat} (hne : limbs ≠ [])
    (power : Nat) :
    power / limbDigits + limbs.length ≤
      limbCount (decimalDigits limbs + power) := by
  have hlength := List.length_pos_iff.mpr hne
  have hbelow := limbs_le_digits hne
  unfold limbCount
  simp only [limbDigits] at *
  omega

/-- A carry out of the last limb still has a limb of its own. -/
theorem shifted_lt_limbCount (hlower : limbBase ^ count ≤ product)
    (hupper : product < 10 ^ width) : count < limbCount width := by
  have hlt := lt_of_le_of_lt hlower hupper
  rw [limbBase_pow] at hlt
  have := (Nat.pow_lt_pow_iff_right (by decide)).mp hlt
  unfold limbCount
  simp only [limbDigits] at *
  omega

/-- The product's limbs, lowest first: the shift, the loop's words, and its carry
unless that is zero. -/
def productLimbs (limbs : List Nat) (power : Nat) : List Nat :=
  let result := Multiword.mulWord limbBase (10 ^ (power % limbDigits)) limbs 0
  List.replicate (power / limbDigits) 0 ++ result.1 ++
    if result.2 = 0 then [] else [result.2]

theorem ofDigits_productLimbs (limbs : List Nat) (power : Nat) :
    Nat.ofDigits limbBase (productLimbs limbs power) =
      Nat.ofDigits limbBase limbs * 10 ^ power := by
  have hlength := @Multiword.length_mulWord limbBase
    (10 ^ (power % limbDigits)) limbs 0
  rw [← multiplied_value, productLimbs, Nat.ofDigits_append,
    List.length_append, List.length_replicate, hlength]
  split
  · next hnone => rw [hnone, Nat.ofDigits_nil]
  · rw [Nat.ofDigits_singleton]

theorem productLimbs_lt {limbs : List Nat}
    (hlimbs : ∀ limb ∈ limbs, limb < limbBase) (power : Nat) :
    ∀ limb ∈ productLimbs limbs power, limb < limbBase := by
  have hfactor : 10 ^ (power % limbDigits) ≤ limbBase := by
    rw [limbBase_eq_pow]
    exact Nat.pow_le_pow_right (by decide) (Nat.mod_lt _ (by decide)).le
  have hcarry := @Multiword.mulWord_carry limbBase (10 ^ (power % limbDigits))
    limbs hlimbs 0 (by positivity)
  intro limb member
  rcases List.mem_append.mp member with member | member
  · rcases List.mem_append.mp member with member | member
    · rw [List.eq_of_mem_replicate member]
      decide
    · exact Multiword.mulWord_lt (by decide) _ limb member
  · split at member
    · cases member
    · rw [List.mem_singleton.mp member]
      omega

/-- There is room for all of them, the carry included. -/
theorem length_productLimbs_le {limbs : List Nat} (hne : limbs ≠ [])
    (hbelow : Nat.ofDigits limbBase limbs < 10 ^ decimalDigits limbs)
    (power : Nat) :
    (productLimbs limbs power).length ≤
      limbCount (decimalDigits limbs + power) := by
  have hlength := @Multiword.length_mulWord limbBase
    (10 ^ (power % limbDigits)) limbs 0
  have hvalue := multiplied_value limbs power
  rw [productLimbs, List.length_append, List.length_append,
    List.length_replicate, hlength]
  split
  · exact shifted_le_limbCount hne power
  · next hsome =>
      refine shifted_lt_limbCount (le_trans ?_ (Nat.le.intro
        (Nat.add_comm _ _ ▸ hvalue))) ?_
      · exact Nat.le_mul_of_pos_right _ (Nat.pos_of_ne_zero hsome)
      · rw [pow_add]
        exact Nat.mul_lt_mul_of_pos_right hbelow (by positivity)

theorem multiplyLoop_store (limbs : List Nat) (power : Nat) {count : Nat}
    (hroom : (productLimbs limbs power).length ≤ count) (back : List Nat) :
    ∃ filled carry,
      multiplyLoop (10 ^ (power % limbDigits)) (power / limbDigits) limbs 0 0
        (List.replicate count 0 ++ back) = some (filled, carry) ∧
      (if carry ≠ 0 then
          Block.store filled (limbs.length + power / limbDigits) carry
        else some filled) =
        some (productLimbs limbs power ++ (List.replicate
          (count - (productLimbs limbs power).length) 0 ++ back)) := by
  have hlength := @Multiword.length_mulWord limbBase
    (10 ^ (power % limbDigits)) limbs 0
  unfold productLimbs at hroom ⊢
  generalize hresult : Multiword.mulWord limbBase (10 ^ (power % limbDigits))
    limbs 0 = result at *
  generalize power / limbDigits = shift at *
  obtain ⟨words, carry⟩ := result
  dsimp only at hroom hlength ⊢
  have hfits : shift + limbs.length ≤ count := by
    rw [List.length_append, List.length_append, List.length_replicate,
      hlength] at hroom
    omega
  obtain ⟨rest, rfl⟩ := Nat.exists_eq_add_of_le hfits
  have hloop := multiplyLoop_eq (10 ^ (power % limbDigits)) shift limbs 0
    (List.replicate rest 0 ++ back)
    (by simp : (List.replicate shift 0).length = 0 + shift)
    (List.length_replicate : (List.replicate limbs.length 0).length = _)
  rw [hresult, ← List.append_assoc, ← List.replicate_add,
    ← List.replicate_add] at hloop
  refine ⟨_, _, hloop, ?_⟩
  by_cases hnone : carry = 0
  · simp [hnone, hlength]
  · obtain ⟨rest, rfl⟩ : ∃ fewer, rest = fewer + 1 := by
      refine ⟨rest - 1, ?_⟩
      simp only [if_neg hnone, List.length_append, List.length_replicate,
        List.length_singleton, hlength] at hroom
      omega
    have hstore := Block.store_append (List.replicate shift 0 ++ words)
      (List.replicate rest 0 ++ back) 0 carry
    have hindex : (List.replicate shift 0 ++ words).length =
        limbs.length + shift := by
      simp [hlength, Nat.add_comm]
    rw [hindex] at hstore
    rw [if_pos hnone, if_neg hnone, List.replicate_succ, List.cons_append,
      hstore]
    have hspare : shift + limbs.length + (rest + 1) -
        (List.replicate shift 0 ++ words ++ [carry]).length = rest := by
      simp only [List.length_append, List.length_replicate,
        List.length_singleton, hlength]
      omega
    rw [hspare]
    simp

theorem multiplyPower_spec {value : Decimal} (malloc : Malloc)
    (hstores : object.Stores value) (hne : ¬ value.IsZero)
    (hfits : decimalDigits value.parts.limbs + power ≤ maxDigits) :
    (∃ temporary, multiplyPower malloc object power = some (.ok, temporary) ∧
      temporary.Carries (value.coefficient * 10 ^ power)) ∨
    ∃ count out, multiplyPower malloc object power = some (.allocFail, out) ∧
      malloc count = none := by
  have hroom := length_productLimbs_le hne value.coefficient_lt power
  simp only [multiplyPower, hstores.digits_eq, hstores.limbs_eq]
  rw [if_neg (by omega), hstores.used_eq]
  rcases reserve_init malloc (limbCount_le hfits) with
    ⟨reserved, hreserved, hsized, hspace⟩ | ⟨hreserved, -, hmalloc⟩
  · generalize limbCount (decimalDigits value.parts.limbs + power) =
      count at *
    have hzeroed := Block.storeAll_eq (by simpa using hspace :
      (List.replicate count 0).length ≤ reserved.limbs.length)
    obtain ⟨filled, carry, hloop, hstore⟩ := multiplyLoop_store
      value.parts.limbs power hroom
        (reserved.limbs.drop (List.replicate count 0).length)
    have hcarries := @Sized.carries reserved count
      (productLimbs value.parts.limbs power ++ List.replicate
        (count - (productLimbs value.parts.limbs power).length) 0)
      (reserved.limbs.drop (List.replicate count 0).length) hsized
      (by
        simp only [List.length_append, List.length_replicate,
          List.length_drop]
        omega)
      (by
        rw [List.length_append, List.length_replicate]
        omega)
      (by
        intro limb member
        rcases List.mem_append.mp member with member | member
        · exact productLimbs_lt value.wellformed.limbs_lt power limb member
        · rw [List.eq_of_mem_replicate member]
          decide)
    rw [Nat.ofDigits_append, Nat.ofDigits_replicate_zero, Nat.mul_zero,
      Nat.add_zero, ofDigits_productLimbs, List.append_assoc] at hcarries
    rw [hreserved]
    simp only [hzeroed, Option.bind_eq_bind, Option.bind_some, hloop]
    by_cases hcarry : carry ≠ 0
    · rw [if_pos hcarry] at hstore ⊢
      rw [hstore]
      exact .inl ⟨_, rfl, hcarries⟩
    · rw [if_neg hcarry] at hstore ⊢
      rw [Option.some.inj hstore]
      exact .inl ⟨_, rfl, hcarries⟩
  · rw [hreserved]
    exact .inr ⟨_, init, rfl, hmalloc⟩

/-! Division by a power of ten. -/

theorem ofDigits_eq_zero_iff (limbs : List Nat) :
    Nat.ofDigits limbBase limbs = 0 ↔ ∀ limb ∈ limbs, limb = 0 := by
  have hreverse := @Radix.ofBigEndian_eq_zero_iff limbBase (by decide)
    limbs.reverse
  rw [Radix.ofBigEndian, List.reverse_reverse] at hreverse
  rw [hreverse]
  simp

/-- The two early tests decide whether anything but zeros would be lost. -/
theorem power_dvd_iff {limbs : List Nat}
    (hlimbs : ∀ limb ∈ limbs, limb < limbBase)
    (hshift : power / limbDigits < limbs.length) :
    10 ^ power ∣ Nat.ofDigits limbBase limbs ↔
      (∀ limb ∈ limbs.take (power / limbDigits), limb = 0) ∧
        limbs.getD (power / limbDigits) 0 % 10 ^ (power % limbDigits) = 0 := by
  have hbase : 10 ^ (power % limbDigits) ∣ limbBase := by
    rw [limbBase_eq_pow]
    exact pow_dvd_pow _ (Nat.mod_lt _ (by decide)).le
  have hlow : Nat.ofDigits limbBase (limbs.take (power / limbDigits)) <
      limbBase ^ (power / limbDigits) := by
    have htake : ∀ limb ∈ limbs.take (power / limbDigits), limb < limbBase :=
      fun limb member => hlimbs limb (List.mem_of_mem_take member)
    have hlt := Nat.ofDigits_lt_base_pow_length (by decide : 1 < limbBase) htake
    rwa [List.length_take, Nat.min_eq_left hshift.le] at hlt
  have hsplit : Nat.ofDigits limbBase limbs =
      Nat.ofDigits limbBase (limbs.take (power / limbDigits)) +
        limbBase ^ (power / limbDigits) *
          Nat.ofDigits limbBase (limbs.drop (power / limbDigits)) := by
    conv => lhs; rw [← List.take_append_drop (power / limbDigits) limbs]
    rw [Nat.ofDigits_append, List.length_take, Nat.min_eq_left hshift.le]
  have hhigh : 10 ^ (power % limbDigits) ∣
        Nat.ofDigits limbBase (limbs.drop (power / limbDigits)) ↔
      limbs.getD (power / limbDigits) 0 % 10 ^ (power % limbDigits) = 0 := by
    rw [List.drop_eq_getElem_cons hshift, Nat.ofDigits_cons,
      List.getD_eq_getElem _ _ hshift, ← Nat.dvd_iff_mod_eq_zero]
    exact Nat.dvd_add_left (Dvd.dvd.mul_right hbase _)
  rw [← ofDigits_eq_zero_iff, ← hhigh, power_eq_shift, hsplit]
  constructor
  · intro hdivides
    have hzero : Nat.ofDigits limbBase (limbs.take (power / limbDigits)) = 0 := by
      have hdvd := (Nat.dvd_add_left (Nat.dvd_mul_right _ _)).mp
        ((Nat.dvd_mul_right _ _).trans hdivides)
      exact Nat.eq_zero_of_dvd_of_lt hdvd hlow
    rw [hzero, Nat.zero_add] at hdivides
    exact ⟨hzero, Nat.dvd_of_mul_dvd_mul_left (Nat.pow_pos (by decide)) hdivides⟩
  · rintro ⟨hzero, hdivides⟩
    rw [hzero, Nat.zero_add]
    exact Nat.mul_dvd_mul_left _ hdivides

/-- What is left of a coefficient with nothing but zeros below the power. -/
theorem ofDigits_quotient {limbs : List Nat}
    (hzeros : ∀ limb ∈ limbs.take (power / limbDigits), limb = 0)
    (hshift : power / limbDigits < limbs.length)
    (hdivides : 10 ^ power ∣ Nat.ofDigits limbBase limbs) :
    Nat.ofDigits limbBase (Multiword.divWord limbBase
        (10 ^ (power % limbDigits)) (limbs.drop (power / limbDigits))).1 =
      Nat.ofDigits limbBase limbs / 10 ^ power := by
  have hpower := power_eq_shift power
  have hpositive : 0 < 10 ^ (power % limbDigits) := by positivity
  have hlow := (ofDigits_eq_zero_iff _).mpr hzeros
  generalize 10 ^ (power % limbDigits) = divisor at *
  generalize power / limbDigits = shift at *
  have hsplit : Nat.ofDigits limbBase limbs = limbBase ^ shift *
      Nat.ofDigits limbBase (limbs.drop shift) := by
    conv => lhs; rw [← List.take_append_drop shift limbs]
    rw [Nat.ofDigits_append, hlow, Nat.zero_add, List.length_take,
      Nat.min_eq_left hshift.le]
  have hquotient : divisor ∣ Nat.ofDigits limbBase (limbs.drop shift) := by
    have hproduct : limbBase ^ shift * divisor ∣ limbBase ^ shift *
        Nat.ofDigits limbBase (limbs.drop shift) := by
      rw [← hpower, ← hsplit]
      exact hdivides
    exact Nat.dvd_of_mul_dvd_mul_left (Nat.pow_pos (by decide)) hproduct
  rw [hsplit, hpower, Nat.mul_div_mul_left _ _ (Nat.pow_pos (by decide)),
    ← Multiword.divWord_exact hpositive hquotient,
    Nat.mul_div_cancel_left _ hpositive]

/-- The loop over every limb above the shift. -/
theorem divideLoop_block (divisor shift : Nat) (limbs : List Nat)
    {block : List Nat} (hspace : limbs.length - shift ≤ block.length) :
    divideLoop divisor shift limbs (limbs.length - shift) 0 block =
      some ((Multiword.divWord limbBase divisor (limbs.drop shift)).1 ++
        block.drop (limbs.length - shift)) := by
  have hkept : (limbs.drop shift).length = limbs.length - shift :=
    List.length_drop
  have hlength := @Multiword.length_divWord limbBase divisor
    (limbs.drop shift)
  have hfront : (block.take (limbs.length - shift)).length =
      limbs.length - shift := by
    rw [List.length_take, Nat.min_eq_left hspace]
  have hloop := divideLoop_eq divisor shift limbs hkept.ge
    (block.drop (limbs.length - shift)) hfront
  rwa [List.take_append_drop, List.drop_of_length_le hkept.le,
    List.take_of_length_le (hlength.trans hkept).le, Multiword.divWord]
    at hloop

theorem length_le_maxLimbs {value : Decimal} (hne : ¬ value.IsZero) :
    value.parts.limbs.length ≤ maxLimbs := by
  have hbelow := limbs_le_digits hne
  have hmost := value.wellformed.digits_le
  have hmax : maxLimbs = 111112 := by decide
  simp only [limbDigits, maxDigits] at *
  omega

theorem dividePower_spec {value : Decimal} (malloc : Malloc)
    (hstores : object.Stores value) (hne : ¬ value.IsZero) (power : Nat) :
    (¬ 10 ^ power ∣ value.coefficient ∧
      ∃ out, dividePower malloc object power = some (.inexact, out)) ∨
    (10 ^ power ∣ value.coefficient ∧
      ∃ temporary, dividePower malloc object power = some (.ok, temporary) ∧
        temporary.Carries (value.coefficient / 10 ^ power)) ∨
    ∃ count out, dividePower malloc object power = some (.allocFail, out) ∧
      malloc count = none := by
  simp only [dividePower, hstores.digits_eq, hstores.limbs_eq]
  by_cases hsmall : decimalDigits value.parts.limbs ≤ power
  · rw [if_pos hsmall]
    refine .inl ⟨fun hdivides => ?_, init, rfl⟩
    have hlt := lt_of_lt_of_le value.coefficient_lt
      (Nat.pow_le_pow_right (by decide : 0 < 10) hsmall)
    exact absurd (Nat.eq_zero_of_dvd_of_lt hdivides hlt)
      (coefficient_positive hne).ne'
  rw [if_neg hsmall]
  have hshift : power / limbDigits < value.parts.limbs.length := by
    have habove := decimalDigits_le_limbs value.wellformed.limbs_lt hne
    simp only [limbDigits] at *
    omega
  have hiff := power_dvd_iff value.wellformed.limbs_lt hshift
  by_cases hzeros : ∀ limb ∈ value.parts.limbs.take (power / limbDigits),
      limb = 0
  swap
  · rw [if_pos hzeros]
    exact .inl ⟨fun hdivides => hzeros (hiff.mp hdivides).1, init, rfl⟩
  rw [if_neg (not_not.mpr hzeros)]
  by_cases hlowest : value.parts.limbs.getD (power / limbDigits) 0 %
      10 ^ (power % limbDigits) = 0
  swap
  · rw [if_pos hlowest]
    exact .inl ⟨fun hdivides => hlowest (hiff.mp hdivides).2, init, rfl⟩
  rw [if_neg (not_not.mpr hlowest), hstores.used_eq]
  have hdivides := hiff.mpr ⟨hzeros, hlowest⟩
  have hcount := (Nat.sub_le _ (power / limbDigits)).trans
    (length_le_maxLimbs hne)
  rcases reserve_init malloc hcount with
    ⟨reserved, hreserved, hsized, hspace⟩ | ⟨hreserved, -, hmalloc⟩
  · have hlength := (@Multiword.length_divWord limbBase
      (10 ^ (power % limbDigits))
      (value.parts.limbs.drop (power / limbDigits))).trans List.length_drop
    have hcarries := @Sized.carries reserved
      (value.parts.limbs.length - power / limbDigits) _
      (reserved.limbs.drop (value.parts.limbs.length - power / limbDigits))
      hsized
      (by
        rw [List.length_append, hlength, List.length_drop]
        omega)
      hlength.symm
      (Multiword.divWord_lt (by positivity) fun limb member =>
        value.wellformed.limbs_lt limb (List.mem_of_mem_drop member))
    rw [ofDigits_quotient hzeros hshift hdivides] at hcarries
    rw [hreserved]
    simp only [divideLoop_block _ _ _ hspace, Option.bind_eq_bind,
      Option.bind_some]
    exact .inr (.inl ⟨hdivides, _, rfl, hcarries⟩)
  · rw [hreserved]
    exact .inr (.inr ⟨_, init, rfl, hmalloc⟩)

end Object

end Libsqli.Decimal
