import Libsqli.Decimal.Encode

namespace Libsqli.Decimal

open Libsqli.Base100
open Libsqli.Data.Radix

/-! Groups left after trailing zero groups are stripped. -/

theorem stripGroups_isPrefix (groups : List Nat) :
    stripGroups groups <+: groups :=
  List.rdropWhile_prefix _ groups

theorem stripGroups_value (groups : List Nat) :
    ofBigEndian radix groups = ofBigEndian radix (stripGroups groups) *
      10 ^ (2 * (groups.length - (stripGroups groups).length)) := by
  have hradix : radix = 10 ^ 2 := by decide
  rw [pow_mul, ← hradix]
  exact ofBigEndian_rdropWhile_zero groups

theorem stripGroups_concat (hne : stripGroups groups ≠ []) :
    ∃ front last, stripGroups groups = front ++ [last] ∧ last ≠ 0 := by
  refine ⟨_, _, (List.dropLast_append_getLast hne).symm, ?_⟩
  have hlast := List.rdropWhile_last_not _ groups hne
  simp only [decide_eq_true_eq] at hlast
  exact hlast

theorem exists_mantissa {groups : List Nat}
    (hgroups : ∀ group ∈ groups, group < radix)
    (hshape : ∃ front last, groups = front ++ [last] ∧ last ≠ 0) :
    ∃ mantissa, mantissa % 10 ≠ 0 ∧
      ofBigEndian radix groups = mantissa * 10 ^ dropLastZero groups := by
  obtain ⟨front, last, rfl, hnonzero⟩ := hshape
  have hlast : last < radix := hgroups last (by simp)
  simp only [radix] at hlast
  simp only [ofBigEndian_concat, dropLastZero, List.getLastD_concat, radix]
  split
  · exact ⟨ofBigEndian 100 front * 10 + last / 10, by omega, by omega⟩
  · exact ⟨ofBigEndian 100 front * 100 + last, by omega, by omega⟩

@[simp] theorem firstDigit_cons :
    firstDigit (group :: rest) = if group < 10 then 1 else 0 := rfl

theorem groups_digitCount {groups : List Nat}
    (hgroups : ∀ group ∈ groups, group < radix)
    (hhead : groups.headD 0 ≠ 0) :
    (Nat.digits 10 (ofBigEndian radix groups)).length =
      groups.length * 2 - firstDigit groups := by
  cases groups with
  | nil => simp at hhead
  | cons group rest =>
      have hgroup := hgroups group List.mem_cons_self
      have hrest := ofBigEndian_lt (by decide : 1 < radix)
        fun other member => hgroups other (List.mem_cons_of_mem _ member)
      have hpower : radix ^ rest.length = 10 ^ (2 * rest.length) := by
        rw [pow_mul]
        rfl
      simp only [radix] at hgroup
      simp only [List.headD_cons] at hhead
      rw [ofBigEndian_cons, hpower]
      rw [hpower] at hrest
      simp only [firstDigit_cons, List.length_cons]
      by_cases hsmall : group < 10
      · rw [if_pos hsmall,
          show (rest.length + 1) * 2 - 1 = 2 * rest.length + 1 by omega]
        apply digitCount_unique (by omega)
        · exact le_trans (Nat.le_mul_of_pos_left _ (by omega))
            (Nat.le_add_right _ _)
        · rw [pow_succ]
          nlinarith
      · rw [if_neg hsmall,
          show (rest.length + 1) * 2 - 0 = 2 * rest.length + 1 + 1 by omega]
        apply digitCount_unique (by omega)
        · rw [pow_succ]
          nlinarith
        · rw [pow_succ, pow_succ]
          nlinarith

theorem groupDigit_eq {groups : List Nat}
    (hgroups : ∀ group ∈ groups, group < radix)
    (hindex : index < 2 * groups.length) :
    groupDigit groups index =
      ofBigEndian radix groups / 10 ^ (2 * groups.length - 1 - index) % 10 := by
  have hpair := getD_eq_digit (by decide) hgroups
    (by omega : index / 2 < groups.length)
  have hpower : radix ^ (groups.length - 1 - index / 2) =
      10 ^ (2 * (groups.length - 1 - index / 2)) := by
    rw [pow_mul]
    rfl
  rw [hpower] at hpair
  rw [groupDigit, hpair]
  simp only [radix]
  split
  · rw [show 2 * groups.length - 1 - index =
      2 * (groups.length - 1 - index / 2) + 1 by omega, pow_succ,
      ← Nat.div_div_eq_div_mul]
    omega
  · rw [show 2 * groups.length - 1 - index =
      2 * (groups.length - 1 - index / 2) by omega]
    omega

/-! The digit loops build the coefficient in four limbs without overflow. -/

theorem foldl_appendDigit {digitAt : Nat → Nat} {whole : Nat}
    (hwhole : whole < 10 ^ count) (hcount : count ≤ 36)
    (hdigit : ∀ index < count,
      digitAt index = whole / 10 ^ (count - 1 - index) % 10) :
    ∀ progress ≤ count,
      let limbs := (List.range progress).foldl
        (fun limbs index => appendDigit limbs (digitAt index))
        (List.replicate coefficientLimbs 0)
      limbs.length = coefficientLimbs ∧ (∀ limb ∈ limbs, limb < limbBase) ∧
        Nat.ofDigits limbBase limbs = whole / 10 ^ (count - progress) := by
  intro progress
  induction progress with
  | zero =>
      refine fun _ => ⟨List.length_replicate, ?_, ?_⟩
      · simp [coefficientLimbs, limbBase]
      · simp [Nat.ofDigits_replicate_zero, Nat.div_eq_of_lt hwhole]
  | succ index ih =>
      intro hindex
      obtain ⟨hlength, hlimbs, hvalue⟩ := ih (by omega)
      rw [List.range_succ, List.foldl_append]
      refine ⟨by simp [hlength], appendDigit_lt _ _, ?_⟩
      have hquotient : whole / 10 ^ (count - index) * 10 +
          whole / 10 ^ (count - 1 - index) % 10 =
            whole / 10 ^ (count - (index + 1)) := by
        rw [show count - index = count - 1 - index + 1 by omega,
          show count - (index + 1) = count - 1 - index by omega,
          pow_succ, ← Nat.div_div_eq_div_mul]
        omega
      have hbound : whole / 10 ^ (count - (index + 1)) <
          limbBase ^ coefficientLimbs := by
        rw [limbBase_pow, Nat.div_lt_iff_lt_mul (by positivity)]
        calc
          whole < 10 ^ count := hwhole
          _ ≤ 10 ^ (coefficientLimbs * limbDigits +
              (count - (index + 1))) :=
            Nat.pow_le_pow_right (by omega)
              (by simp only [coefficientLimbs, limbDigits]; omega)
          _ = _ := pow_add ..
      simp only [List.foldl_cons, List.foldl_nil]
      rw [ofDigits_appendDigit, hvalue, hdigit index (by omega), hquotient,
        hlength, Nat.mod_eq_of_lt hbound]

/-- Digits of `whole * 10^zeros`, first those of `whole`. -/
theorem digitLimbs_spec (first digits extra : Nat) {groups : List Nat}
    (hgroups : ∀ group ∈ groups, group < radix)
    (hdigits : (Nat.digits 10 (ofBigEndian radix groups)).length =
      groups.length * 2 - first)
    (hvalue : ofBigEndian radix groups = mantissa * 10 ^ drop)
    (hcount : first + digits + drop = groups.length * 2)
    (htotal : digits + extra ≤ 36) :
    let limbs := digitLimbs groups first digits extra
    limbs.length = coefficientLimbs ∧ (∀ limb ∈ limbs, limb < limbBase) ∧
      Nat.ofDigits limbBase limbs = mantissa * 10 ^ extra := by
  have hbound : ofBigEndian radix groups < 10 ^ (digits + drop) := by
    have := Nat.lt_base_pow_length_digits (b := 10)
      (m := ofBigEndian radix groups) (by omega)
    rwa [hdigits, show groups.length * 2 - first = digits + drop by omega]
      at this
  have hmantissa : mantissa < 10 ^ digits := by
    rw [hvalue, pow_add] at hbound
    exact Nat.lt_of_mul_lt_mul_right hbound
  have hleading : ∀ index < digits,
      groupDigit groups (first + index) =
        mantissa / 10 ^ (digits - 1 - index) % 10 := by
    intro index hindex
    rw [groupDigit_eq hgroups (by omega), hvalue,
      show 2 * groups.length - 1 - (first + index) =
        digits - 1 - index + drop by omega, pow_add,
      Nat.mul_div_mul_right _ _ (by positivity)]
  let digitAt := fun index =>
    if index < digits then groupDigit groups (first + index) else 0
  have hwhole : mantissa * 10 ^ extra < 10 ^ (digits + extra) := by
    rw [pow_add]
    exact Nat.mul_lt_mul_of_pos_right hmantissa (by positivity)
  have hdigitAt : ∀ index < digits + extra, digitAt index =
      mantissa * 10 ^ extra / 10 ^ (digits + extra - 1 - index) % 10 := by
    intro index hindex
    by_cases hlt : index < digits
    · simp only [digitAt, if_pos hlt, hleading index hlt]
      rw [show digits + extra - 1 - index = digits - 1 - index + extra by omega,
        pow_add, Nat.mul_div_mul_right _ _ (by positivity)]
    · simp only [digitAt, if_neg hlt]
      rw [show extra = digits + extra - 1 - index + (index - digits + 1) by omega,
        pow_add, ← Nat.mul_assoc, Nat.mul_right_comm,
        show digits + (digits + extra - 1 - index + (index - digits + 1)) - 1 -
          index = digits + extra - 1 - index by omega,
        Nat.mul_div_cancel _ (by positivity), pow_succ, ← Nat.mul_assoc,
        Nat.mul_mod_left]
  have hresult := foldl_appendDigit hwhole htotal hdigitAt (digits + extra)
    (Nat.le_refl _)
  have hloops : (List.range (digits + extra)).foldl
      (fun limbs index => appendDigit limbs (digitAt index))
      (List.replicate coefficientLimbs 0) =
        digitLimbs groups first digits extra := by
    rw [List.range_add, List.foldl_append, List.foldl_map, digitLimbs]
    have hfirst : (List.range digits).foldl
        (fun limbs index => appendDigit limbs (digitAt index))
        (List.replicate coefficientLimbs 0) =
        (List.range digits).foldl
        (fun limbs index => appendDigit limbs (groupDigit groups (first + index)))
        (List.replicate coefficientLimbs 0) := by
      apply List.foldl_ext
      intro limbs index member
      simp [digitAt, List.mem_range.mp member]
    rw [hfirst]
    apply List.foldl_ext
    intro limbs index _
    simp [digitAt]
  rw [hloops] at hresult
  simpa using hresult

/-! What `decode_coefficient` hands to `set_parts` is always accepted. -/

def decodedParts (groups : List Nat) (negative : Bool)
    (extraZeros : Nat) (scale : Int) : Parts where
  limbs := digitLimbs groups (firstDigit groups)
    (groups.length * 2 - dropLastZero groups - firstDigit groups) extraZeros
  scale := Int32.ofInt scale
  negative := negative
  isNull := false

/-- The nonzero groups of a payload, read as a number. -/
structure GroupsOf (groups : List Nat) (mantissa : Nat) : Prop where
  groups_lt : ∀ group ∈ groups, group < radix
  normalized : mantissa % 10 ≠ 0
  value_eq : ofBigEndian radix groups = mantissa * 10 ^ dropLastZero groups
  digits_eq : (Nat.digits 10 mantissa).length =
    groups.length * 2 - dropLastZero groups - firstDigit groups
  digits_le : firstDigit groups + dropLastZero groups ≤ groups.length * 2

theorem exists_groupsOf {received : List Nat}
    (hreceived : ∀ group ∈ received, group < radix)
    (hne : stripGroups received ≠ [])
    (hhead : (stripGroups received).headD 0 ≠ 0) :
    ∃ mantissa, GroupsOf (stripGroups received) mantissa := by
  have hgroups : ∀ group ∈ stripGroups received, group < radix :=
    fun group member =>
      hreceived group ((stripGroups_isPrefix received).subset member)
  obtain ⟨mantissa, hnormalized, hvalue⟩ :=
    exists_mantissa hgroups (stripGroups_concat hne)
  have hcount := groups_digitCount hgroups hhead
  have hlength : 0 < (stripGroups received).length :=
    List.length_pos_iff.mpr hne
  have hfirst : firstDigit (stripGroups received) ≤ 1 := by
    unfold firstDigit
    split <;> omega
  have hdrop : dropLastZero (stripGroups received) ≤ 1 := by
    unfold dropLastZero
    split <;> omega
  have hdigits := hcount
  rw [hvalue, digitCount_mul_pow (by omega) (by omega)] at hdigits
  exact ⟨mantissa, hgroups, hnormalized, hvalue, by omega, by omega⟩

theorem decimalDigits_le {limbs : List Nat}
    (hlength : limbs.length ≤ coefficientLimbs)
    (htrimmed : limbs.getLast? ≠ some 0)
    (hlimbs : ∀ limb ∈ limbs, limb < limbBase) :
    decimalDigits limbs ≤ maxDigits := by
  unfold decimalDigits
  split
  · decide
  · rename_i hne
    rw [coefficientDigits_eq hne htrimmed hlimbs]
    have hbound := (Nat.digits_length_le_iff (by omega) _).mpr
      (ofDigits_limbs_lt hlimbs)
    simp only [coefficientLimbs, limbDigits, maxDigits] at *
    omega

theorem setParts_decoded (malloc : Nat → Bool) (out : Decimal)
    (negative : Bool) (extraZeros : Nat) (scale : Int) {groups : List Nat}
    (hreading : GroupsOf groups mantissa)
    (htotal : groups.length * 2 - dropLastZero groups - firstDigit groups +
      extraZeros ≤ 36)
    (hlower : -2 ^ 31 ≤ scale + extraZeros)
    (hupper : scale + extraZeros < 2 ^ 31) :
    ∃ decoded : Decimal,
      setParts malloc (decodedParts groups negative extraZeros
        (scale + extraZeros)) out = (.ok, decoded) ∧
      decoded.scale.toInt = scale + extraZeros ∧
      decoded.parts.Denotes
        ⟨negative, mantissa, -scale, hreading.normalized⟩ extraZeros := by
  have hdigits : (Nat.digits 10 (ofBigEndian radix groups)).length =
      groups.length * 2 - firstDigit groups := by
    have hpositive : 0 < mantissa := by
      have := hreading.normalized
      omega
    have := hreading.digits_le
    rw [hreading.value_eq, digitCount_mul_pow (by omega) hpositive,
      hreading.digits_eq]
    omega
  obtain ⟨hlength, hlimbs, hvalue⟩ := digitLimbs_spec (firstDigit groups)
    (groups.length * 2 - dropLastZero groups - firstDigit groups) extraZeros
    hreading.groups_lt hdigits hreading.value_eq
    (by have := hreading.digits_le; omega) htotal
  have hscale : (Int32.ofInt (scale + extraZeros)).toInt = scale + extraZeros :=
    Int32.toInt_ofInt_of_le hlower hupper
  have hcoefficient : Nat.ofDigits limbBase (trimLimbs
      (decodedParts groups negative extraZeros (scale + extraZeros)).limbs) =
        mantissa * 10 ^ extraZeros := by
    rw [ofDigits_trimLimbs]
    exact hvalue
  have hne : trimLimbs (decodedParts groups negative extraZeros
      (scale + extraZeros)).limbs ≠ [] := by
    intro hempty
    have hpositive : 0 < mantissa * 10 ^ extraZeros := by
      have := hreading.normalized
      have : 0 < mantissa := by omega
      positivity
    rw [hempty, Nat.ofDigits_nil] at hcoefficient
    omega
  refine ⟨_, setParts_inline rfl (by
    exact hlength.le) hlimbs (decimalDigits_le ?_ (getLast?_trimLimbs _) ?_), ?_,
    ?_⟩
  · exact le_trans (trimLimbs_isPrefix _).length_le hlength.le
  · exact fun limb member => hlimbs limb ((trimLimbs_isPrefix _).subset member)
  · exact hscale
  · refine ⟨rfl, ?_, hcoefficient, ?_⟩
    · simp only [trimmedParts, decide_eq_true hne, Bool.true_and]
      rfl
    · change -scale = extraZeros - (Int32.ofInt (scale + extraZeros)).toInt
      omega

end Libsqli.Decimal
