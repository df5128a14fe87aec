import Libsqli.Data.Radix

namespace Libsqli.Base100

open Libsqli.Data.Radix

def radix : Nat := 100

/-- `sqli_base100_radix_complement`: the loop runs from the last group and
carries a one into it. -/
def radixComplement (groups : List Nat) : List Nat :=
  (groups.foldr (fun group state =>
    let digit := radix - 1 - group + state.2
    (digit % radix :: state.1, digit / radix)) ([], 1)).1

theorem radixComplement_eq_complement :
    radixComplement = complement radix := rfl

/-! The leading byte of a base-100 payload: a sign flag over a biased exponent,
with every bit flipped for negative values. -/

def positiveFlag : UInt8 := 128

def exponentBias : Int := 64

def exponentMin : Int := -64

def exponentMax : Int := 63

def encodeHeader (negative : Bool) (exponent : Int) : UInt8 :=
  let header := positiveFlag ||| UInt8.ofNat (exponent + exponentBias).toNat
  if negative then header ^^^ 0xff else header

def headerNegative (header : UInt8) : Bool := header &&& positiveFlag == 0

def headerExponent (header : UInt8) : Int :=
  if headerNegative header then (header ^^^ 0x7f).toNat - exponentBias
  else (header &&& 0x7f).toNat - exponentBias

theorem header_decode_encode (header : UInt8) :
    encodeHeader (headerNegative header) (headerExponent header) = header ∧
      exponentMin ≤ headerExponent header ∧
      headerExponent header ≤ exponentMax := by
  have hall : ∀ code : Fin 256,
      encodeHeader (headerNegative (UInt8.ofFin code))
        (headerExponent (UInt8.ofFin code)) = UInt8.ofFin code ∧
      exponentMin ≤ headerExponent (UInt8.ofFin code) ∧
      headerExponent (UInt8.ofFin code) ≤ exponentMax := by
    decide +kernel
  exact hall header.toFin

theorem header_encode_decode (negative : Bool) {exponent : Int}
    (hmin : exponentMin ≤ exponent) (hmax : exponent ≤ exponentMax) :
    headerNegative (encodeHeader negative exponent) = negative ∧
      headerExponent (encodeHeader negative exponent) = exponent := by
  have hall : ∀ (negative : Bool) (code : Fin 128),
      headerNegative (encodeHeader negative (code.val - exponentBias)) =
        negative ∧
      headerExponent (encodeHeader negative (code.val - exponentBias)) =
        code.val - exponentBias := by
    decide +kernel
  simp only [exponentMin, exponentMax] at hmin hmax
  have hcode := hall negative ⟨(exponent + exponentBias).toNat, by
    simp only [exponentBias]
    omega⟩
  have heq : (((exponent + exponentBias).toNat : Nat) : Int) - exponentBias =
      exponent := by
    simp only [exponentBias]
    omega
  rwa [heq] at hcode

/-! Groups as they travel: one byte each. -/

def groupBytes (groups : List Nat) : List UInt8 := groups.map UInt8.ofNat

def byteGroups (bytes : List UInt8) : List Nat := bytes.map UInt8.toNat

@[simp] theorem length_groupBytes (groups : List Nat) :
    (groupBytes groups).length = groups.length := by
  simp [groupBytes]

@[simp] theorem length_byteGroups (bytes : List UInt8) :
    (byteGroups bytes).length = bytes.length := by
  simp [byteGroups]

@[simp] theorem groupBytes_byteGroups (bytes : List UInt8) :
    groupBytes (byteGroups bytes) = bytes := by
  induction bytes with
  | nil => rfl
  | cons byte rest ih =>
      simp only [byteGroups, groupBytes] at ih ⊢
      simp [ih]

theorem byteGroups_groupBytes {groups : List Nat}
    (hgroups : ∀ group ∈ groups, group < radix) :
    byteGroups (groupBytes groups) = groups := by
  induction groups with
  | nil => rfl
  | cons group rest ih =>
      have hgroup : group < 256 := by
        have := hgroups group List.mem_cons_self
        simp only [radix] at this
        omega
      have hrest := ih fun other member =>
        hgroups other (List.mem_cons_of_mem _ member)
      simp only [byteGroups, groupBytes, List.map_cons] at hrest ⊢
      rw [hrest, UInt8.toNat_ofNat_of_lt' hgroup]

/-! The groups of a negative value travel complemented. -/

def codeGroups (negative : Bool) (groups : List Nat) : List Nat :=
  if negative then radixComplement groups else groups

abbrev plainGroups (header : UInt8) (received : List Nat) : List Nat :=
  codeGroups (headerNegative header) received

@[simp] theorem length_codeGroups (negative : Bool) (groups : List Nat) :
    (codeGroups negative groups).length = groups.length := by
  cases negative <;> simp [codeGroups, radixComplement_eq_complement]

theorem codeGroups_lt (negative : Bool) {groups : List Nat}
    (hgroups : ∀ group ∈ groups, group < radix) :
    ∀ group ∈ codeGroups negative groups, group < radix := by
  cases negative with
  | false => exact hgroups
  | true =>
      rw [codeGroups, if_pos rfl, radixComplement_eq_complement]
      exact complement_lt (by decide) _

theorem codeGroups_involutive (negative : Bool) {groups : List Nat}
    (hgroups : ∀ group ∈ groups, group < radix) :
    codeGroups negative (codeGroups negative groups) = groups := by
  cases negative with
  | false => rfl
  | true =>
      simp only [codeGroups, if_true, radixComplement_eq_complement]
      exact complement_complement (by decide) hgroups

theorem codeGroups_value_pos (negative : Bool) {groups : List Nat}
    (hgroups : ∀ group ∈ groups, group < radix)
    (hpositive : 0 < ofBigEndian radix groups) :
    0 < ofBigEndian radix (codeGroups negative groups) := by
  cases negative with
  | false => exact hpositive
  | true =>
      have hvalue := complement_value hgroups (by omega)
      have hbound := ofBigEndian_lt (by decide) hgroups
      rw [codeGroups, if_pos rfl, radixComplement_eq_complement]
      omega

end Libsqli.Base100
