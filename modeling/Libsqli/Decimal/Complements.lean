import Libsqli.Result.LegacyDecimal

namespace Libsqli.Decimal.Complements

open Libsqli.Base100
open Libsqli.Data.Radix
open Libsqli.Result

/-! The two in-place complements, over arrays of octets. -/

/-- One pass of the loop of `sqli_base100_radix_complement`, in the machine
arithmetic of the source. -/
def radixComplementPass (group : UInt8) (state : List UInt8 × UInt32) :
    List UInt8 × UInt32 :=
  let digit := 100 - 1 - group.toUInt32 + state.2
  ((digit % 100).toUInt8 :: state.1, digit / 100)

/-- `sqli_base100_radix_complement` -/
def radixComplementInPlace (groups : List UInt8) : List UInt8 :=
  (groups.foldr radixComplementPass ([], 1)).1

theorem radixComplementPass_octet {group : UInt8} {carry : Nat}
    (hgroup : group.toNat < radix) (hcarry : carry ≤ 1) (done : List UInt8) :
    radixComplementPass group (done, UInt32.ofNat carry) =
      (UInt8.ofNat ((radix - 1 - group.toNat + carry) % radix) :: done,
        UInt32.ofNat ((radix - 1 - group.toNat + carry) / radix)) := by
  have hall : ∀ code : Fin 256, ∀ carry : Fin 2, code.val < radix →
      ((100 - 1 - (UInt8.ofFin code).toUInt32 + UInt32.ofNat carry.val) %
          100).toUInt8 =
        UInt8.ofNat ((radix - 1 - code.val + carry.val) % radix) ∧
      (100 - 1 - (UInt8.ofFin code).toUInt32 + UInt32.ofNat carry.val) / 100 =
        UInt32.ofNat ((radix - 1 - code.val + carry.val) / radix) := by
    decide +kernel
  obtain ⟨hdigit, hnext⟩ := hall group.toFin ⟨carry, by omega⟩ hgroup
  exact Prod.ext (congrArg (· :: done) hdigit) hnext

theorem foldr_radixComplementPass {groups : List UInt8}
    (hgroups : ∀ group ∈ byteGroups groups, group < radix) :
    groups.foldr radixComplementPass ([], 1) =
      (groupBytes (complementCarry radix (byteGroups groups)).1,
        UInt32.ofNat (complementCarry radix (byteGroups groups)).2) := by
  induction groups with
  | nil => rfl
  | cons group groups ih =>
      simp only [byteGroups, List.map_cons, List.forall_mem_cons] at hgroups
      have hcarry := complementCarry_le (byteGroups groups)
      rw [List.foldr_cons, ih hgroups.2,
        radixComplementPass_octet hgroups.1 hcarry]
      rfl

/-- The machine loop computes the complement of the numbers. -/
theorem radixComplementInPlace_eq {groups : List UInt8}
    (hgroups : ∀ group ∈ byteGroups groups, group < radix) :
    radixComplementInPlace groups =
      groupBytes (radixComplement (byteGroups groups)) := by
  rw [radixComplementInPlace, foldr_radixComplementPass hgroups]
  rfl

/-! What both loops do to groups below 100. -/

abbrev Small (groups : List UInt8) : Prop := ∀ group ∈ groups, group < 100

abbrev number (groups : List UInt8) : Nat :=
  ofBigEndian radix (byteGroups groups)

theorem Small.groups {groups : List UInt8} (hsmall : Small groups) :
    ∀ group ∈ byteGroups groups, group < radix := by
  intro group member
  obtain ⟨octet, hoctet, rfl⟩ := List.mem_map.mp member
  exact UInt8.lt_iff_toNat_lt.mp (hsmall octet hoctet)

theorem byteGroups_radixComplementInPlace {groups : List UInt8}
    (hsmall : Small groups) :
    byteGroups (radixComplementInPlace groups) =
      complement radix (byteGroups groups) := by
  rw [radixComplementInPlace_eq hsmall.groups, radixComplement_eq_complement]
  exact byteGroups_groupBytes (complement_lt (by decide) _)

theorem radixComplementInPlace_small {groups : List UInt8}
    (hsmall : Small groups) : Small (radixComplementInPlace groups) := by
  intro group member
  have hlt : group.toNat < radix := by
    refine complement_lt (by decide) (byteGroups groups) _ ?_
    rw [← byteGroups_radixComplementInPlace hsmall]
    exact List.mem_map_of_mem member
  exact UInt8.lt_iff_toNat_lt.mpr hlt

theorem base100Complement_eq_radixComplementInPlace {groups : List UInt8}
    (hsmall : Small groups) :
    base100Complement groups = radixComplementInPlace groups := by
  rw [base100Complement_eq hsmall.groups,
    radixComplementInPlace_eq hsmall.groups]

theorem radixComplementInPlace_twice {groups : List UInt8}
    (hsmall : Small groups) :
    radixComplementInPlace (radixComplementInPlace groups) = groups := by
  have hbytes : byteGroups
      (radixComplementInPlace (radixComplementInPlace groups)) =
        byteGroups groups := by
    rw [byteGroups_radixComplementInPlace (radixComplementInPlace_small hsmall),
      byteGroups_radixComplementInPlace hsmall]
    exact complement_complement (by decide) hsmall.groups
  rw [← groupBytes_byteGroups (radixComplementInPlace _), hbytes,
    groupBytes_byteGroups]

theorem number_radixComplementInPlace {groups : List UInt8}
    (hsmall : Small groups) :
    number (radixComplementInPlace groups) =
      if number groups = 0 then 0 else 100 ^ groups.length - number groups := by
  rw [number, byteGroups_radixComplementInPlace hsmall]
  split
  · next hzero => exact complement_value_zero (by decide) hsmall.groups hzero
  · next hzero =>
    have hvalue := complement_value hsmall.groups hzero
    rw [length_byteGroups] at hvalue
    simp only [number, radix] at hvalue ⊢
    omega

theorem byteGroups_append_zeros (groups : List UInt8) (count : Nat) :
    byteGroups (groups ++ List.replicate count 0) =
      byteGroups groups ++ List.replicate count 0 := by
  rw [byteGroups, List.map_append, List.map_replicate]
  rfl

theorem Small.append_zeros {groups : List UInt8} (hsmall : Small groups)
    (count : Nat) : Small (groups ++ List.replicate count 0) := by
  intro group member
  rcases List.mem_append.mp member with member | member
  · exact hsmall group member
  · rw [List.eq_of_mem_replicate member]
    decide

theorem radixComplementInPlace_append_zeros {groups : List UInt8}
    (hsmall : Small groups) (count : Nat) :
    radixComplementInPlace (groups ++ List.replicate count 0) =
      radixComplementInPlace groups ++ List.replicate count 0 := by
  have hbytes : byteGroups
      (radixComplementInPlace (groups ++ List.replicate count 0)) =
        byteGroups (radixComplementInPlace groups ++
          List.replicate count 0) := by
    rw [byteGroups_radixComplementInPlace (hsmall.append_zeros count),
      byteGroups_append_zeros, byteGroups_append_zeros,
      byteGroups_radixComplementInPlace hsmall]
    exact complement_append_zeros (by decide) _ count
  rw [← groupBytes_byteGroups (radixComplementInPlace _), hbytes,
    groupBytes_byteGroups]

theorem complements_agree {groups : List UInt8} (hsmall : Small groups) :
    base100Complement groups = radixComplementInPlace groups ∧
      Small (base100Complement groups) ∧
      base100Complement (base100Complement groups) = groups ∧
      radixComplementInPlace (radixComplementInPlace groups) = groups ∧
      number (base100Complement groups) =
        (if number groups = 0 then 0
          else 100 ^ groups.length - number groups) ∧
      ∀ count, base100Complement (groups ++ List.replicate count 0) =
          base100Complement groups ++ List.replicate count 0 ∧
        radixComplementInPlace (groups ++ List.replicate count 0) =
          radixComplementInPlace groups ++ List.replicate count 0 := by
  have hsame := base100Complement_eq_radixComplementInPlace hsmall
  have hkept := radixComplementInPlace_small hsmall
  refine ⟨hsame, ?_, ?_, radixComplementInPlace_twice hsmall, ?_, ?_⟩
  · rw [hsame]
    exact hkept
  · rw [hsame, base100Complement_eq_radixComplementInPlace hkept]
    exact radixComplementInPlace_twice hsmall
  · rw [hsame]
    exact number_radixComplementInPlace hsmall
  · intro count
    have hzeros := radixComplementInPlace_append_zeros hsmall count
    refine ⟨?_, hzeros⟩
    rw [base100Complement_eq_radixComplementInPlace (hsmall.append_zeros count),
      hsame, hzeros]

theorem complements_agree_three :
    base100Complement [1, 2, 0] = radixComplementInPlace [1, 2, 0] ∧
      base100Complement [1, 2, 0] = [98, 98, 0] :=
  have hsmall : Small [1, 2, 0] :=
    List.forall_mem_cons.mpr ⟨by decide, List.forall_mem_cons.mpr
      ⟨by decide, List.forall_mem_singleton.mpr (by decide)⟩⟩
  ⟨(complements_agree hsmall).1, by decide⟩

end Libsqli.Decimal.Complements
