import Mathlib.Data.List.Basic
import Mathlib.Order.Lattice
import Mathlib.Tactic.Common

namespace Libsqli.Data.Search

/-! Binary search in a list whose keys increase. -/

variable {α κ : Type} [LinearOrder κ] {key : α → κ} {table : List α}
  {wanted : κ} {low high : Nat}

/-- The window is half open; the bound keeps every read inside the table. -/
def bisect (key : α → κ) (table : List α) (wanted : κ) (low high : Nat)
    (hhigh : high ≤ table.length) : Option α :=
  if hopen : low < high then
    let middle := low + (high - low) / 2
    have hmiddle : middle < table.length := by omega
    if key table[middle] = wanted then some table[middle]
    else if key table[middle] < wanted then
      bisect key table wanted (middle + 1) high hhigh
    else bisect key table wanted low middle (Nat.le_of_lt hmiddle)
  else none
termination_by high - low

theorem bisect_sound {hhigh : high ≤ table.length} {entry : α}
    (hfound : bisect key table wanted low high hhigh = some entry) :
    entry ∈ table ∧ key entry = wanted := by
  fun_induction bisect key table wanted low high hhigh with
  | case1 low high hhigh hopen middle hmiddle hequal =>
      cases hfound
      exact ⟨List.getElem_mem hmiddle, hequal⟩
  | case2 low high hhigh hopen middle hmiddle hother hbelow ih =>
      exact ih hfound
  | case3 low high hhigh hopen middle hmiddle hother habove ih =>
      exact ih hfound
  | case4 low high hhigh hclosed => cases hfound

theorem key_lt_key (hsorted : table.Pairwise fun left right =>
      key left < key right) {left right : Nat} (hright : right < table.length)
    (hlt : left < right) : key table[left] < key table[right] :=
  List.pairwise_iff_getElem.mp hsorted left right (by omega) hright hlt

/-- An entry inside the window is found. -/
theorem bisect_complete (hsorted : table.Pairwise fun left right =>
      key left < key right) {hhigh : high ≤ table.length} {index : Nat}
    (hindex : index < table.length) (hlow : low ≤ index) (hinside : index < high)
    (hkey : key table[index] = wanted) :
    bisect key table wanted low high hhigh = some table[index] := by
  fun_induction bisect key table wanted low high hhigh with
  | case1 low high hhigh hopen middle hmiddle hequal =>
      have hsame : middle = index := by
        rcases Nat.lt_trichotomy middle index with hlt | heq | hgt
        · have hless := key_lt_key hsorted hindex hlt
          rw [hequal, hkey] at hless
          exact absurd hless (lt_irrefl _)
        · exact heq
        · have hless := key_lt_key hsorted hmiddle hgt
          rw [hequal, hkey] at hless
          exact absurd hless (lt_irrefl _)
      simp only [hsame]
  | case2 low high hhigh hopen middle hmiddle hother hbelow ih =>
      refine ih (Nat.lt_of_not_le fun hle => ?_) hinside
      rcases Nat.eq_or_lt_of_le hle with rfl | hlt
      · exact hother hkey
      · have hless := key_lt_key hsorted hmiddle hlt
        rw [hkey] at hless
        exact lt_asymm hless hbelow
  | case3 low high hhigh hopen middle hmiddle hother habove ih =>
      refine ih hlow (Nat.lt_of_not_le fun hle => ?_)
      rcases Nat.eq_or_lt_of_le hle with rfl | hlt
      · exact hother hkey
      · have hless := key_lt_key hsorted hindex hlt
        rw [hkey] at hless
        exact habove hless
  | case4 low high hhigh hclosed => omega

theorem bisect_eq_some_iff (hsorted : table.Pairwise fun left right =>
      key left < key right) {entry : α} :
    bisect key table wanted 0 table.length (Nat.le_refl _) = some entry ↔
      entry ∈ table ∧ key entry = wanted := by
  constructor
  · exact bisect_sound
  · rintro ⟨hmem, hkey⟩
    obtain ⟨index, hindex, rfl⟩ := List.getElem_of_mem hmem
    exact bisect_complete hsorted hindex (Nat.zero_le _) hindex hkey

theorem bisect_eq_none_iff (hsorted : table.Pairwise fun left right =>
      key left < key right) :
    bisect key table wanted 0 table.length (Nat.le_refl _) = none ↔
      ∀ entry ∈ table, key entry ≠ wanted := by
  constructor
  · intro hnone entry hmem hkey
    rw [(bisect_eq_some_iff hsorted).mpr ⟨hmem, hkey⟩] at hnone
    cases hnone
  · intro habsent
    cases hfound : bisect key table wanted 0 table.length (Nat.le_refl _) with
    | none => rfl
    | some entry =>
        obtain ⟨hmem, hkey⟩ := bisect_sound hfound
        exact absurd hkey (habsent entry hmem)

end Libsqli.Data.Search
