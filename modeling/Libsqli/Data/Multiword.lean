import Mathlib.Data.Nat.Digits.Lemmas
import Mathlib.Tactic.Ring

namespace Libsqli.Data.Multiword

/-! Numbers of several words, least significant first, times and by one word. -/

variable {base factor divisor : Nat} {words : List Nat}

/-- The product and its carry. -/
def mulWord (base factor : Nat) : List Nat → Nat → List Nat × Nat
  | [], carry => ([], carry)
  | word :: rest, carry =>
      let above := mulWord base factor rest ((word * factor + carry) / base)
      ((word * factor + carry) % base :: above.1, above.2)

/-- The quotient and the remainder, from the most significant word down. -/
def divWord (base divisor : Nat) : List Nat → List Nat × Nat
  | [] => ([], 0)
  | word :: rest =>
      let above := divWord base divisor rest
      ((above.2 * base + word) / divisor :: above.1,
        (above.2 * base + word) % divisor)

@[simp] theorem length_mulWord (carry : Nat) :
    (mulWord base factor words carry).1.length = words.length := by
  induction words generalizing carry with
  | nil => rfl
  | cons word rest ih => simp [mulWord, ih]

theorem mulWord_lt (hbase : 0 < base) (carry : Nat) :
    ∀ word ∈ (mulWord base factor words carry).1, word < base := by
  induction words generalizing carry with
  | nil => simp [mulWord]
  | cons word rest ih =>
      intro other member
      rcases List.mem_cons.mp member with rfl | member
      · exact Nat.mod_lt _ hbase
      · exact ih _ other member

theorem mulWord_carry
    (hwords : ∀ word ∈ words, word < base) {carry : Nat}
    (hcarry : carry < factor) :
    (mulWord base factor words carry).2 < factor := by
  induction words generalizing carry with
  | nil => exact hcarry
  | cons word rest ih =>
      have hword := hwords word List.mem_cons_self
      refine ih (fun other member => hwords other
        (List.mem_cons_of_mem _ member)) ?_
      apply Nat.div_lt_of_lt_mul
      calc
        word * factor + carry < word * factor + factor :=
          Nat.add_lt_add_left hcarry _
        _ = (word + 1) * factor := by ring
        _ ≤ base * factor := Nat.mul_le_mul_right _ hword

theorem mulWord_value (carry : Nat) :
    Nat.ofDigits base (mulWord base factor words carry).1 +
        base ^ words.length * (mulWord base factor words carry).2 =
      Nat.ofDigits base words * factor + carry := by
  induction words generalizing carry with
  | nil => simp [mulWord]
  | cons word rest ih =>
      have habove := ih ((word * factor + carry) / base)
      have hsplit := Nat.mod_add_div (word * factor + carry) base
      rw [mulWord, Nat.ofDigits_cons, Nat.ofDigits_cons, List.length_cons,
        pow_succ']
      calc
        _ = (word * factor + carry) % base + base *
            (Nat.ofDigits base
              (mulWord base factor rest ((word * factor + carry) / base)).1 +
            base ^ rest.length *
              (mulWord base factor rest ((word * factor + carry) / base)).2) := by
          ring
        _ = (word * factor + carry) % base +
            base * ((word * factor + carry) / base) +
              base * (Nat.ofDigits base rest * factor) := by
          rw [habove]
          ring
        _ = _ := by
          rw [hsplit]
          ring

@[simp] theorem length_divWord :
    (divWord base divisor words).1.length = words.length := by
  induction words with
  | nil => rfl
  | cons word rest ih => simp [divWord, ih]

theorem divWord_remainder (hdivisor : 0 < divisor) :
    (divWord base divisor words).2 < divisor := by
  cases words with
  | nil => exact hdivisor
  | cons word rest => exact Nat.mod_lt _ hdivisor

theorem divWord_lt (hdivisor : 0 < divisor)
    (hwords : ∀ word ∈ words, word < base) :
    ∀ word ∈ (divWord base divisor words).1, word < base := by
  induction words with
  | nil => simp [divWord]
  | cons word rest ih =>
      have hword := hwords word List.mem_cons_self
      have hremainder := @divWord_remainder base divisor rest hdivisor
      intro other member
      rcases List.mem_cons.mp member with rfl | member
      · apply Nat.div_lt_of_lt_mul
        calc
          (divWord base divisor rest).2 * base + word <
              (divWord base divisor rest).2 * base + base :=
            Nat.add_lt_add_left hword _
          _ = ((divWord base divisor rest).2 + 1) * base := by ring
          _ ≤ divisor * base := Nat.mul_le_mul_right _ hremainder
      · exact ih (fun other member => hwords other
          (List.mem_cons_of_mem _ member)) other member

theorem divWord_value (words : List Nat) :
    divisor * Nat.ofDigits base (divWord base divisor words).1 +
        (divWord base divisor words).2 =
      Nat.ofDigits base words := by
  induction words with
  | nil => simp [divWord]
  | cons word rest ih =>
      have hsplit := Nat.div_add_mod
        ((divWord base divisor rest).2 * base + word) divisor
      rw [divWord, Nat.ofDigits_cons, Nat.ofDigits_cons]
      calc
        _ = divisor * (((divWord base divisor rest).2 * base + word) / divisor) +
            ((divWord base divisor rest).2 * base + word) % divisor +
              base * (divisor *
                Nat.ofDigits base (divWord base divisor rest).1) := by
          ring
        _ = word + base * (divisor *
            Nat.ofDigits base (divWord base divisor rest).1 +
              (divWord base divisor rest).2) := by
          rw [hsplit]
          ring
        _ = _ := by rw [ih]

/-- The upper words of a quotient are the quotient of the upper words. -/
theorem drop_divWord (count : Nat) :
    (divWord base divisor words).1.drop count =
      (divWord base divisor (words.drop count)).1 := by
  induction count generalizing words with
  | zero => rfl
  | succ count ih =>
      cases words with
      | nil => rfl
      | cons word rest => simpa [divWord] using ih

/-- Division without remainder. -/
theorem divWord_exact (hdivisor : 0 < divisor)
    (hdivides : divisor ∣ Nat.ofDigits base words) :
    divisor * Nat.ofDigits base (divWord base divisor words).1 =
      Nat.ofDigits base words := by
  have hvalue := @divWord_value base divisor words
  have hremainder := @divWord_remainder base divisor words hdivisor
  have hzero : (divWord base divisor words).2 = 0 := by
    have hmod := Nat.mod_eq_zero_of_dvd hdivides
    rw [← hvalue, Nat.mul_add_mod, Nat.mod_eq_of_lt hremainder] at hmod
    exact hmod
  rw [hzero] at hvalue
  exact hvalue

end Libsqli.Data.Multiword
