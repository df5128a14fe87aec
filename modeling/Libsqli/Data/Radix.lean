import Mathlib.Data.List.DropRight
import Mathlib.Data.Nat.Digits.Lemmas
import Mathlib.Tactic.Linarith
import Mathlib.Tactic.Ring

namespace Libsqli.Data.Radix

/-! Digit lists with the most significant digit first. -/

def ofBigEndian (base : Nat) (digits : List Nat) : Nat :=
  Nat.ofDigits base digits.reverse

@[simp] theorem ofBigEndian_nil : ofBigEndian base [] = 0 := rfl

@[simp] theorem ofBigEndian_singleton : ofBigEndian base [digit] = digit := by
  simp [ofBigEndian]

theorem ofBigEndian_append (base : Nat) (left right : List Nat) :
    ofBigEndian base (left ++ right) =
      ofBigEndian base left * base ^ right.length + ofBigEndian base right := by
  simp only [ofBigEndian, List.reverse_append, Nat.ofDigits_append,
    List.length_reverse]
  ring

theorem ofBigEndian_cons (digit : Nat) (rest : List Nat) :
    ofBigEndian base (digit :: rest) =
      digit * base ^ rest.length + ofBigEndian base rest := by
  simpa using ofBigEndian_append base [digit] rest

theorem ofBigEndian_concat (front : List Nat) (digit : Nat) :
    ofBigEndian base (front ++ [digit]) =
      ofBigEndian base front * base + digit := by
  simp [ofBigEndian_append]

@[simp] theorem ofBigEndian_replicate_zero :
    ofBigEndian base (List.replicate count 0) = 0 := by
  simp [ofBigEndian, Nat.ofDigits_replicate_zero]

theorem ofBigEndian_lt (hbase : 1 < base) {digits : List Nat}
    (hdigits : ∀ digit ∈ digits, digit < base) :
    ofBigEndian base digits < base ^ digits.length := by
  have hlt := Nat.ofDigits_lt_base_pow_length (l := digits.reverse) hbase
    (by simpa using hdigits)
  simpa [ofBigEndian] using hlt

theorem ofBigEndian_injective (hbase : 1 < base) {left right : List Nat}
    (hlength : left.length = right.length)
    (hleft : ∀ digit ∈ left, digit < base)
    (hright : ∀ digit ∈ right, digit < base)
    (hvalue : ofBigEndian base left = ofBigEndian base right) :
    left = right := by
  have hreverse : left.reverse = right.reverse :=
    Nat.ofDigits_inj_of_len_eq hbase (by simpa using hlength)
      (by simpa using hleft) (by simpa using hright) hvalue
  simpa using hreverse

theorem ofBigEndian_eq_zero_iff (hbase : 0 < base) {digits : List Nat} :
    ofBigEndian base digits = 0 ↔ ∀ digit ∈ digits, digit = 0 := by
  induction digits with
  | nil => simp
  | cons digit rest ih =>
      have hpower : base ^ rest.length ≠ 0 := by positivity
      rw [ofBigEndian_cons, Nat.add_eq_zero_iff, Nat.mul_eq_zero, ih,
        List.forall_mem_cons]
      simp only [hpower, or_false]

theorem ofBigEndian_modify {digits : List Nat} {index : Nat}
    (hindex : index < digits.length) (amount : Nat) :
    ofBigEndian base (digits.modify index (· + amount)) =
      ofBigEndian base digits + amount * base ^ (digits.length - 1 - index) := by
  induction digits generalizing index with
  | nil => simp at hindex
  | cons digit rest ih =>
      cases index with
      | zero =>
          simp only [List.modify_zero_cons, ofBigEndian_cons, List.length_cons]
          simp
          ring
      | succ index =>
          have hrest : index < rest.length := by simpa using hindex
          have hexponent : rest.length + 1 - 1 - (index + 1) =
              rest.length - 1 - index := by omega
          simp only [List.modify_succ_cons, ofBigEndian_cons, ih hrest,
            List.length_modify, List.length_cons, hexponent]
          ring

theorem getD_eq_digit (hbase : 1 < base) {digits : List Nat}
    (hdigits : ∀ digit ∈ digits, digit < base) {index : Nat}
    (hindex : index < digits.length) :
    digits.getD index 0 =
      ofBigEndian base digits / base ^ (digits.length - 1 - index) % base := by
  induction digits generalizing index with
  | nil => simp at hindex
  | cons digit rest ih =>
      have hrest : ∀ digit ∈ rest, digit < base :=
        fun other member => hdigits other (List.mem_cons_of_mem _ member)
      have hbound := ofBigEndian_lt hbase hrest
      cases index with
      | zero =>
          have hpower : 0 < base ^ rest.length := by positivity
          have hdigit := hdigits digit List.mem_cons_self
          simp only [List.getD_cons_zero, ofBigEndian_cons, List.length_cons]
          rw [show rest.length + 1 - 1 - 0 = rest.length by omega,
            Nat.add_comm, Nat.add_mul_div_right _ _ hpower,
            Nat.div_eq_of_lt hbound, Nat.zero_add, Nat.mod_eq_of_lt hdigit]
      | succ index =>
          have hlt : index < rest.length := by simpa using hindex
          have hsplit : base ^ rest.length =
              base * base ^ index * base ^ (rest.length - 1 - index) := by
            rw [← pow_succ', ← pow_add]
            congr 1
            omega
          have hpower : 0 < base ^ (rest.length - 1 - index) := by positivity
          have hexponent : rest.length + 1 - 1 - (index + 1) =
              rest.length - 1 - index := by omega
          have hdrop : digit * base ^ rest.length =
              digit * base ^ index * base * base ^ (rest.length - 1 - index) := by
            rw [hsplit]
            ring
          simp only [List.getD_cons_succ, ih hrest hlt, ofBigEndian_cons,
            List.length_cons, hexponent]
          rw [hdrop, Nat.add_comm, Nat.add_mul_div_right _ _ hpower,
            Nat.add_mul_mod_self_right]

/-! The `width` least significant digits of a number. -/

def toBigEndian (base : Nat) : Nat → Nat → List Nat
  | 0, _ => []
  | width + 1, value => toBigEndian base width (value / base) ++ [value % base]

@[simp] theorem length_toBigEndian (base width value : Nat) :
    (toBigEndian base width value).length = width := by
  induction width generalizing value with
  | zero => rfl
  | succ width ih => simp [toBigEndian, ih]

theorem toBigEndian_lt (hbase : 0 < base) (width value : Nat) :
    ∀ digit ∈ toBigEndian base width value, digit < base := by
  induction width generalizing value with
  | zero => simp [toBigEndian]
  | succ width ih =>
      intro digit member
      rcases List.mem_append.mp member with member | member
      · exact ih _ digit member
      · rw [List.mem_singleton.mp member]
        exact Nat.mod_lt _ hbase

theorem ofBigEndian_toBigEndian_mod (base width value : Nat) :
    ofBigEndian base (toBigEndian base width value) = value % base ^ width := by
  induction width generalizing value with
  | zero => simp [toBigEndian, Nat.mod_one]
  | succ width ih =>
      rw [toBigEndian, ofBigEndian_concat, ih, pow_succ', Nat.mod_mul]
      ring

theorem ofBigEndian_toBigEndian (width : Nat) {value : Nat}
    (hvalue : value < base ^ width) :
    ofBigEndian base (toBigEndian base width value) = value := by
  rw [ofBigEndian_toBigEndian_mod, Nat.mod_eq_of_lt hvalue]

theorem toBigEndian_ofBigEndian (hbase : 1 < base) {digits : List Nat}
    (hdigits : ∀ digit ∈ digits, digit < base) :
    toBigEndian base digits.length (ofBigEndian base digits) = digits := by
  refine ofBigEndian_injective hbase (by simp)
    (toBigEndian_lt (by omega) _ _) hdigits ?_
  exact ofBigEndian_toBigEndian _ (ofBigEndian_lt hbase hdigits)

theorem foldl_eq_ofBigEndian (base : Nat) (digits : List Nat) :
    digits.foldl (fun value digit => value * base + digit) 0 =
      ofBigEndian base digits := by
  induction digits using List.reverseRecOn with
  | nil => rfl
  | append_singleton front last ih =>
      rw [List.foldl_append, ih, ofBigEndian_concat]
      rfl

/-! Digit lists with the least significant digit first. -/

theorem getD_ofDigits {digits : List Nat}
    (hdigits : ∀ digit ∈ digits, digit < base) (index : Nat) :
    digits.getD index 0 = Nat.ofDigits base digits / base ^ index % base := by
  induction digits generalizing index with
  | nil => simp
  | cons digit rest ih =>
      have hhead := hdigits digit List.mem_cons_self
      rw [Nat.ofDigits_cons]
      cases index with
      | zero => simp [Nat.mod_eq_of_lt hhead]
      | succ index =>
          rw [List.getD_cons_succ, ih (fun other member =>
            hdigits other (List.mem_cons_of_mem _ member)), pow_succ',
            ← Nat.div_div_eq_div_mul,
            Nat.add_mul_div_left _ _ (by omega : 0 < base),
            Nat.div_eq_of_lt hhead, Nat.zero_add]

theorem ofDigits_set_add (base : Nat) {digits : List Nat} {index : Nat}
    (hindex : index < digits.length) (amount : Nat) :
    Nat.ofDigits base (digits.set index (digits.getD index 0 + amount)) =
      Nat.ofDigits base digits + amount * base ^ index := by
  induction digits generalizing index with
  | nil => simp at hindex
  | cons digit rest ih =>
      cases index with
      | zero =>
          simp only [List.set_cons_zero, List.getD_cons_zero, Nat.ofDigits_cons,
            pow_zero]
          ring
      | succ index =>
          have hrest := ih (Nat.lt_of_succ_lt_succ hindex)
          rw [List.set_cons_succ, List.getD_cons_succ, Nat.ofDigits_cons,
            Nat.ofDigits_cons, hrest, pow_succ]
          ring

/-! The leading and the trailing digits of a number of known width. -/

theorem ofBigEndian_leading {value width : Nat} (hvalue : value < base ^ width)
    (hcount : count ≤ width) :
    ofBigEndian base ((List.range count).map fun index =>
      value / base ^ (width - index - 1) % base) =
        value / base ^ (width - count) := by
  induction count with
  | zero => simp [Nat.div_eq_of_lt hvalue]
  | succ count ih =>
      rw [List.range_succ, List.map_append, List.map_singleton,
        ofBigEndian_concat, ih (by omega),
        show width - count = width - (count + 1) + 1 by omega, pow_succ,
        ← Nat.div_div_eq_div_mul,
        show width - (count + 1) + 1 - 1 = width - (count + 1) by omega]
      exact Nat.div_add_mod' _ _

theorem mod_pow_eq_zero_iff (base value count : Nat) :
    value % base ^ count = 0 ↔
      ∀ index < count, value / base ^ index % base = 0 := by
  induction count with
  | zero => simp [Nat.mod_one]
  | succ count ih =>
      rw [Nat.forall_lt_succ_right, ← ih, pow_succ, Nat.mod_mul,
        Nat.add_eq_zero_iff, Nat.mul_eq_zero, Nat.pow_eq_zero]
      constructor
      · rintro ⟨hlow, ⟨rfl, hcount⟩ | hdigit⟩
        · simp [Nat.zero_pow (Nat.pos_of_ne_zero hcount)] at hlow ⊢
          exact hlow
        · exact ⟨hlow, hdigit⟩
      · rintro ⟨hlow, hdigit⟩
        exact ⟨hlow, .inr hdigit⟩

/-! Dropping trailing zero digits scales the value by a power of the base. -/

theorem ofBigEndian_rdropWhile_zero (digits : List Nat) :
    ofBigEndian base digits =
      ofBigEndian base (digits.rdropWhile (· = 0)) *
        base ^ (digits.length - (digits.rdropWhile (· = 0)).length) := by
  induction digits using List.reverseRecOn with
  | nil => simp
  | append_singleton front last ih =>
      by_cases hlast : last = 0
      · subst last
        have hle : (front.rdropWhile (· = 0)).length ≤ front.length :=
          (List.rdropWhile_prefix (· = 0) front).length_le
        rw [List.rdropWhile_concat_pos _ _ _ (by simp), ofBigEndian_concat, ih,
          List.length_append, List.length_singleton,
          Nat.sub_add_comm hle, pow_succ]
        ring
      · rw [List.rdropWhile_concat_neg _ _ _ (by simpa using hlast)]
        simp

/-! Radix complement, computed from the least significant digit with an
initial carry of one. -/

def complementStep (base digit : Nat) (state : List Nat × Nat) :
    List Nat × Nat :=
  let sum := base - 1 - digit + state.2
  (sum % base :: state.1, sum / base)

def complementCarry (base : Nat) (digits : List Nat) : List Nat × Nat :=
  digits.foldr (complementStep base) ([], 1)

@[simp] theorem complementCarry_nil :
    complementCarry base [] = ([], 1) := rfl

@[simp] theorem complementCarry_cons :
    complementCarry base (digit :: rest) =
      complementStep base digit (complementCarry base rest) := rfl

def complement (base : Nat) (digits : List Nat) : List Nat :=
  (complementCarry base digits).1

@[simp] theorem length_complement (digits : List Nat) :
    (complement base digits).length = digits.length := by
  induction digits with
  | nil => rfl
  | cons digit rest ih => simpa [complement, complementStep] using ih

theorem complement_lt (hbase : 0 < base) (digits : List Nat) :
    ∀ digit ∈ complement base digits, digit < base := by
  induction digits with
  | nil => simp [complement]
  | cons digit rest ih =>
      intro other member
      rcases List.mem_cons.mp member with rfl | member
      · exact Nat.mod_lt _ hbase
      · exact ih other member

theorem complementCarry_value {digits : List Nat}
    (hdigits : ∀ digit ∈ digits, digit < base) :
    ofBigEndian base (complement base digits) +
        (complementCarry base digits).2 * base ^ digits.length +
        ofBigEndian base digits = base ^ digits.length := by
  induction digits with
  | nil => simp [complement]
  | cons digit rest ih =>
      have hrest := ih fun other member =>
        hdigits other (List.mem_cons_of_mem _ member)
      have hdigit := hdigits digit List.mem_cons_self
      let sum := base - 1 - digit + (complementCarry base rest).2
      have hsum : sum % base + base * (sum / base) = sum := Nat.mod_add_div ..
      have hfull : sum + digit + 1 = base + (complementCarry base rest).2 := by
        dsimp only [sum]
        omega
      change ofBigEndian base (sum % base :: complement base rest) +
        sum / base * base ^ (rest.length + 1) +
        ofBigEndian base (digit :: rest) = base ^ (rest.length + 1)
      simp only [ofBigEndian_cons, length_complement, pow_succ]
      nlinarith [congrArg (· * base ^ rest.length) hsum,
        congrArg (· * base ^ rest.length) hfull]

theorem complement_value {digits : List Nat}
    (hdigits : ∀ digit ∈ digits, digit < base)
    (hnonzero : ofBigEndian base digits ≠ 0) :
    ofBigEndian base (complement base digits) + ofBigEndian base digits =
      base ^ digits.length := by
  have hvalue := complementCarry_value hdigits
  have hcarry : (complementCarry base digits).2 = 0 := by
    by_contra hne
    have hle := Nat.le_mul_of_pos_left (base ^ digits.length)
      (Nat.pos_of_ne_zero hne)
    omega
  simpa [hcarry] using hvalue

theorem complement_value_zero {digits : List Nat} (hbase : 1 < base)
    (hdigits : ∀ digit ∈ digits, digit < base)
    (hzero : ofBigEndian base digits = 0) :
    ofBigEndian base (complement base digits) = 0 := by
  have hvalue := complementCarry_value hdigits
  have hbound := ofBigEndian_lt hbase (complement_lt (by omega) digits)
  rw [length_complement] at hbound
  have hpower : 0 < base ^ digits.length := by positivity
  rw [hzero, Nat.add_zero] at hvalue
  cases hcarry : (complementCarry base digits).2 with
  | zero => simp [hcarry] at hvalue; omega
  | succ carry =>
      rw [hcarry, Nat.succ_mul] at hvalue
      omega

theorem complement_complement (hbase : 1 < base) {digits : List Nat}
    (hdigits : ∀ digit ∈ digits, digit < base) :
    complement base (complement base digits) = digits := by
  refine ofBigEndian_injective hbase (by simp)
    (complement_lt (by omega) _) hdigits ?_
  have hlt : ∀ digit ∈ complement base digits, digit < base :=
    complement_lt (by omega) digits
  by_cases hzero : ofBigEndian base digits = 0
  · rw [hzero]
    exact complement_value_zero hbase hlt
      (complement_value_zero hbase hdigits hzero)
  · have hfirst := complement_value hdigits hzero
    have hbound := ofBigEndian_lt hbase hdigits
    have hsecond := complement_value hlt (by omega)
    rw [length_complement] at hsecond
    omega

theorem foldr_complementStep (digits tail : List Nat) (carry : Nat) :
    digits.foldr (complementStep base) (tail, carry) =
      ((digits.foldr (complementStep base) ([], carry)).1 ++ tail,
        (digits.foldr (complementStep base) ([], carry)).2) := by
  induction digits with
  | nil => rfl
  | cons digit rest ih => rw [List.foldr_cons, ih]; rfl

theorem complementCarry_zeros (hbase : 0 < base) (count : Nat) :
    complementCarry base (List.replicate count 0) =
      (List.replicate count 0, 1) := by
  induction count with
  | zero => rfl
  | succ count ih =>
      have hsum : base - 1 - 0 + 1 = base := by omega
      rw [List.replicate_succ, complementCarry_cons, ih, complementStep, hsum,
        Nat.mod_self, Nat.div_self hbase]

/-- Zero digits at the end take no part in the complement. -/
theorem complement_append_zeros (hbase : 0 < base) (digits : List Nat)
    (count : Nat) :
    complement base (digits ++ List.replicate count 0) =
      complement base digits ++ List.replicate count 0 := by
  have hzeros := complementCarry_zeros hbase count
  rw [complementCarry] at hzeros
  rw [complement, complementCarry, List.foldr_append, hzeros,
    foldr_complementStep]
  rfl

/-! A positive number is determined by its trailing-zero count and the rest. -/

theorem normalized_unique (hbase : 1 < base)
    (hvalue : left * base ^ leftZeros = right * base ^ rightZeros)
    (hleft : left % base ≠ 0) (hright : right % base ≠ 0) :
    left = right ∧ leftZeros = rightZeros := by
  have hpositive : 0 < base := by omega
  have hzeros : leftZeros = rightZeros := by
    rcases Nat.lt_trichotomy leftZeros rightZeros with hlt | heq | hgt
    · obtain ⟨gap, rfl⟩ := Nat.exists_eq_add_of_lt hlt
      have hcancel : left = right * base ^ gap * base := by
        apply Nat.eq_of_mul_eq_mul_right (Nat.pow_pos hpositive)
        rw [hvalue]
        ring
      exact absurd (by rw [hcancel, Nat.mul_mod_left]) hleft
    · exact heq
    · obtain ⟨gap, rfl⟩ := Nat.exists_eq_add_of_lt hgt
      have hcancel : right = left * base ^ gap * base := by
        apply Nat.eq_of_mul_eq_mul_right (Nat.pow_pos hpositive)
        rw [← hvalue]
        ring
      exact absurd (by rw [hcancel, Nat.mul_mod_left]) hright
  subst rightZeros
  exact ⟨Nat.eq_of_mul_eq_mul_right (Nat.pow_pos hpositive) hvalue, rfl⟩

/-! The number of digits of a positive number is pinned by two powers. -/

theorem digitCount_unique (hbase : 1 < base) {count : Nat}
    (hlower : base ^ count ≤ value) (hupper : value < base ^ (count + 1)) :
    (Nat.digits base value).length = count + 1 := by
  have hle := (Nat.digits_length_le_iff hbase value).mpr hupper
  have hlt := (Nat.lt_digits_length_iff hbase value).mpr hlower
  omega

theorem digitCount_mul_pow (hbase : 1 < base) (hvalue : 0 < value) :
    (Nat.digits base (value * base ^ zeros)).length =
      (Nat.digits base value).length + zeros := by
  rw [Nat.mul_comm, Nat.digits_base_pow_mul hbase hvalue]
  simp [Nat.add_comm]

end Libsqli.Data.Radix
