import Mathlib.Algebra.Ring.Int.Parity
import SlotVM.Arithmetic

namespace SlotVM

theorem pow_sum (x : Int64) (m n : Nat) : x ^ (m + n) = x ^ m * x ^ n := by
  induction n with
  | zero => rw [Nat.add_zero, Int64.pow_zero, Int64.mul_one]
  | succ n ih => rw [← Nat.add_assoc, Int64.pow_succ, ih, Int64.pow_succ, Int64.mul_assoc]

theorem squared_pow (x : Int64) (n : Nat) : (x * x) ^ n = x ^ (n + n) := by
  induction n with
  | zero => rfl
  | succ n ih =>
    calc (x * x) ^ (n + 1)
        = x ^ (n + n) * (x * x) := by rw [Int64.pow_succ, ih]
      _ = x ^ (n + n + 1 + 1) := by rw [Int64.pow_succ, Int64.pow_succ, Int64.mul_assoc]
      _ = x ^ (n + 1 + (n + 1)) := congrArg (x ^ ·) (by omega)

/-- Repeated squaring computes the power. -/
theorem wrappingPow_eq (x : Int64) (n : Nat) : wrappingPow x n = x ^ n := by
  fun_induction wrappingPow x n with
  | case1 x => exact (Int64.pow_zero x).symm
  | case2 x n nonzero half odd ih =>
    have parts : n = n / 2 + n / 2 + 1 := by omega
    calc x * half
        = x * x ^ (n / 2 + n / 2) := by rw [← squared_pow]; exact congrArg _ ih
      _ = x ^ (n / 2 + n / 2 + 1) := by rw [Int64.pow_succ, Int64.mul_comm]
      _ = x ^ n := by rw [← parts]
  | case3 x n nonzero half even ih =>
    have parts : n = n / 2 + n / 2 := by omega
    calc half
        = x ^ (n / 2 + n / 2) := by rw [← squared_pow]; exact ih
      _ = x ^ n := by rw [← parts]

/-- The power is the exact one wrapped around. -/
theorem toInt_pow (x : Int64) (n : Nat) : (x ^ n).toInt = (x.toInt ^ n).bmod (2 ^ 64) := by
  induction n with
  | zero =>
    rw [Int64.pow_zero, pow_zero]
    rfl
  | succ n ih => rw [Int64.pow_succ, Int64.toInt_mul, ih, Int.bmod_mul_bmod, pow_succ x.toInt]

theorem intPow_of_lt {x y : Int64} (nonneg : 0 ≤ y) (small : y.toInt < 2 ^ 32) :
    intPow x y = x ^ y.toInt.toNat := by
  have limit : powLimit.toInt = 2 ^ 32 := rfl
  have below : y < powLimit := Int64.lt_iff_toInt_lt.mpr (limit ▸ small)
  rw [intPow, if_pos ⟨nonneg, below⟩, wrappingPow_eq]

/-- Exponents from the limit on with one floating-point number give one power. -/
theorem intPow_of_ofInt_eq {x y z : Int64} (large : powLimit ≤ y) (large' : powLimit ≤ z)
    (same : Double.ofInt y = Double.ofInt z) : intPow x y = intPow x z := by
  rw [intPow, intPow, if_neg (fun h => Int64.not_lt.mpr large h.2),
    if_neg (fun h => Int64.not_lt.mpr large' h.2), same]

/-- A power of integers with an exponent from zero up to 32 bits is the exact power wrapped around,
and the power by a sum of exponents is the product of the powers. -/
theorem intArith_pow (x : Int64) :
    (∀ y : Int64, 0 ≤ y → y.toInt < 2 ^ 32 → ∃ r, intArith .pow x y = .int r ∧
      r.toInt = (x.toInt ^ y.toInt.toNat).bmod (2 ^ 64)) ∧
    ∀ a b : Int64, 0 ≤ a → 0 ≤ b → a.toInt + b.toInt < 2 ^ 32 → ∃ p q,
      intArith .pow x a = .int p ∧ intArith .pow x b = .int q ∧
      intArith .pow x (a + b) = intArith .mul p q := by
  refine ⟨fun y nonneg small => ⟨_, rfl, ?_⟩, fun a b ha hb small => ⟨_, _, rfl, rfl, ?_⟩⟩
  · rw [intPow_of_lt nonneg small, toInt_pow]
  · have ha' : 0 ≤ a.toInt := Int64.le_iff_toInt_le.mp ha
    have hb' : 0 ≤ b.toInt := Int64.le_iff_toInt_le.mp hb
    have sum : (a + b).toInt = a.toInt + b.toInt := by
      rw [Int64.toInt_add]
      exact Int.bmod_eq_of_le (by omega) (by omega)
    have nonneg : 0 ≤ a + b := Int64.le_iff_toInt_le.mpr (sum ▸ Int.add_nonneg ha' hb')
    have exponent : (a + b).toInt.toNat = a.toInt.toNat + b.toInt.toNat := by
      rw [sum, Int.toNat_add ha' hb']
    have split : intPow x (a + b) = intPow x a * intPow x b := by
      rw [intPow_of_lt nonneg (sum ▸ small), intPow_of_lt ha (by omega),
        intPow_of_lt hb (by omega), exponent, pow_sum]
    exact congrArg Value.int split

/-- The power of minus three by forty-one, which lies beyond the least integer, and its factors. -/
theorem intArith_pow_minus_three :
    (0 : Int64) ≤ 41 ∧ (41 : Int64).toInt < 2 ^ 32 ∧
    (∃ r, intArith .pow (-3) 41 = .int r ∧ r.toInt = 420491770248316829) ∧
    (0 : Int64) ≤ 21 ∧ (0 : Int64) ≤ 20 ∧ (21 : Int64).toInt + (20 : Int64).toInt < 2 ^ 32 ∧
    ∃ p q, intArith .pow (-3) 21 = .int p ∧ intArith .pow (-3) 20 = .int q ∧
      intArith .pow (-3) (21 + 20) = intArith .mul p q := by
  obtain ⟨wraps, product⟩ := intArith_pow (-3)
  exact ⟨by decide, by decide, wraps 41 (by decide) (by decide), by decide, by decide, by decide,
    product 21 20 (by decide) (by decide) (by decide)⟩

/-- Large exponents do not wrap around: an odd one is the same floating-point number as an even one,
so minus one has the same power for both. -/
theorem intArith_pow_large : ¬ ∀ x y : Int64, 0 ≤ y → ∃ r, intArith .pow x y = .int r ∧
    r.toInt = (x.toInt ^ y.toInt.toNat).bmod (2 ^ 64) := by
  intro wraps
  obtain ⟨r, hr, even⟩ := wraps (-1) 9007199254740992 (by decide)
  obtain ⟨s, hs, odd⟩ := wraps (-1) 9007199254740993 (by decide)
  have same : Double.ofInt 9007199254740992 = Double.ofInt 9007199254740993 := by decide +kernel
  have one : intPow (-1) 9007199254740992 = intPow (-1) 9007199254740993 :=
    intPow_of_ofInt_eq (by decide) (by decide) same
  have equal : r = s := Value.int.inj (hr.symm.trans ((congrArg Value.int one).trans hs))
  have unit : (-1 : Int64).toInt = -1 := rfl
  have exponent : (9007199254740992 : Int64).toInt.toNat = 9007199254740992 := rfl
  have exponent' : (9007199254740993 : Int64).toInt.toNat = 9007199254740993 := rfl
  rw [unit, exponent, Even.neg_one_pow (by decide)] at even
  rw [unit, exponent', Odd.neg_one_pow (by decide)] at odd
  rw [equal, odd] at even
  exact absurd even (by decide)

end SlotVM
