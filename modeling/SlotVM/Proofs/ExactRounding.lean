import SlotVM.Double.Basic

namespace SlotVM

theorem lt_two_pow_bitLength (n : Nat) : n < 2 ^ bitLength n := by
  unfold bitLength
  split
  next zero => rw [zero]; decide
  next => exact Nat.lt_log2_self

theorem two_pow_le_of_bitLength {n k : Nat} (h : bitLength n = k + 1) : 2 ^ k ≤ n := by
  unfold bitLength at h
  split at h
  next => cases h
  next nonzero =>
    cases h
    exact Nat.log2_self_le nonzero

theorem bitLength_le {n k : Nat} (h : n < 2 ^ k) : bitLength n ≤ k := by
  cases hb : bitLength n with
  | zero => exact Nat.zero_le k
  | succ j =>
    have lower : 2 ^ j < 2 ^ k := Nat.lt_of_le_of_lt (two_pow_le_of_bitLength hb) h
    exact (Nat.pow_lt_pow_iff_right (by decide)).mp lower

theorem bitLength_pos {n : Nat} (nonzero : n ≠ 0) : 0 < bitLength n := by
  unfold bitLength
  rw [if_neg nonzero]
  exact Nat.succ_pos _

theorem roundQuotient_of_dvd {num den : Nat} (pos : 0 < den) (h : den ∣ num) (tie : Tie) :
    roundQuotient num den tie = num / den := by
  have below : compare (2 * (num % den)) den = .lt := by
    rw [Nat.mod_eq_zero_of_dvd h]
    exact Nat.compare_eq_lt.mpr pos
  unfold roundQuotient
  dsimp only
  rw [below]

theorem roundQuotient_bounds (num den : Nat) (tie : Tie) :
    num / den ≤ roundQuotient num den tie ∧ roundQuotient num den tie ≤ num / den + 1 := by
  unfold roundQuotient
  dsimp only
  split <;> omega

theorem bitLength_eq {n k : Nat} (lower : 2 ^ k ≤ n) (upper : n < 2 ^ (k + 1)) :
    bitLength n = k + 1 := by
  have most : bitLength n ≤ k + 1 := bitLength_le upper
  have least : 2 ^ k < 2 ^ bitLength n := Nat.lt_of_le_of_lt lower (lt_two_pow_bitLength n)
  have exponents : k < bitLength n := (Nat.pow_lt_pow_iff_right (by decide)).mp least
  omega

theorem bitLength_mul_two_pow {n k : Nat} (nonzero : n ≠ 0) :
    bitLength (n * 2 ^ k) = bitLength n + k := by
  obtain ⟨j, length⟩ : ∃ j, bitLength n = j + 1 :=
    ⟨bitLength n - 1, by have := bitLength_pos nonzero; omega⟩
  have lower : 2 ^ j ≤ n := two_pow_le_of_bitLength length
  have upper : n < 2 ^ (j + 1) := length ▸ lt_two_pow_bitLength n
  have shifted : bitLength (n * 2 ^ k) = j + k + 1 := by
    apply bitLength_eq
    · rw [Nat.pow_add]
      exact Nat.mul_le_mul_right _ lower
    · rw [Nat.add_right_comm, Nat.pow_add]
      exact Nat.mul_lt_mul_of_pos_right upper (Nat.two_pow_pos k)
  omega

namespace Format

variable (f : Format)

theorem decode_fields (negative : Bool) {e m : Nat} (low : 0 < e) (high : e < f.topExponent)
    (small : m < 2 ^ f.fraction) :
    f.decode (f.signBits negative + (e * 2 ^ f.fraction + m)) =
      .finite negative (2 ^ f.fraction + m) (f.leastUnit + e - 1) := by
  let t := if negative then 1 else 0
  have inside : e < 2 ^ f.exponent := by
    unfold topExponent at high
    omega
  have bits : f.signBits negative + (e * 2 ^ f.fraction + m) =
      (t * 2 ^ f.exponent + e) * 2 ^ f.fraction + m := by
    have sign : f.signBits negative = t * (2 ^ f.exponent * 2 ^ f.fraction) := by
      rw [signBits, signWeight, Nat.pow_add]
      cases negative <;> simp [t]
    rw [sign, Nat.add_mul, Nat.mul_assoc, Nat.add_assoc]
  have fraction : ((t * 2 ^ f.exponent + e) * 2 ^ f.fraction + m) % 2 ^ f.fraction = m := by
    rw [Nat.mul_add_mod', Nat.mod_eq_of_lt small]
  have quotient : ((t * 2 ^ f.exponent + e) * 2 ^ f.fraction + m) / 2 ^ f.fraction =
      t * 2 ^ f.exponent + e := by
    rw [Nat.mul_comm, Nat.mul_add_div (Nat.two_pow_pos _), Nat.div_eq_of_lt small, Nat.add_zero]
  have exponent : (t * 2 ^ f.exponent + e) % 2 ^ f.exponent = e := by
    rw [Nat.mul_add_mod', Nat.mod_eq_of_lt inside]
  have sign : ((t * 2 ^ f.exponent + e) * 2 ^ f.fraction + m) / f.signWeight = t := by
    rw [signWeight, Nat.pow_add, Nat.mul_comm (2 ^ f.exponent), ← Nat.div_div_eq_div_mul, quotient,
      Nat.mul_comm, Nat.mul_add_div (Nat.two_pow_pos _), Nat.div_eq_of_lt inside, Nat.add_zero]
  unfold decode
  dsimp only
  rw [bits, fraction, quotient, exponent, sign, if_neg (Nat.ne_of_lt high),
    if_neg (Nat.ne_of_gt low)]
  cases negative <;> rfl

section

variable {f} {m s a b : Nat} {u : Int} (lower : 2 ^ f.fraction ≤ s)
  (upper : s < 2 ^ (f.fraction + 1)) (value : m * 2 ^ b = s * 2 ^ a) (least : f.leastUnit ≤ u)
  (finite : u - f.leastUnit + 1 < f.topExponent)

include lower upper value least finite

/-- A number with a significand of the format, given as any multiple of a power of two, is not
changed by rounding. -/
theorem round_exact (negative : Bool) : f.round negative m (u + b - a) = f.signBits negative +
    ((u - f.leastUnit + 1).toNat * 2 ^ f.fraction + (s - 2 ^ f.fraction)) := by
  have positive : 0 < s := Nat.lt_of_lt_of_le (Nat.two_pow_pos _) lower
  have nonzero : m ≠ 0 := by
    rintro rfl
    have product : 0 < s * 2 ^ a := Nat.mul_pos positive (Nat.two_pow_pos a)
    omega
  have length : bitLength m + b = f.fraction + 1 + a := by
    rw [← bitLength_mul_two_pow nonzero, value, bitLength_mul_two_pow (Nat.ne_of_gt positive),
      bitLength_eq lower upper]
  have unit : max (u + b - a + bitLength m - (f.fraction + 1)) f.leastUnit = u := by omega
  have significand : (if u ≤ u + b - a then m * 2 ^ (u + b - a - u).toNat
      else roundQuotient m (2 ^ (u - (u + b - a)).toNat) .toEven) = s := by
    split
    next up =>
      have le : a ≤ b := by omega
      have shift : (u + b - a - u).toNat = b - a := by omega
      rw [shift]
      apply Nat.eq_of_mul_eq_mul_right (Nat.two_pow_pos a)
      rw [Nat.mul_assoc, ← Nat.pow_add, Nat.sub_add_cancel le, value]
    next down =>
      have le : b ≤ a := by omega
      have shift : (u - (u + b - a)).toNat = a - b := by omega
      have whole : m = s * 2 ^ (a - b) := by
        apply Nat.eq_of_mul_eq_mul_right (Nat.two_pow_pos b)
        rw [Nat.mul_assoc, ← Nat.pow_add, Nat.sub_add_cancel le, value]
      rw [shift, whole, roundQuotient_of_dvd (Nat.two_pow_pos _) (Nat.dvd_mul_left _ _),
        Nat.mul_div_cancel _ (Nat.two_pow_pos _)]
  have field : (u - f.leastUnit + 1).toNat = (u - f.leastUnit).toNat + 1 := by omega
  have fits : (u - f.leastUnit).toNat * 2 ^ f.fraction + s ≤ f.infinity := by
    have below : (u - f.leastUnit).toNat + 2 ≤ f.topExponent := by omega
    have product := Nat.mul_le_mul_right (2 ^ f.fraction) below
    rw [Nat.pow_succ] at upper
    unfold infinity
    rw [Nat.add_mul] at product
    omega
  unfold round
  dsimp only
  rw [unit, significand, if_neg nonzero, Nat.min_eq_left fits, field, Nat.add_mul, Nat.one_mul]
  omega

theorem decode_round_exact (negative : Bool) :
    f.decode (f.round negative m (u + b - a)) = .finite negative s u := by
  have small : s - 2 ^ f.fraction < 2 ^ f.fraction := by
    rw [Nat.pow_succ] at upper
    omega
  rw [round_exact lower upper value least finite, decode_fields f negative (by omega) (by omega) small]
  have unit : f.leastUnit + (u - f.leastUnit + 1).toNat - 1 = u := by omega
  rw [Nat.add_sub_cancel' lower, unit]

end

end Format

/-- A multiple of a power of two that is a whole number `v`. -/
theorem Double.truncate_eq {m v a b : Nat} (value : m * 2 ^ a = v * 2 ^ b) :
    truncate m (a - b) = v ∧
      (decide (0 ≤ (a - b : Int)) || m % 2 ^ (-(a - b : Int)).toNat == 0) = true := by
  unfold truncate
  by_cases up : b ≤ a
  · have shift : (a - b : Int).toNat = a - b := by omega
    have same : m * 2 ^ (a - b) = v := by
      apply Nat.eq_of_mul_eq_mul_right (Nat.two_pow_pos b)
      rw [Nat.mul_assoc, ← Nat.pow_add, Nat.sub_add_cancel up, value]
    have sign : (0 : Int) ≤ a - b := by omega
    rw [if_pos sign, shift]
    exact ⟨same, by rw [decide_eq_true sign, Bool.true_or]⟩
  · have shift : (-(a - b : Int)).toNat = b - a := by omega
    have same : m = v * 2 ^ (b - a) := by
      apply Nat.eq_of_mul_eq_mul_right (Nat.two_pow_pos a)
      rw [Nat.mul_assoc, ← Nat.pow_add, Nat.sub_add_cancel (by omega), value]
    have sign : ¬ (0 : Int) ≤ a - b := by omega
    rw [if_neg sign, shift, same, Nat.mul_div_cancel _ (Nat.two_pow_pos _), Nat.mul_mod_left]
    exact ⟨rfl, by simp⟩

end SlotVM
