import Mathlib.Algebra.Order.Ring.Nat
import Mathlib.Tactic.Ring
import SlotVM.Proofs.ExactRounding

namespace SlotVM

/-- The number of at most 53 significant bits that is nearest to `n`. -/
def nearest (n : Nat) : Nat :=
  roundQuotient n (2 ^ (bitLength n - 53)) .toEven * 2 ^ (bitLength n - 53)

theorem nearest_eq_iff_dvd {n : Nat} : nearest n = n ↔ 2 ^ (bitLength n - 53) ∣ n := by
  constructor
  · intro same
    exact Dvd.intro_left _ same
  · intro divides
    rw [nearest, roundQuotient_of_dvd (Nat.two_pow_pos _) divides, Nat.div_mul_cancel divides]

/-- Rounding keeps just the numbers of at most 53 significant bits. -/
theorem nearest_eq_iff {n : Nat} : nearest n = n ↔ ∃ m k : Nat, n = m * 2 ^ k ∧ m < 2 ^ 53 := by
  rw [nearest_eq_iff_dvd]
  have upper : n < 2 ^ bitLength n := lt_two_pow_bitLength n
  constructor
  · rintro ⟨m, hm⟩
    refine ⟨m, bitLength n - 53, hm.trans (Nat.mul_comm _ _), ?_⟩
    by_contra large
    have factor : 2 ^ 53 ≤ m := Nat.le_of_not_lt large
    have lower : 2 ^ (bitLength n - 53 + 53) ≤ n := by
      rw [Nat.pow_add]
      exact Nat.le_trans (Nat.mul_le_mul_left _ factor) (Nat.le_of_eq hm.symm)
    have longer : 2 ^ bitLength n ≤ 2 ^ (bitLength n - 53 + 53) :=
      Nat.pow_le_pow_right (by decide) (by omega)
    omega
  · rintro ⟨m, k, hm, small⟩
    by_cases short : bitLength n ≤ 53
    · rw [Nat.sub_eq_zero_of_le short]
      exact Nat.one_dvd n
    · obtain ⟨j, hj⟩ : ∃ j, bitLength n = j + 1 := ⟨bitLength n - 1, by omega⟩
      have lower : 2 ^ j ≤ n := two_pow_le_of_bitLength hj
      have below : 2 ^ j < 2 ^ (53 + k) := by
        rw [Nat.pow_add]
        exact Nat.lt_of_le_of_lt (hm ▸ lower) (Nat.mul_lt_mul_of_pos_right small (Nat.two_pow_pos k))
      have exponents : j < 53 + k := (Nat.pow_lt_pow_iff_right (by decide)).mp below
      have divides : 2 ^ (bitLength n - 53) ∣ 2 ^ k := Nat.pow_dvd_pow 2 (by omega)
      exact hm ▸ divides.mul_left m

theorem nearest_le_add {n k : Nat} (length : bitLength n ≤ k + 53) : nearest n ≤ n + 2 ^ k := by
  obtain ⟨-, upper⟩ := roundQuotient_bounds n (2 ^ (bitLength n - 53)) .toEven
  have unit : 2 ^ (bitLength n - 53) ≤ 2 ^ k := Nat.pow_le_pow_right (by decide) (by omega)
  calc nearest n
      ≤ (n / 2 ^ (bitLength n - 53) + 1) * 2 ^ (bitLength n - 53) := Nat.mul_le_mul_right _ upper
    _ = n / 2 ^ (bitLength n - 53) * 2 ^ (bitLength n - 53) + 2 ^ (bitLength n - 53) := by
        rw [Nat.add_mul, Nat.one_mul]
    _ ≤ n + 2 ^ k := Nat.add_le_add (Nat.div_mul_le_self _ _) unit

/-- The leading 53 bits of a number, rounded. -/
def significand (n : Nat) : Nat :=
  if bitLength n ≤ 53 then n * 2 ^ (53 - bitLength n)
  else roundQuotient n (2 ^ (bitLength n - 53)) .toEven

theorem significand_mul (n : Nat) :
    significand n * 2 ^ bitLength n = nearest n * 2 ^ 53 := by
  unfold significand nearest
  split
  next short =>
    have whole : roundQuotient n (2 ^ (bitLength n - 53)) .toEven = n := by
      rw [Nat.sub_eq_zero_of_le short, Nat.pow_zero,
        roundQuotient_of_dvd Nat.one_pos (Nat.one_dvd n), Nat.div_one]
    rw [whole, Nat.sub_eq_zero_of_le short, Nat.pow_zero, Nat.mul_one, Nat.mul_assoc,
      ← Nat.pow_add, Nat.sub_add_cancel short]
  next long =>
    rw [Nat.mul_assoc, ← Nat.pow_add, Nat.sub_add_cancel (Nat.le_of_not_le long)]

theorem significand_bounds {n : Nat} (nonzero : n ≠ 0) :
    2 ^ 52 ≤ significand n ∧ significand n ≤ 2 ^ 53 := by
  obtain ⟨j, hj⟩ : ∃ j, bitLength n = j + 1 := ⟨bitLength n - 1, by have := bitLength_pos nonzero; omega⟩
  have lower : 2 ^ j ≤ n := two_pow_le_of_bitLength hj
  have upper : n < 2 ^ (j + 1) := hj ▸ lt_two_pow_bitLength n
  unfold significand
  rw [hj]
  split
  next short =>
    have shift : 2 ^ j * 2 ^ (53 - (j + 1)) = 2 ^ 52 := by
      rw [← Nat.pow_add]
      congr 1
      omega
    have shift' : 2 ^ (j + 1) * 2 ^ (53 - (j + 1)) = 2 ^ 53 := by
      rw [← Nat.pow_add]
      congr 1
      omega
    exact ⟨shift ▸ Nat.mul_le_mul_right _ lower,
      shift' ▸ Nat.mul_le_mul_right _ (Nat.le_of_lt upper)⟩
  next long =>
    obtain ⟨above, below⟩ := roundQuotient_bounds n (2 ^ (j + 1 - 53)) .toEven
    have shift : 2 ^ j = 2 ^ 52 * 2 ^ (j + 1 - 53) := by
      rw [← Nat.pow_add]
      congr 1
      omega
    have shift' : 2 ^ (j + 1) = 2 ^ 53 * 2 ^ (j + 1 - 53) := by
      rw [← Nat.pow_add]
      congr 1
      omega
    have quotient : 2 ^ 52 ≤ n / 2 ^ (j + 1 - 53) :=
      (Nat.le_div_iff_mul_le (Nat.two_pow_pos _)).mpr (shift ▸ lower)
    have quotient' : n / 2 ^ (j + 1 - 53) < 2 ^ 53 :=
      (Nat.div_lt_iff_lt_mul (Nat.two_pow_pos _)).mpr (shift' ▸ upper)
    omega

theorem round_binary64 (negative : Bool) {n : Nat} (nonzero : n ≠ 0) (small : n ≤ 2 ^ 63) :
    Format.binary64.round negative n 0 =
      Format.binary64.signBits negative + ((bitLength n + 1021) * 2 ^ 52 + significand n) := by
  have length : bitLength n ≤ 64 := bitLength_le (Nat.lt_of_le_of_lt small (by decide))
  have positive : 0 < bitLength n := bitLength_pos nonzero
  obtain ⟨-, upper⟩ := significand_bounds nonzero
  have unit : max ((0 : Int) + bitLength n - (Format.binary64.fraction + 1))
      Format.binary64.leastUnit = bitLength n - 53 := by
    have least : Format.binary64.leastUnit = -1074 := by decide
    have fraction : Format.binary64.fraction = 52 := rfl
    rw [least, fraction]
    omega
  have leading : (if (bitLength n - 53 : Int) ≤ 0 then n * 2 ^ ((0 : Int) - (bitLength n - 53)).toNat
      else roundQuotient n (2 ^ ((bitLength n - 53 : Int) - 0).toNat) .toEven) = significand n := by
    unfold significand
    have down : ((0 : Int) - (bitLength n - 53)).toNat = 53 - bitLength n := by omega
    have up : ((bitLength n - 53 : Int) - 0).toNat = bitLength n - 53 := by omega
    rw [down, up]
    by_cases short : bitLength n ≤ 53
    · rw [if_pos short, if_pos (by omega)]
    · rw [if_neg short, if_neg (by omega)]
  have field : ((bitLength n - 53 : Int) - Format.binary64.leastUnit).toNat = bitLength n + 1021 := by
    have least : Format.binary64.leastUnit = -1074 := by decide
    omega
  have finite : (bitLength n + 1021) * 2 ^ 52 + significand n ≤ Format.binary64.infinity := by
    have infinity : Format.binary64.infinity = 2047 * 2 ^ 52 := by decide
    omega
  unfold Format.round
  dsimp only
  rw [unit, leading, field, if_neg nonzero]
  exact congrArg _ (Nat.min_eq_left finite)

theorem decode_normal (negative : Bool) {e m : Nat} (low : 0 < e) (high : e < 2047)
    (small : m < 2 ^ 52) :
    Format.binary64.decode (Format.binary64.signBits negative + (e * 2 ^ 52 + m)) =
      .finite negative (2 ^ 52 + m) (e - 1075) := by
  have least : Format.binary64.leastUnit = -1074 := by decide
  have unit : Format.binary64.leastUnit + e - 1 = e - 1075 := by omega
  have read := Format.binary64.decode_fields negative low high small
  rw [unit] at read
  exact read

/-- The bits of a rounded integer stand for the integer that it is rounded to, a multiple of
`2 ^ (a - 53)`. -/
theorem decode_round (negative : Bool) {n : Nat} (nonzero : n ≠ 0) (small : n ≤ 2 ^ 63) :
    ∃ m a : Nat, Format.binary64.decode (Format.binary64.round negative n 0) =
      .finite negative m (a - 53) ∧ m * 2 ^ a = nearest n * 2 ^ 53 := by
  have length : bitLength n ≤ 64 := bitLength_le (Nat.lt_of_le_of_lt small (by decide))
  obtain ⟨lower, upper⟩ := significand_bounds nonzero
  have value : significand n * 2 ^ bitLength n = nearest n * 2 ^ 53 := significand_mul n
  rw [round_binary64 negative nonzero small]
  by_cases carry : significand n = 2 ^ 53
  · refine ⟨2 ^ 52, bitLength n + 1, ?_, ?_⟩
    · have bits : (bitLength n + 1021) * 2 ^ 52 + significand n = (bitLength n + 1023) * 2 ^ 52 + 0 := by
        omega
      have unit : ((bitLength n + 1023 : Nat) : Int) - 1075 = ((bitLength n + 1 : Nat) : Int) - 53 := by
        omega
      rw [bits, decode_normal negative (by omega) (by omega) (by decide), Nat.add_zero, unit]
    · rw [← value, carry, Nat.pow_succ _ 52, Nat.pow_succ _ (bitLength n)]
      ring
  · refine ⟨significand n, bitLength n, ?_, value⟩
    have bits : (bitLength n + 1021) * 2 ^ 52 + significand n =
        (bitLength n + 1022) * 2 ^ 52 + (significand n - 2 ^ 52) := by
      omega
    have unit : ((bitLength n + 1022 : Nat) : Int) - 1075 = bitLength n - 53 := by omega
    rw [bits, decode_normal negative (by omega) (by omega) (by omega), Nat.add_sub_cancel' lower,
      unit]

namespace Double

/-- The integer is a number of 64 bits as it stands: it has no more than 53 significant bits. -/
def IsExact (n : Int64) : Prop := ∃ m k : Nat, n.toInt.natAbs = m * 2 ^ k ∧ m < 2 ^ 53

theorem isExact_iff {n : Int64} : IsExact n ↔ nearest n.toInt.natAbs = n.toInt.natAbs :=
  nearest_eq_iff.symm

theorem natAbs_toInt_le (n : Int64) : n.toInt.natAbs ≤ 2 ^ 63 := by
  have lower := n.le_toInt
  have upper := n.toInt_lt
  omega

section ofInt

variable {n : Int64}

theorem natAbs_toInt_ne_zero (nonzero : n ≠ 0) : n.toInt.natAbs ≠ 0 := by
  intro zero
  exact nonzero (Int64.toInt_inj.mp (Int.natAbs_eq_zero.mp zero))

theorem toNat_bits_ofInt (nonzero : n ≠ 0) :
    (ofInt n).bits.toNat = Format.binary64.signBits (decide (n.toInt < 0)) +
      ((bitLength n.toInt.natAbs + 1021) * 2 ^ 52 + significand n.toInt.natAbs) := by
  have nonzero' := natAbs_toInt_ne_zero nonzero
  have small := natAbs_toInt_le n
  have length : bitLength n.toInt.natAbs ≤ 64 :=
    bitLength_le (Nat.lt_of_le_of_lt small (by decide))
  obtain ⟨-, upper⟩ := significand_bounds nonzero'
  have sign : Format.binary64.signBits (decide (n.toInt < 0)) ≤ 2 ^ 63 := by
    cases decide (n.toInt < 0) <;> decide
  have size : UInt64.size = 2 ^ 64 := rfl
  unfold ofInt
  rw [round_binary64 _ nonzero' small]
  exact UInt64.toNat_ofNat_of_lt' (by omega)

theorem magnitude_ofInt (nonzero : n ≠ 0) : (ofInt n).magnitude =
    (bitLength n.toInt.natAbs + 1021) * 2 ^ 52 + significand n.toInt.natAbs := by
  have small := natAbs_toInt_le n
  have length : bitLength n.toInt.natAbs ≤ 64 :=
    bitLength_le (Nat.lt_of_le_of_lt small (by decide))
  obtain ⟨-, upper⟩ := significand_bounds (natAbs_toInt_ne_zero nonzero)
  unfold magnitude
  rw [toNat_bits_ofInt nonzero]
  cases decide (n.toInt < 0) with
  | false =>
    have sign : Format.binary64.signBits false = 0 := rfl
    omega
  | true =>
    have sign : Format.binary64.signBits true = 2 ^ 63 := rfl
    omega

/-- A rounded integer is a whole number. -/
theorem datum_ofInt (nonzero : n ≠ 0) :
    ∃ m q, (ofInt n).datum = .finite (decide (n.toInt < 0)) m q ∧
      truncate m q = nearest n.toInt.natAbs ∧
      (decide (0 ≤ q) || m % 2 ^ (-q).toNat == 0) = true := by
  have nonzero' := natAbs_toInt_ne_zero nonzero
  have small := natAbs_toInt_le n
  obtain ⟨m, a, decoded, value⟩ := decode_round (decide (n.toInt < 0)) nonzero' small
  obtain ⟨whole, fraction⟩ := truncate_eq value
  refine ⟨m, a - 53, ?_, whole, fraction⟩
  unfold datum
  rw [toNat_bits_ofInt nonzero, ← round_binary64 _ nonzero' small]
  exact decoded

theorem isWhole_ofInt (nonzero : n ≠ 0) : (ofInt n).isWhole = true := by
  obtain ⟨m, q, datum, -, fraction⟩ := datum_ofInt nonzero
  unfold isWhole
  rw [datum]
  exact fraction

theorem toInt_ofInt (nonzero : n ≠ 0) : (ofInt n).toInt =
    if n.toInt < 0 then clampInt (-(nearest n.toInt.natAbs : Int))
    else clampInt (nearest n.toInt.natAbs) := by
  obtain ⟨m, q, datum, whole, -⟩ := datum_ofInt nonzero
  unfold toInt
  rw [datum]
  dsimp only
  rw [whole]
  simp only [decide_eq_true_eq]

theorem magnitude_ofInt_lt_iff (nonzero : n ≠ 0) :
    (ofInt n).magnitude < intLimit.magnitude ↔ nearest n.toInt.natAbs < 2 ^ 63 := by
  have length : bitLength n.toInt.natAbs ≤ 64 :=
    bitLength_le (Nat.lt_of_le_of_lt (natAbs_toInt_le n) (by decide))
  obtain ⟨lower, upper⟩ := significand_bounds (natAbs_toInt_ne_zero nonzero)
  have value := significand_mul n.toInt.natAbs
  have limit : intLimit.magnitude = 1086 * 2 ^ 52 := by decide
  rw [magnitude_ofInt nonzero, limit]
  rcases Nat.lt_or_ge (bitLength n.toInt.natAbs) 63 with short | long
  · have bound : significand n.toInt.natAbs * 2 ^ bitLength n.toInt.natAbs ≤ 2 ^ 53 * 2 ^ 62 :=
      Nat.mul_le_mul upper (Nat.pow_le_pow_right (by decide) (Nat.le_of_lt_succ short))
    omega
  · rcases Nat.lt_or_ge (bitLength n.toInt.natAbs) 64 with fits | full
    · have exact : bitLength n.toInt.natAbs = 63 := by omega
      rw [exact] at value ⊢
      omega
    · have exact : bitLength n.toInt.natAbs = 64 := by omega
      rw [exact] at value ⊢
      omega

end ofInt

theorem toInt_clampInt {v : Int} (lower : -2 ^ 63 ≤ v) (upper : v < 2 ^ 63) :
    (clampInt v).toInt = v := by
  have inside : max (-2 ^ 63) (min v (2 ^ 63 - 1)) = v := by omega
  unfold clampInt
  rw [inside]
  exact Int64.toInt_ofInt_of_le lower upper

end Double

end SlotVM
