import SlotVM.Arithmetic

namespace SlotVM

/-- Quotient and remainder of a division that is cut towards zero, the quotient wrapped around. -/
structure Divides (x y q r : Int64) : Prop where
  quotient : q.toInt = (x.toInt.tdiv y.toInt).bmod (2 ^ 64)
  whole : x.toInt = (q.toInt * y.toInt + r.toInt).bmod (2 ^ 64)
  smaller : r.toInt.natAbs < y.toInt.natAbs
  sign : r = 0 ∨ r.toInt.sign = x.toInt.sign

theorem divides_div_mod {x y : Int64} (nonzero : y ≠ 0) : Divides x y (x / y) (x % y) := by
  have divisor : y.toInt ≠ 0 := fun zero => nonzero (Int64.toInt_inj.mp zero)
  have quotient : (x / y).toInt = (x.toInt.tdiv y.toInt).bmod (2 ^ 64) := Int64.toInt_div x y
  have remainder : (x % y).toInt = x.toInt.tmod y.toInt := Int64.toInt_mod x y
  refine ⟨quotient, ?_, ?_, ?_⟩
  · -- The least integer by minus one has a quotient that only wrapping brings back into range.
    have exact := Int.mul_tdiv_add_tmod x.toInt y.toInt
    rw [quotient, remainder, ← Int.bmod_add_bmod, Int.bmod_mul_bmod, Int.bmod_add_bmod,
      Int.mul_comm, exact]
    exact (Int64.toInt_bmod x).symm
  · rw [remainder, Int.natAbs_tmod]
    exact Nat.mod_lt _ (by omega)
  · have sign := Int.sign_tmod x.toInt y.toInt
    rw [← remainder] at sign
    split at sign
    next => exact .inl (Int64.toInt_inj.mp (Int.sign_eq_zero_iff_zero.mp sign))
    next => exact .inr sign

/-- The number of places that a count shifts by: its 32 lowest bits, of which the six lowest
remain. -/
def shiftPlaces (y : Int64) : Nat := (y.toUInt64.toUInt32 &&& 63).toNat

theorem shiftPlaces_eq (y : Int64) : shiftPlaces y = (y.toInt % 64).toNat := by
  have bits : y.toInt = (y.toUInt64.toNat : Int).bmod (2 ^ 64) := BitVec.toInt_eq_toNat_bmod _
  have masked : shiftPlaces y = y.toUInt64.toNat % 2 ^ 32 % 2 ^ 6 := by
    unfold shiftPlaces
    rw [UInt32.toNat_and, UInt64.toNat_toUInt32]
    exact Nat.and_two_pow_sub_one_eq_mod _ 6
  have residue : y.toInt % 64 = (y.toUInt64.toNat : Int) % 64 := by
    rw [bits, Int.bmod_eq_emod]
    split <;> omega
  omega

theorem toNat_smod (y : Int64) : (y.toBitVec.smod 64).toNat = shiftPlaces y := by
  have residue : (y.toBitVec.smod 64).toInt = y.toInt % 64 := by
    rw [BitVec.toInt_smod]
    exact Int.fmod_eq_emod_of_nonneg _ (by decide)
  have low : 0 ≤ y.toInt % 64 := Int.emod_nonneg _ (by decide)
  have cond := BitVec.toInt_eq_toNat_cond (y.toBitVec.smod 64)
  have bound := (y.toBitVec.smod 64).isLt
  rw [shiftPlaces_eq, ← residue]
  rw [residue] at cond ⊢
  split at cond <;> omega

theorem toInt_shiftLeft (x y : Int64) :
    (x <<< y).toInt = (x.toInt * 2 ^ shiftPlaces y).bmod (2 ^ 64) := by
  have shifted : (x <<< y).toInt = ((x.toBitVec.toNat <<< shiftPlaces y : Nat) : Int).bmod (2 ^ 64) := by
    rw [← Int64.toInt_toBitVec, Int64.toBitVec_shiftLeft, BitVec.shiftLeft_eq', toNat_smod,
      BitVec.toInt_shiftLeft]
  have bits : x.toInt = (x.toBitVec.toNat : Int).bmod (2 ^ 64) := BitVec.toInt_eq_toNat_bmod _
  rw [shifted, bits, Int.bmod_mul_bmod, Nat.shiftLeft_eq]
  push_cast
  rfl

theorem toInt_shiftRight (x y : Int64) : (x >>> y).toInt = x.toInt / 2 ^ shiftPlaces y := by
  rw [← Int64.toInt_toBitVec, Int64.toBitVec_shiftRight, BitVec.toInt_sshiftRight', toNat_smod,
    Int.shiftRight_eq_div_pow]
  push_cast
  rfl

theorem intArith_eq_divByZero_iff (op : BinaryOp) (x y : Int64) :
    intArith op x y = .divByZero ↔ (op = .div ∨ op = .mod) ∧ y = 0 := by
  cases op <;> simp [intArith]

theorem intArith_divByZero_or_int (op : BinaryOp) (x y : Int64) :
    intArith op x y = .divByZero ∨ ∃ r, intArith op x y = .int r := by
  cases op with
  | div | mod =>
    by_cases zero : y = 0
    · exact .inl (if_pos zero)
    · exact .inr ⟨_, if_neg zero⟩
  | _ => exact .inr ⟨_, rfl⟩

/-- Every operator on integers gives the exact result wrapped around, but for a division by zero. -/
theorem intArith_exact (x y : Int64) :
    (∃ r, intArith .add x y = .int r ∧ r.toInt = (x.toInt + y.toInt).bmod (2 ^ 64)) ∧
    (∃ r, intArith .sub x y = .int r ∧ r.toInt = (x.toInt - y.toInt).bmod (2 ^ 64)) ∧
    (∃ r, intArith .mul x y = .int r ∧ r.toInt = (x.toInt * y.toInt).bmod (2 ^ 64)) ∧
    (∀ op, intArith op x y = .divByZero ↔ (op = .div ∨ op = .mod) ∧ y = 0) ∧
    (∀ op, intArith op x y ≠ .divByZero → ∃ r, intArith op x y = .int r) ∧
    (y ≠ 0 → ∃ q r, intArith .div x y = .int q ∧ intArith .mod x y = .int r ∧ Divides x y q r) ∧
    shiftPlaces y = (y.toInt % 64).toNat ∧
    (∃ r, intArith .shiftL x y = .int r ∧
      r.toInt = (x.toInt * 2 ^ (y.toInt % 64).toNat).bmod (2 ^ 64)) ∧
    ∃ r, intArith .shiftR x y = .int r ∧ r.toInt = x.toInt / 2 ^ (y.toInt % 64).toNat := by
  refine ⟨⟨_, rfl, Int64.toInt_add x y⟩, ⟨_, rfl, Int64.toInt_sub x y⟩,
    ⟨_, rfl, Int64.toInt_mul x y⟩, fun op => intArith_eq_divByZero_iff op x y,
    fun op => (intArith_divByZero_or_int op x y).resolve_left, ?_, shiftPlaces_eq y,
    ⟨_, rfl, ?_⟩, ⟨_, rfl, ?_⟩⟩
  · intro nonzero
    exact ⟨x / y, x % y, if_neg nonzero, if_neg nonzero, divides_div_mod nonzero⟩
  · rw [toInt_shiftLeft, shiftPlaces_eq]
  · rw [toInt_shiftRight, shiftPlaces_eq]

/-- The least integer divided by minus one. -/
theorem intArith_exact_least :
    (-1 : Int64) ≠ 0 ∧ ∃ q r, intArith .div Int64.minValue (-1) = .int q ∧
      intArith .mod Int64.minValue (-1) = .int r ∧ Divides Int64.minValue (-1) q r := by
  obtain ⟨-, -, -, -, -, division, -⟩ := intArith_exact Int64.minValue (-1)
  exact ⟨by decide, division (by decide)⟩

example : Int64.minValue / -1 = Int64.minValue ∧ Int64.minValue % -1 = 0 := by decide

end SlotVM
