import SlotVM.Proofs.ExactRounding

namespace SlotVM

namespace Single

/-- The number of 32 bits nearest to a natural number. -/
def ofNat (n : Nat) : Single := ⟨UInt32.ofNat (Format.binary32.round false n 0)⟩

/-- A NaN with its quiet bit set. -/
def quiet (x : Single) : Single := ⟨x.bits ||| 0x00400000⟩

/-- The NaN that an operation without a meaningful result yields. -/
def invalid : Single := ⟨0xffc00000⟩

def infinite (negative : Bool) : Single :=
  ⟨UInt32.ofNat (Format.binary32.signBits negative + Format.binary32.infinity)⟩

/-- The exact product rounded once; a NaN is passed on, and zero times infinity has no result. -/
def mul (x y : Single) : Single :=
  match x.datum, y.datum with
  | .finite s m q, .finite t n r => ⟨UInt32.ofNat (Format.binary32.round (s != t) (m * n) (q + r))⟩
  | .nan, _ => x.quiet
  | _, .nan => y.quiet
  | .infinite s, .infinite t => infinite (s != t)
  | .infinite s, .finite t n _ | .finite s n _, .infinite t =>
    if n = 0 then invalid else infinite (s != t)

/-- The number cut to a natural number of 64 bits; what lies outside goes to the nearer end, a NaN to
zero. -/
def toWord (x : Single) : Nat :=
  match x.datum with
  | .finite false m q => min (Double.truncate m q) (2 ^ 64 - 1)
  | .infinite false => 2 ^ 64 - 1
  | _ => 0

/-- The number is the natural number `n`, exactly. -/
def IsExactly (x : Single) (n : Nat) : Prop :=
  ∃ m a b : Nat, x.datum = .finite false m (a - b) ∧ m * 2 ^ a = n * 2 ^ b

theorem IsExactly.toWord_eq {x : Single} {n : Nat} (exact : x.IsExactly n) (small : n < 2 ^ 64) :
    x.toWord = n := by
  obtain ⟨m, a, b, datum, value⟩ := exact
  obtain ⟨whole, -⟩ := Double.truncate_eq value
  unfold toWord
  rw [datum]
  dsimp only
  rw [whole]
  omega

/-- A rounded number is read as the significand that it has before. -/
theorem datum_round {m s a b : Nat} {u : Int} (lower : 2 ^ 23 ≤ s) (upper : s < 2 ^ 24)
    (value : m * 2 ^ b = s * 2 ^ a) (least : -149 ≤ u) (finite : u < 105) :
    (⟨UInt32.ofNat (Format.binary32.round false m (u + b - a))⟩ : Single).datum =
      .finite false s u := by
  have unit : Format.binary32.leastUnit = -149 := by decide
  have top : Format.binary32.topExponent = 255 := rfl
  have bits := Format.round_exact (f := Format.binary32) (u := u) lower upper value (by omega)
    (by omega) false
  have small : Format.binary32.round false m (u + b - a) < 2 ^ 32 := by
    have sign : Format.binary32.signBits false = 0 := rfl
    have fraction : Format.binary32.fraction = 23 := rfl
    rw [bits, sign, fraction]
    omega
  unfold datum
  rw [UInt32.toNat_ofNat_of_lt' small]
  exact Format.decode_round_exact lower upper value (by omega) (by omega) false

end Single

end SlotVM
