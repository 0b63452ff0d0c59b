import SlotVM.Double.Format

namespace SlotVM

/-- A 64-bit binary floating-point number. -/
structure Double where
  bits : UInt64
deriving DecidableEq, Inhabited

/-- A 32-bit binary floating-point number. -/
structure Single where
  bits : UInt32
deriving DecidableEq, Inhabited

namespace Double

def datum (x : Double) : Datum := Format.binary64.decode x.bits.toNat

def isNaN (x : Double) : Bool := x.datum == .nan

def isNegative (x : Double) : Bool := 2 ^ 63 ≤ x.bits.toNat

/-- The bits without the sign, which order the magnitudes of all numbers but NaN. -/
def magnitude (x : Double) : Nat := x.bits.toNat % 2 ^ 63

def zero : Double := ⟨0⟩

/-- The NaN that an operation without a meaningful result yields. -/
def invalid : Double := ⟨0xfff8000000000000⟩

def neg (x : Double) : Double := ⟨x.bits ^^^ 0x8000000000000000⟩

def abs (x : Double) : Double := ⟨x.bits &&& 0x7fffffffffffffff⟩

/-- A whole number that grows with the value of `x`; both zeros share zero. -/
def orderKey (x : Double) : Int :=
  if x.isNegative then -(x.magnitude : Int) else x.magnitude

/-- The order of two numbers; a NaN is not comparable. -/
def compare? (x y : Double) : Option Ordering :=
  if x.isNaN || y.isNaN then none else some (compare x.orderKey y.orderKey)

/-- Equality of values: zeros are equal whatever their sign, and a NaN equals nothing. -/
def equals (x y : Double) : Bool := x.compare? y == some .eq

def isZero (x : Double) : Bool := x.magnitude == 0

/-- The number nearest to an integer. -/
def ofInt (n : Int64) : Double :=
  ⟨UInt64.ofNat (Format.binary64.round (n.toInt < 0) n.toInt.natAbs 0)⟩

/-- A magnitude `m * 2 ^ q` cut to a whole number. -/
def truncate (m : Nat) (q : Int) : Nat :=
  if 0 ≤ q then m * 2 ^ q.toNat else m / 2 ^ (-q).toNat

/-- The nearest integer of 64 bits to a whole number. -/
def clampInt (n : Int) : Int64 := Int64.ofInt (max (-2 ^ 63) (min n (2 ^ 63 - 1)))

/-- The number cut to an integer; what lies outside the integers goes to their end, a NaN to zero. -/
def toInt (x : Double) : Int64 :=
  match x.datum with
  | .nan => 0
  | .infinite negative => if negative then clampInt (-2 ^ 63) else clampInt (2 ^ 63)
  | .finite negative m q =>
    if negative then clampInt (-(truncate m q : Int)) else clampInt (truncate m q)

/-- A finite number without a fractional part. -/
def isWhole (x : Double) : Bool :=
  match x.datum with
  | .finite _ m q => decide (0 ≤ q) || m % 2 ^ (-q).toNat == 0
  | _ => false

/-- The bits of `2 ^ 63`, the first whole number above all integers. -/
def intLimit : Double := ⟨0x43e0000000000000⟩

/-- Whole numbers of magnitude below `2 ^ 63` hash to themselves, all others to their bits. -/
def hash (x : Double) : Int64 :=
  if x.isWhole && decide (x.magnitude < intLimit.magnitude) then x.toInt else x.bits.toInt64

end Double

namespace Single

def datum (x : Single) : Datum := Format.binary32.decode x.bits.toNat

end Single

/-- The number of 32 bits nearest to an integer. -/
def Single.ofInt (n : Int64) : Single :=
  ⟨UInt32.ofNat (Format.binary32.round (n.toInt < 0) n.toInt.natAbs 0)⟩

/-- The nearest number of 32 bits; a NaN keeps its sign and the head of its payload. -/
def Double.toSingle (x : Double) : Single :=
  match x.datum with
  | .nan =>
    ⟨UInt32.ofNat (Format.binary32.signBits x.isNegative + 0x7fc00000 +
      x.bits.toNat / 2 ^ 29 % 2 ^ 22)⟩
  | .infinite negative =>
    ⟨UInt32.ofNat (Format.binary32.signBits negative + Format.binary32.infinity)⟩
  | .finite negative m q => ⟨UInt32.ofNat (Format.binary32.round negative m q)⟩

/-- The same number with 64 bits. -/
def Single.toDouble (x : Single) : Double :=
  match x.datum with
  | .nan =>
    ⟨UInt64.ofNat (Format.binary64.signBits (decide (2 ^ 31 ≤ x.bits.toNat)) +
      0x7ff8000000000000 + x.bits.toNat % 2 ^ 22 * 2 ^ 29)⟩
  | .infinite negative =>
    ⟨UInt64.ofNat (Format.binary64.signBits negative + Format.binary64.infinity)⟩
  | .finite negative m q => ⟨UInt64.ofNat (Format.binary64.round negative m q)⟩

end SlotVM
