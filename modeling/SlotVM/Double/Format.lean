import SlotVM.Bytes

namespace SlotVM

/-- Widths of the fields of a binary interchange format. -/
structure Format where
  fraction : Nat
  exponent : Nat

namespace Format

def binary32 : Format := ⟨23, 8⟩

def binary64 : Format := ⟨52, 11⟩

/-- The exponent field of infinities and NaNs. -/
def topExponent (f : Format) : Nat := 2 ^ f.exponent - 1

/-- The exponent of the unit of the smallest numbers: a half-range bias and the fraction width. -/
def leastUnit (f : Format) : Int := 2 - 2 ^ (f.exponent - 1) - f.fraction

/-- The bits of positive infinity. -/
def infinity (f : Format) : Nat := f.topExponent * 2 ^ f.fraction

def signWeight (f : Format) : Nat := 2 ^ (f.exponent + f.fraction)

def signBits (f : Format) (negative : Bool) : Nat := if negative then f.signWeight else 0

end Format

/-- What the bits of a format stand for; `finite` is `m * 2 ^ q` with a sign. -/
inductive Datum where
  | nan
  | infinite (negative : Bool)
  | finite (negative : Bool) (m : Nat) (q : Int)
deriving DecidableEq

/-- The bit length of a number, zero for zero. -/
def bitLength (n : Nat) : Nat := if n = 0 then 0 else n.log2 + 1

/-- How an exact half is rounded to a whole number. -/
inductive Tie where
  | toEven
  | up

def roundQuotient (num den : Nat) (tie : Tie) : Nat :=
  let whole := num / den
  match compare (2 * (num % den)) den, tie with
  | .lt, _ => whole
  | .gt, _ => whole + 1
  | .eq, .up => whole + 1
  | .eq, .toEven => whole + whole % 2

namespace Format

def decode (f : Format) (bits : Nat) : Datum :=
  let negative := bits / f.signWeight % 2 == 1
  let e := bits / 2 ^ f.fraction % 2 ^ f.exponent
  let m := bits % 2 ^ f.fraction
  if e = f.topExponent then
    if m = 0 then .infinite negative else .nan
  else if e = 0 then .finite negative m f.leastUnit
  else .finite negative (2 ^ f.fraction + m) (f.leastUnit + e - 1)

/-- The bits of the number of the format that is nearest to `m * 2 ^ q`, infinity beyond the
largest. A carry out of the fraction moves into the exponent field by plain addition. -/
def round (f : Format) (negative : Bool) (m : Nat) (q : Int) : Nat :=
  let unit := max (q + bitLength m - (f.fraction + 1)) f.leastUnit
  let significand :=
    if unit ≤ q then m * 2 ^ (q - unit).toNat
    else roundQuotient m (2 ^ (unit - q).toNat) .toEven
  let magnitude := (unit - f.leastUnit).toNat * 2 ^ f.fraction + significand
  f.signBits negative + if m = 0 then 0 else min magnitude f.infinity

end Format

end SlotVM
