import SlotVM.Double.Basic

namespace SlotVM

/-- The decimal digits of a number, at least `width` of them. -/
def paddedDigits (width n : Nat) : String :=
  let digits := toString n
  String.ofList (List.replicate (width - digits.length) '0') ++ digits

/-- The decimal `digits * 10 ^ exponent`. -/
structure Decimal where
  digits : Nat
  exponent : Int
deriving DecidableEq

namespace Decimal

/-- The text without an exponent, and without a point where the number is whole. -/
def plain (d : Decimal) : String :=
  if 0 ≤ d.exponent then toString (d.digits * 10 ^ d.exponent.toNat)
  else
    let places := (-d.exponent).toNat
    toString (d.digits / 10 ^ places) ++ "." ++ paddedDigits places (d.digits % 10 ^ places)

/-- The text with one digit before the point and an exponent. -/
def scientific (d : Decimal) : String :=
  let text := (toString d.digits).toList
  let exponent := d.exponent + (text.length - 1 : Nat)
  match text with
  | [] => ""
  | [c] => String.singleton c ++ "e" ++ toString exponent
  | c :: rest => String.singleton c ++ "." ++ String.ofList rest ++ "e" ++ toString exponent

/-- The same value without trailing zeros in the digits, at most `fuel` of them removed. -/
def trim : Nat → Decimal → Decimal
  | 0, d => d
  | fuel + 1, d =>
    if d.digits ≠ 0 ∧ d.digits % 10 = 0 then trim fuel ⟨d.digits / 10, d.exponent + 1⟩ else d

def compareScaled (a : Nat) (i : Int) (n : Nat) (j : Int) : Ordering :=
  compare (a * 10 ^ i.toNat * 2 ^ (-j).toNat) (n * 2 ^ j.toNat * 10 ^ (-i).toNat)

end Decimal

/-- A finite number that is not negative, with what its neighbours are: below a power of two the
gap is half as wide as above it. -/
structure Binary where
  m : Nat
  q : Int
  narrowBelow : Bool

namespace Binary

/-- The decimal lies among the reals that are nearer to this number than to its neighbours; the
halfway points belong to it when `m` is even. -/
def readsBack (x : Binary) (d : Decimal) : Bool :=
  let low := if x.narrowBelow then 4 * x.m - 1 else 4 * x.m - 2
  let high := 4 * x.m + 2
  let closed := x.m % 2 == 0
  let atLow := Decimal.compareScaled d.digits d.exponent low (x.q - 2)
  let atHigh := Decimal.compareScaled d.digits d.exponent high (x.q - 2)
  (atLow == .gt || (closed && atLow == .eq)) && (atHigh == .lt || (closed && atHigh == .eq))

/-- The number cut to a multiple of `10 ^ k`, as that multiple. -/
def gridFloor (x : Binary) (k : Int) : Nat :=
  (x.m * 2 ^ x.q.toNat * 10 ^ (-k).toNat) / (2 ^ (-x.q).toNat * 10 ^ k.toNat)

/-- The multiple of `10 ^ k` that reads back: of two, the nearer, and the upper one on a tie. -/
def onGrid? (x : Binary) (k : Int) : Option Decimal :=
  let below : Decimal := ⟨x.gridFloor k, k⟩
  let above : Decimal := ⟨x.gridFloor k + 1, k⟩
  match x.readsBack below, x.readsBack above with
  | true, true =>
    -- the value against the middle of the two, both doubled
    match Decimal.compareScaled (2 * below.digits + 1) k x.m (x.q + 1) with
    | .gt => some below
    | _ => some above
  | true, false => some below
  | false, true => some above
  | false, false => none

/-- The least `k` from `k` on, within `fuel` steps, with the number below `10 ^ k`. -/
def scaleFrom (x : Binary) : Nat → Int → Int
  | 0, k => k
  | fuel + 1, k =>
    if Decimal.compareScaled 1 k x.m x.q == .gt then k else scaleFrom x fuel (k + 1)

/-- The position of the leading decimal digit: the least `k` with the number below `10 ^ k`. The
binary logarithm gives a start that is at most a few steps too low. -/
def scale (x : Binary) : Int :=
  scaleFrom x 8 (((x.q + bitLength x.m - 1) * 30103).fdiv 100000)

def exact (x : Binary) : Decimal :=
  if 0 ≤ x.q then ⟨x.m * 2 ^ x.q.toNat, 0⟩ else ⟨x.m * 5 ^ (-x.q).toNat, x.q⟩

/-- The decimal of the fewest digits that reads back. -/
def shortest (x : Binary) : Decimal :=
  if x.m = 0 then ⟨0, 0⟩
  else
    let k := x.scale
    match (List.range 17).findSome? fun n : Nat => x.onGrid? (k - 1 - n) with
    | some d => d.trim 20
    | none => x.exact

end Binary

namespace Format

/-- The magnitude of a finite number of the format. -/
def binary (f : Format) (bits m : Nat) (q : Int) : Binary :=
  let e := bits / 2 ^ f.fraction % 2 ^ f.exponent
  ⟨m, q, bits % 2 ^ f.fraction == 0 && decide (1 < e)⟩

/-- The text of a number of the format, given how the magnitude of a finite one is written. -/
def text (f : Format) (bits : Nat) (write : Binary → String) : String :=
  let sign (negative : Bool) := if negative then "-" else ""
  match f.decode bits with
  | .nan => "NaN"
  | .infinite negative => sign negative ++ "inf"
  | .finite negative m q => sign negative ++ write (f.binary bits m q)

end Format

/-- Whole digits, a point and `places` decimals, nearest to the exact value, the even neighbour on
a tie. -/
def Binary.fixed (places : Nat) (x : Binary) : String :=
  let n := roundQuotient (x.m * 10 ^ places * 2 ^ x.q.toNat) (2 ^ (-x.q).toNat) .toEven
  toString (n / 10 ^ places) ++ "." ++ paddedDigits places (n % 10 ^ places)

/-- The fewest digits that read back, positionally from `10 ^ -4` up to `10 ^ 16`, always with a
point or an exponent. -/
def Binary.literal (x : Binary) : String :=
  let d := x.shortest
  let lead := d.exponent + (toString d.digits).length
  if d.digits = 0 ∨ (-4 < lead ∧ lead ≤ 16) then
    if 0 ≤ d.exponent then d.plain ++ ".0" else d.plain
  else d.scientific

/-- The text of a number where it is printed: six decimals. -/
def Double.toFixed (x : Double) : String :=
  Format.binary64.text x.bits.toNat (Binary.fixed 6)

/-- The text of a number as an operand: the fewest digits, never with an exponent. -/
def Double.toShortest (x : Double) : String :=
  Format.binary64.text x.bits.toNat fun b => b.shortest.plain

end SlotVM
