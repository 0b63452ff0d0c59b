import SlotVM.Double.Basic

namespace SlotVM.Double

/-- A NaN with its quiet bit set. -/
def quiet (x : Double) : Double := ⟨x.bits ||| 0x0008000000000000⟩

def ofFloat (r : Float) : Double := ⟨r.toBits⟩

def toFloat (x : Double) : Float := Float.ofBits x.bits

/-- A NaN result becomes the first NaN operand, made quiet, or `invalid` where there is none. -/
def settle (x y r : Double) : Double :=
  if r.isNaN then
    if x.isNaN then x.quiet else if y.isNaN then y.quiet else invalid
  else r

def add (x y : Double) : Double := settle x y (ofFloat (x.toFloat + y.toFloat))

def sub (x y : Double) : Double := settle x y (ofFloat (x.toFloat - y.toFloat))

def mul (x y : Double) : Double := settle x y (ofFloat (x.toFloat * y.toFloat))

def div (x y : Double) : Double := settle x y (ofFloat (x.toFloat / y.toFloat))

/-- An odd whole number. -/
def isOdd (x : Double) : Bool :=
  match x.datum with
  | .finite _ m q => x.isWhole && truncate m q % 2 == 1
  | _ => false

/-- A power. An odd power of a NaN has a clear sign bit. -/
def pow (x y : Double) : Double :=
  let r := ofFloat (x.toFloat.pow y.toFloat)
  if r.isNaN && x.isNaN && y.isOdd then x.quiet.abs else settle x y r

/-- The remainder of two magnitudes, as a multiple of the finer of the two units. -/
def remainder (m : Nat) (q : Int) (n : Nat) (r : Int) : Nat × Int :=
  let unit := min q r
  (m * 2 ^ (q - unit).toNat % (n * 2 ^ (r - unit).toNat), unit)

/-- What is left of `x` after the whole multiples of `y`, with the sign of `x`. -/
def rem (x y : Double) : Double :=
  match x.datum, y.datum with
  | .finite negative m q, .finite _ n r =>
    if n = 0 then invalid
    else
      let (left, unit) := remainder m q n r
      ⟨UInt64.ofNat (Format.binary64.round negative left unit)⟩
  | .finite _ _ _, .infinite _ => x
  | _, _ => settle x y invalid

end SlotVM.Double
