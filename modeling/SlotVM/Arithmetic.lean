import SlotVM.Double.Arithmetic
import SlotVM.Value

namespace SlotVM

/-- A power by repeated squaring, wrapping around. -/
def wrappingPow (x : Int64) (n : Nat) : Int64 :=
  if n = 0 then 1
  else
    let half := wrappingPow (x * x) (n / 2)
    if n % 2 = 1 then x * half else half
termination_by n

/-- The least exponent for which an integer power goes through floating-point numbers. -/
def powLimit : Int64 := 4294967296

/-- An integer power: exact and wrapping for exponents from zero up to the limit, otherwise the
floating-point power cut to an integer. -/
def intPow (x y : Int64) : Int64 :=
  if 0 ≤ y ∧ y < powLimit then wrappingPow x y.toInt.toNat
  else ((Double.ofInt x).pow (Double.ofInt y)).toInt

/-- An operator on two integers; a shift counts modulo 64. -/
def intArith (op : BinaryOp) (x y : Int64) : Value :=
  match op with
  | .add => .int (x + y)
  | .sub => .int (x - y)
  | .mul => .int (x * y)
  | .div => if y = 0 then .divByZero else .int (x / y)
  | .mod => if y = 0 then .divByZero else .int (x % y)
  | .pow => .int (intPow x y)
  | .bitAnd => .int (x &&& y)
  | .bitOr => .int (x ||| y)
  | .xor => .int (x ^^^ y)
  | .shiftL => .int (x <<< y)
  | .shiftR => .int (x >>> y)

/-- An operator on two floating-point numbers; those on bits do not apply. -/
def floatArith (op : BinaryOp) (x y : Double) : Value :=
  match op with
  | .add => .float (x.add y)
  | .sub => .float (x.sub y)
  | .mul => .float (x.mul y)
  | .div => if y.isZero then .divByZero else .float (x.div y)
  | .mod => if y.isZero then .divByZero else .float (x.rem y)
  | .pow => .float (x.pow y)
  | _ => .unsupported

/-- The operators for which an integer is promoted beside a floating-point number. -/
def BinaryOp.promotes : BinaryOp → Bool
  | .add | .sub | .mul | .div | .pow => true
  | _ => false

/-- An operator with an integer on the left. -/
def intArithWith (op : BinaryOp) (x : Int64) : Value → Value
  | .int y => intArith op x y
  | .float y => if op.promotes then floatArith op (.ofInt x) y else .unsupported
  | _ => .unsupported

/-- An operator with a floating-point number on the left. -/
def floatArithWith (op : BinaryOp) (x : Double) (other : Value) : Value :=
  match other.number? with
  | some y => floatArith op x y
  | none => .unsupported

/-- An operator on two numbers of any kinds, the integer promoted where they differ. -/
def numberArith? (op : BinaryOp) : Value → Value → Option Value
  | .int x, .int y => some (intArith op x y)
  | .int x, .float y => some (floatArith op (.ofInt x) y)
  | .float x, .int y => some (floatArith op x (.ofInt y))
  | .float x, .float y => some (floatArith op x y)
  | _, _ => none

/-- A comparison as a negative, zero or positive integer. -/
def orderingValue : Ordering → Value
  | .lt => .int (-1)
  | .eq => .int 0
  | .gt => .int 1

/-- A comparison that may be impossible. -/
def orderingValue? : Option Ordering → Value
  | some o => orderingValue o
  | none => .unsupported

def intSign (op : UnaryOp) (x : Int64) : Value :=
  match op with
  | .plus => .int x
  | .minus => .int (-x)
  | .abs => .int (if x < 0 then -x else x)
  | .bitNot => .int (~~~x)

/-- A sign operator on a floating-point number. -/
def floatSign (op : UnaryOp) (x : Double) : Value :=
  match op with
  | .plus => .float x
  | .minus => .float x.neg
  | .abs => .float x.abs
  | .bitNot => .unsupported

end SlotVM
