namespace SlotVM

inductive BinaryOp where
  | add
  | sub
  | mul
  | div
  | mod
  | pow
  | bitAnd
  | bitOr
  | xor
  | shiftL
  | shiftR
deriving DecidableEq, Inhabited

namespace BinaryOp

def all : List BinaryOp :=
  [add, sub, mul, div, mod, pow, bitAnd, bitOr, xor, shiftL, shiftR]

def token : BinaryOp → String
  | add => "+"
  | sub => "-"
  | mul => "*"
  | div => "/"
  | mod => "%"
  | pow => "**"
  | bitAnd => "&"
  | bitOr => "|"
  | xor => "^"
  | shiftL => "<<"
  | shiftR => ">>"

/-- The token of the compound assignment. -/
def inplaceToken (op : BinaryOp) : String := op.token ++ "="

end BinaryOp

inductive UnaryOp where
  | plus
  | minus
  | abs
  | bitNot
deriving DecidableEq, Inhabited

namespace UnaryOp

def all : List UnaryOp := [plus, minus, abs, bitNot]

def token : UnaryOp → String
  | plus => "unary +"
  | minus => "unary -"
  | abs => "abs"
  | bitNot => "~"

end UnaryOp

/-- The ordering operators, all decided by one three-way comparison. -/
inductive CompareOp where
  | lt
  | gt
  | le
  | ge
deriving DecidableEq, Inhabited

namespace CompareOp

def token : CompareOp → String
  | lt => "<"
  | gt => ">"
  | le => "<="
  | ge => ">="

/-- Whether the operator holds, given a comparison that is negative, zero or positive. -/
def test (op : CompareOp) (ordering : Int64) : Bool :=
  match op with
  | lt => decide (ordering < 0)
  | gt => decide (0 < ordering)
  | le => decide (ordering ≤ 0)
  | ge => decide (0 ≤ ordering)

end CompareOp

end SlotVM
