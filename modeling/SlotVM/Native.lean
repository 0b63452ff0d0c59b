import SlotVM.Operator

namespace SlotVM

/-- The shapes of native functions. -/
inductive Signature where
  | unary
  | binary
  | truth
  | eq
  | hash
  | str
  | call
  | print
  | len
  | seqSet
  | attrGet
  | attrSet
  | init
  | method
deriving DecidableEq

/-- What a class can define for its instances. -/
inductive Slot where
  | eq
  | hash
  | cmp
  | str
  | call
  | print
  | attrGet
  | attrSet
  | unary (op : UnaryOp)
  | binary (op : BinaryOp)
  | inplace (op : BinaryOp)
  | reflected (op : BinaryOp)
  | nonzero
  | toInt
  | toFloat
  | len
  | get
  | set
  | contains
  | iter
  | iterNext
  | apply
  | iapply
deriving DecidableEq

/-- The shape of the functions that fit a slot. -/
@[reducible] def Slot.signature : Slot → Signature
  | eq | contains => .eq
  | hash => .hash
  | str => .str
  | call => .call
  | print => .print
  | attrGet => .attrGet
  | attrSet => .attrSet
  | unary _ | toInt | toFloat | iter | iterNext => .unary
  | cmp | binary _ | inplace _ | reflected _ | get | apply | iapply => .binary
  | nonzero => .truth
  | len => .len
  | set => .seqSet

/-- The functions of the built-in classes. -/
inductive Builtin : Signature → Type where
  | objectEq : Builtin .eq
  | objectHash : Builtin .hash
  | objectStr : Builtin .str
  | objectTruth : Builtin .truth
  | objectInit : Builtin .init
  | intEq : Builtin .eq
  | intHash : Builtin .hash
  | intCompare : Builtin .binary
  | intStr : Builtin .str
  | intTruth : Builtin .truth
  | intToInt : Builtin .unary
  | intToFloat : Builtin .unary
  | intSign (op : UnaryOp) : Builtin .unary
  | intArith (op : BinaryOp) : Builtin .binary
  | floatEq : Builtin .eq
  | floatHash : Builtin .hash
  | floatCompare : Builtin .binary
  | floatStr : Builtin .str
  | floatTruth : Builtin .truth
  | floatToInt : Builtin .unary
  | floatToFloat : Builtin .unary
  | floatSign (op : UnaryOp) : Builtin .unary
  | floatArith (op : BinaryOp) : Builtin .binary
  | floatReflectedMod : Builtin .binary
  | textInit : Builtin .init
  | textEq : Builtin .eq
  | textHash : Builtin .hash
  | textCompare : Builtin .binary
  | textStr : Builtin .str
  | textTruth : Builtin .truth
  | textConcat : Builtin .binary
  | textRepeat : Builtin .binary
  | textLen : Builtin .len
  | textGet : Builtin .binary
  | textContains : Builtin .eq
  | textUpper : Builtin .method
  | textLower : Builtin .method
  | methodCall : Builtin .call
  | methodStr : Builtin .str
  | codeStr : Builtin .str
  | exceptionInit : Builtin .init
  | exceptionStr : Builtin .str
deriving DecidableEq

/-- The symbol of a native function. -/
inductive Native (sig : Signature) where
  | builtin (f : Builtin sig)
  | host (index : Nat)
deriving DecidableEq

/-- The functions of a class, by slot. -/
abbrev SlotTable := (s : Slot) → Option (Native s.signature)

namespace SlotTable

def empty : SlotTable := fun _ => none

/-- The table with one slot filled anew. -/
def set (t : SlotTable) (slot : Slot) (f : Native slot.signature) : SlotTable := fun s =>
  if h : slot = s then some (h ▸ f) else t s

end SlotTable

end SlotVM
