import SlotVM.Arithmetic
import SlotVM.Double.Decimal
import SlotVM.Exception
import SlotVM.Text.Case
import SlotVM.Text.Search

namespace SlotVM

namespace Value

/-- The integer of a receiver. -/
def intOf : Value → Int64
  | int n => n
  | _ => 0

/-- The number of a receiver. -/
def numberOf (v : Value) : Double := v.number?.getD .zero

/-- The text of a receiver. -/
def textOf (v : Value) : String := v.text?.getD ""

end Value

/-- The greatest number of bytes of a repeated text. -/
def maxRepeat : Nat := 2 ^ 30

namespace Builtin

def isText (v : Value) : Run Bool := Run.isA v .text

/-- Two texts one after the other. -/
def concat (this other : Value) : Run Value := do
  if ← isText other then Run.newText (this.textOf ++ other.textOf) else return .unsupported

/-- Copies of a text; a negative number of copies counts as none. -/
def copies (this other : Value) : Run Value :=
  match other with
  | .int n =>
    let text := this.textOf
    let count := n.toInt.toNat
    if text.utf8ByteSize * count ≤ maxRepeat then Run.newText (repeatText text count)
    else Exception.throwing (.repeatTooLong text.utf8ByteSize n)
  | _ => return .unsupported

def charAt (this index : Value) : Run Value := do
  match index with
  | .int i =>
    let chars := this.textOf.toList
    match (place? i.toInt chars.length).bind (chars[·]?) with
    | some c => Run.newText (String.singleton c)
    | none => Exception.throwing (.indexOutOfBounds i chars.length)
  | _ => Exception.throwing (.badTextIndex (← Run.className index))

/-- Texts in the order of their code points; anything else is not compared. -/
def compareText (this other : Value) : Run Value := do
  if ← isText other then
    return orderingValue (compareOfLessAndEq this.textOf other.textOf)
  else return .unsupported

/-- Takes the message for an exception: at most one argument, a text. -/
def initException (this : Value) (args : List Value) : Run Value := do
  if 1 < args.length then return ← Run.fault (.exceptionArity args.length)
  match this with
  | .object o =>
    if ((← Run.heap).exception? o).isNone then
      return ← Run.internal "exception init on non-exception object"
    match args with
    | [] => Exception.setMessage o none
    | arg :: _ =>
      unless ← isText arg do return ← Run.fault (.exceptionArgument (← Run.className arg))
      Exception.setMessage o arg.text?
    return this
  | _ => Run.internal "exception init on non-exception object"

def unary : Builtin .unary → Value → Run Value
  | intSign op, this => return SlotVM.intSign op this.intOf
  | intToInt, this => return .int this.intOf
  | intToFloat, this => return .float (.ofInt this.intOf)
  | floatSign op, this => return SlotVM.floatSign op this.numberOf
  | floatToInt, this => return .int this.numberOf.toInt
  | floatToFloat, this => return .float this.numberOf

def binary : Builtin .binary → Value → Value → Run Value
  | intArith op, this, other => return intArithWith op this.intOf other
  | intCompare, this, other =>
    match other with
    | .int y => return orderingValue (compare this.intOf y)
    | .float y => return orderingValue? ((Double.ofInt this.intOf).compare? y)
    | _ => return .unsupported
  | floatArith op, this, other => return floatArithWith op this.numberOf other
  | floatReflectedMod, this, other =>
    match other.number? with
    | some x => return SlotVM.floatArith .mod x this.numberOf
    | none => return .unsupported
  | floatCompare, this, other =>
    match other.number? with
    | some y => return orderingValue? (this.numberOf.compare? y)
    | none => return .unsupported
  | textCompare, this, other => compareText this other
  | textConcat, this, other => concat this other
  | textRepeat, this, other => copies this other
  | textGet, this, index => charAt this index

def truth : Builtin .truth → Value → Run Bool
  | objectTruth, _ => return true
  | intTruth, this => return this.intOf != 0
  | floatTruth, this => return !this.numberOf.isZero
  | textTruth, this => return !this.textOf.isEmpty

def eq : Builtin .eq → Value → Value → Run Bool
  | objectEq, this, other =>
    match this, other with
    | .object o, .object p => return o.id == p.id
    | _, _ => return false
  | intEq, this, other =>
    match other with
    | .int y => return this.intOf == y
    | .float y => return (Double.ofInt this.intOf).equals y
    | _ => return false
  | floatEq, this, other => return other.number?.any this.numberOf.equals
  | textEq, this, other => return (← isText other) && this.textOf == other.textOf
  | textContains, this, element =>
    return (← isText element) && occursIn element.textOf.toList this.textOf.toList

def hash : Builtin .hash → Value → Run Int64
  | objectHash, this => return Int64.ofNat this.address
  | intHash, this => return this.intOf
  | floatHash, this => return this.numberOf.hash
  | textHash, this => return (SlotVM.textHash this.textOf).toUInt64.toInt64

def str : Builtin .str → Value → Run String
  | objectStr, this => do
    return "<" ++ (← Run.className this) ++ " at 0x" ++ hexNumber this.address ++ ">"
  | intStr, this => return toString this.intOf.toInt
  | floatStr, this => return this.numberOf.toFixed
  | textStr, this => return this.textOf
  | methodStr, this =>
    match this with
    | .object ⟨_, _, .method receiver name _⟩ => do
      return "<method " ++ name ++ " of " ++ (← read).nameOf receiver.cls ++ " object>"
    | _ => return "<method>"
  | codeStr, this =>
    match this.code? with
    | some c => return "<code " ++ c.name ++ ">"
    | none => return "<code>"
  | exceptionStr, this => do
    match (← Run.heap).messageOf? this with
    | some message => return message
    | none => Run.className this

def len : Builtin .len → Value → Run UInt64
  | textLen, this => return UInt64.ofNat this.textOf.length

def method : Builtin .method → Value → List Value → Run Value
  | textUpper, this, _ => Run.newText (upperCase this.textOf)
  | textLower, this, _ => Run.newText (lowerCase this.textOf)

end Builtin

variable (host : Host)

/-- The text of a value, always there since the root class has one for every value. -/
def toText (v : Value) : Run String := do
  match v.cls? with
  | none => return "<sentinel>"
  | some cls =>
    match ← Run.resolve cls .str with
    | some (.builtin f) => f.str v
    | some (.host i) => host .str i v
    | none => return "<" ++ (← read).nameOf cls ++ ">"

/-- Calls a method function with its receiver. -/
def invokeMethod (f : Native .method) (receiver : Value) (args : List Value) : Run Value :=
  match f with
  | .builtin f => f.method receiver args
  | .host i => host .method i receiver args

namespace Builtin

def init : Builtin .init → Value → List Value → Run Value
  | objectInit, this, _ => return this
  | exceptionInit, this, args => initException this args
  | textInit, this, args => do
    let cls := this.cls?.getD .text
    match args with
    | [] => Run.newTextOf cls ""
    | [arg] => Run.newTextOf cls (← toText host arg)
    | _ => Exception.throwing (.argumentCount "Str" 1 args.length)

def call : Builtin .call → Value → List Value → Run Value
  | methodCall, this, args =>
    match this with
    | .object ⟨_, _, .method receiver _ func⟩ => invokeMethod host func (.object receiver) args
    | _ => Run.internal "method call on non-method object"

/-- The function that a symbol stands for. -/
def fn : {sig : Signature} → Builtin sig → sig.Fn
  | .unary, f => f.unary
  | .binary, f => f.binary
  | .truth, f => f.truth
  | .eq, f => f.eq
  | .hash, f => f.hash
  | .str, f => f.str
  | .call, f => f.call host
  | .len, f => f.len
  | .init, f => f.init host
  | .method, f => f.method

end Builtin

/-- The function that a symbol stands for. -/
def Native.fn : {sig : Signature} → Native sig → sig.Fn
  | _, .builtin f => f.fn host
  | sig, .host i => host sig i

end SlotVM
