import SlotVM.Error
import SlotVM.Double.Basic
import SlotVM.Native

namespace SlotVM

/-- The number of a class in the order of registration. -/
abbrev ClassId := Nat

namespace ClassId

def object : ClassId := 0
def int : ClassId := 1
def float : ClassId := 2
def text : ClassId := 3
def method : ClassId := 4
def code : ClassId := 5
def exception : ClassId := 6
def indexException : ClassId := 7
def typeException : ClassId := 8
def attrException : ClassId := 9
def nameException : ClassId := 10
def divisionByZeroException : ClassId := 11

end ClassId

mutual

inductive Value where
  | int (n : Int64)
  | float (x : Double)
  | object (o : Object)
  /-- An error record on its way to the caller. -/
  | error (e : Error)
  /-- The operation is not meant for these operands. -/
  | unsupported
  /-- The operation would divide by zero. -/
  | divByZero
  /-- The iterator has no further element. -/
  | iterStop

structure Object where
  /-- The identity. -/
  id : Nat
  cls : ClassId
  data : ObjectData

inductive ObjectData where
  | plain
  | text (s : String)
  /-- The message and the flag are in the heap. -/
  | exception
  /-- A method of an object, bound to it. -/
  | method (receiver : Object) (name : String) (func : Native .method)
  | code (c : CodeObject)
  /-- The fields are in the heap. -/
  | fields

/-- A unit of code with its tables. -/
structure CodeObject where
  name : String
  argcount : Nat
  names : List String
  attrs : List String
  consts : List Value
  bytecode : Array UInt8

end

instance : Inhabited Value := ⟨.unsupported⟩

namespace Value

def ofBool (b : Bool) : Value := .int (if b then 1 else 0)

/-- The class of a value; error records and signals have none. -/
def cls? : Value → Option ClassId
  | int _ => some .int
  | float _ => some .float
  | object o => some o.cls
  | _ => none

def object? : Value → Option Object
  | object o => some o
  | _ => none

def text? : Value → Option String
  | object ⟨_, _, .text s⟩ => some s
  | _ => none

def code? : Value → Option CodeObject
  | object ⟨_, _, .code c⟩ => some c
  | _ => none

/-- Error records and signals. -/
def isSentinel : Value → Bool
  | error _ | unsupported | divByZero | iterStop => true
  | _ => false

def isError : Value → Bool
  | error _ => true
  | _ => false

def isUnsupported : Value → Bool
  | unsupported => true
  | _ => false

def isIterStop : Value → Bool
  | iterStop => true
  | _ => false

def number? : Value → Option Double
  | int n => some (.ofInt n)
  | float x => some x
  | _ => none

/-- Numbers are the same by value, objects by identity. -/
def same : Value → Value → Bool
  | int m, int n => m == n
  | float x, float y => x.equals y
  | int m, float y => (Double.ofInt m).equals y
  | float x, int n => x.equals (.ofInt n)
  | object o, object p => o.id == p.id
  | error e, error f => e == f
  | unsupported, unsupported => true
  | divByZero, divByZero => true
  | iterStop, iterStop => true
  | _, _ => false

end Value

end SlotVM
