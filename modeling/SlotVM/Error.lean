import SlotVM.Bytes

namespace SlotVM

inductive ErrorKind where
  | fatal
  | type
  | name
  | attr
  | index
  | divByZero
  | function
deriving DecidableEq, Inhabited

namespace ErrorKind

/-- What stands before the message where an error is shown. -/
def header : ErrorKind → String
  | fatal => "Fatal Error: "
  | type => "Type Error: "
  | name => "Name Error: "
  | attr => "Attribute Error: "
  | index => "Index Error: "
  | divByZero => "Division By Zero Error: "
  | function => "Function Error: "

/-- An error of this kind ends a run at once and never becomes an exception. -/
def isFatal : ErrorKind → Bool
  | fatal | function => true
  | _ => false

def label : ErrorKind → String
  | fatal => "Fatal"
  | type => "Type"
  | name => "Name"
  | attr => "Attribute"
  | index => "Index"
  | divByZero => "DivByZero"
  | function => "Function"

end ErrorKind

/-- An error record. -/
structure Error where
  kind : ErrorKind
  message : String
deriving DecidableEq, Inhabited

namespace Error

/-- The error as it is shown. -/
def display (e : Error) : String := e.kind.header ++ e.message

end Error

/-- The causes of the error records that the library makes. -/
inductive Fault where
  | internal (what : String)
  | unreadable (reason : String)
  -- reading modules and code
  | badSignature (name : String)
  | unexpectedByte (context : String) (byte : UInt8)
  | unexpectedEnd (context : String)
  | verification
  | nestingTooDeep
  | duplicateParameter (function parameter : String)
  -- building code
  | forwardJumpTooFar (position : Nat)
  | backwardJumpTooFar (target : Nat)
  -- running code
  | stackOverflow
  | stackUnderflow
  | callDepthExceeded
  | invalidConstant (index : Nat)
  | invalidLocal (index : Nat)
  | jumpOutOfRange (position : Nat)
  -- registering classes
  | registryFull
  | unregisteredBase (cls : String) (base : Nat)
  | duplicateAttribute (cls attr : String)
  -- operations on values
  | unboundName (name : String)
  | badComparison (cls : String)
  | badCatch (cls : String)
  | badThrow (cls : String)
  | divisionByZero
  | exceptionArity (count : Nat)
  | exceptionArgument (cls : String)

namespace Fault

def kind : Fault → ErrorKind
  | duplicateParameter .. => .function
  | unboundName _ => .name
  | badComparison _ | badCatch _ | badThrow _ | exceptionArity _ | exceptionArgument _ => .type
  | divisionByZero => .divByZero
  | _ => .fatal

def message : Fault → String
  | internal what => s!"internal error: {what}"
  | unreadable reason => s!"failed to read module: {reason}"
  | badSignature name =>
    s!"invalid file signature encountered when loading module '{name}'"
  | unexpectedByte context byte => s!"unexpected byte in {context}: " ++ hexByte byte
  | unexpectedEnd context => s!"unexpected end of bytecode in {context}"
  | verification => "verification error"
  | nestingTooDeep => "code object nesting too deep"
  | duplicateParameter function parameter =>
    s!"function {function} has duplicate parameter name '{parameter}'"
  | forwardJumpTooFar position => s!"jump at {position} out of range"
  | backwardJumpTooFar target => s!"jump to {target} out of range"
  | stackOverflow => "stack overflow"
  | stackUnderflow => "stack underflow"
  | callDepthExceeded => "maximum call depth exceeded"
  | invalidConstant index => s!"invalid constant index {index}"
  | invalidLocal index => s!"invalid local index {index}"
  | jumpOutOfRange position => s!"jump target out of range at {position}"
  | registryFull => "class registry is full"
  | unregisteredBase cls base => s!"class '{cls}' extends unregistered class id {base}"
  | duplicateAttribute cls attr => s!"class '{cls}' defines attribute '{attr}' more than once"
  | unboundName name => s!"cannot reference unbound variable '{name}'"
  | badComparison cls => s!"comparison of type '{cls}' did not return an int"
  | badCatch cls => s!"cannot catch instances of class {cls}"
  | badThrow cls => s!"can only throw instances of a subclass of Exception, not {cls}"
  | divisionByZero => "division or modulo by zero"
  | exceptionArity count => s!"Exception constructor takes at most 1 argument (got {count})"
  | exceptionArgument cls => s!"Exception constructor takes a Str argument, not a {cls}"

/-- The error record of a cause. -/
def error (f : Fault) : Error := ⟨f.kind, f.message⟩

end Fault

end SlotVM
