import SlotVM.Run
import SlotVM.Text.Clamp

namespace SlotVM

/-- The causes of the exceptions that the library throws; classes are given by name. -/
inductive Condition where
  | unsupportedOperand (op cls : String)
  | unsupportedOperands (op left right : String)
  | notIndexable (cls : String)
  | notInstantiable (cls : String)
  | notCallable (cls : String)
  | notIterable (cls : String)
  | notIterator (cls : String)
  | notApplicable (cls : String)
  | noLength (cls : String)
  | argumentCount (function : String) (expected got : Nat)
  | badTextIndex (cls : String)
  | indexOutOfBounds (index : Int64) (length : Nat)
  | attrNotFound (cls attr : String)
  | attrReadOnly (cls attr : String)
  | attrMismatch (cls attr assigned : String)
  | attrUnset (cls attr : String)
  | divisionByZero
  | unboundName (name : String)
  | repeatTooLong (length : Nat) (count : Int64)
  /-- A condition with a text of its own. -/
  | typeError (message : String)

namespace Condition

def cls : Condition → ClassId
  | indexOutOfBounds .. => .indexException
  | attrNotFound .. | attrReadOnly .. | attrMismatch .. | attrUnset .. => .attrException
  | divisionByZero => .divisionByZeroException
  | unboundName _ => .nameException
  | repeatTooLong .. => .exception
  | _ => .typeException

/-- The message of the exception, before it is cut to its limit. -/
def message : Condition → String
  | unsupportedOperand op cls => s!"unsupported operand type for {op}: '{cls}'"
  | unsupportedOperands op left right =>
    s!"unsupported operand types for {op}: '{left}' and '{right}'"
  | notIndexable cls => s!"type '{cls}' does not support indexing"
  | notInstantiable cls => s!"class '{cls}' cannot be instantiated"
  | notCallable cls => s!"object of type '{cls}' is not callable"
  | notIterable cls => s!"object of type '{cls}' is not iterable"
  | notIterator cls => s!"object of type '{cls}' is not an iterator"
  | notApplicable cls => s!"object of type '{cls}' does not support function application"
  | noLength cls => s!"object of type '{cls}' has no len()"
  | argumentCount function expected got =>
    s!"function {function}(): expected {expected} arguments, got {got}"
  | badTextIndex cls => s!"Str indices must be Int, not {cls}"
  | indexOutOfBounds index length =>
    "index " ++ toString index.toInt ++ s!" out of bounds for length {length}"
  | attrNotFound cls attr => s!"object of type '{cls}' has no attribute '{attr}'"
  | attrReadOnly cls attr => s!"attribute '{attr}' of type '{cls}' object is read-only"
  | attrMismatch cls attr assigned =>
    s!"cannot assign '{assigned}' to attribute '{attr}' of '{cls}' object"
  | attrUnset cls attr => s!"attribute '{attr}' of '{cls}' object is unset"
  | divisionByZero => Fault.divisionByZero.message
  | unboundName name => (Fault.unboundName name).message
  | repeatTooLong length count =>
    s!"repeated string is too long ({length} x " ++ toString count.toInt ++ ")"
  | typeError message => message

end Condition

namespace Exception

/-- The greatest number of bytes of a message that the library gives to an exception. -/
def maxMessage : Nat := 199

/-- A new exception, its message cut to the limit. -/
def make (cls : ClassId) (active : Bool) (message : String) : Run Value :=
  Run.newException cls (some (clamp message maxMessage)) active

/-- The exception of a condition, being thrown. -/
def throwing (c : Condition) : Run Value := make c.cls true c.message

def classOf? : ErrorKind → Option ClassId
  | .fatal | .function => none
  | .type => some .typeException
  | .name => some .nameException
  | .attr => some .attrException
  | .index => some .indexException
  | .divByZero => some .divisionByZeroException

/-- The exception that an error record becomes; fatal ones become none. -/
def ofError? (e : Error) : Run (Option Value) :=
  match classOf? e.kind with
  | none => pure none
  | some cls => some <$> make cls true e.message

/-- Sets or clears the flag of an exception; other values stay as they are. -/
def setActive (v : Value) (active : Bool) : Run Unit :=
  match v with
  | .object o => Run.modifyHeap fun h =>
    match h.exception? o with
    | some state => h.setException o { state with active }
    | none => h
  | _ => pure ()

def setMessage (o : Object) (message : Option String) : Run Unit :=
  Run.modifyHeap fun h =>
    match h.exception? o with
    | some state => h.setException o { state with message }
    | none => h

/-- Throws an exception; anything else gives an error record. -/
def raise (v : Value) : Run Value := do
  if ((← Run.heap).exceptionOf? v).isSome && (← Run.isA v .exception) then
    setActive v true
    return v
  else Run.fault (.badThrow (← Run.className v))

/-- Makes a caught exception an ordinary value again. -/
def deactivate (v : Value) : Run Unit := setActive v false

end Exception

end SlotVM
