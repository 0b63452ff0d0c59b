import SlotVM.Error
import SlotVM.Module.Writer

namespace SlotVM

/-- Takes from the front of the bytes. -/
abbrev Reader := StateT (List UInt8) (Except Fault)

namespace Reader

/-- What bytes are being read for, as errors name it. -/
def context : String := "load_module"

def fail {α : Type} (f : Fault) : Reader α := throw f

/-- So many bytes. -/
def take (n : Nat) : Reader (List UInt8) := fun bytes =>
  let taken := bytes.take n
  if taken.length < n then .error (.unexpectedEnd context) else .ok (taken, bytes.drop n)

def byte : Reader UInt8 := fun bytes =>
  match bytes with
  | b :: rest => .ok (b, rest)
  | [] => .error (.unexpectedEnd context)

/-- A number of so many bytes, the lowest first. -/
def word (width : Nat) : Reader Nat := ofLittleEndian <$> take width

/-- A given byte. -/
def expect (marker : UInt8) : Reader Unit := do
  let b ← byte
  if b ≠ marker then fail (.unexpectedByte context b)

/-- A text after its length in bytes. -/
def text : Reader String := do
  let bytes ← take (← word 2)
  match decodeText bytes with
  | .ok s => return s
  | .error b => fail (.unexpectedByte context b)

/-- So many things, one after the other. -/
def times {α : Type} (reader : Reader α) : Nat → Reader (List α)
  | 0 => return []
  | n + 1 => do return (← reader) :: (← times reader n)

/-- A table of names or attributes. -/
def symbols : Reader (List String) := do
  expect Marker.symbolsBegin
  let table ← times text (← word 2)
  expect Marker.symbolsEnd
  return table

def const (segment : String → Reader Segment) : Reader Const := do
  let marker ← byte
  if marker = Marker.int then return .int (UInt64.ofNat (← word 8)).toInt64
  else if marker = Marker.float then return .float ⟨UInt64.ofNat (← word 8)⟩
  else if marker = Marker.str then return .str (← text)
  else if marker = Marker.code then return .code (← segment (← text))
  else fail (.unexpectedByte context marker)

/-- A table of constants. -/
def consts (segment : String → Reader Segment) : Reader (List Const) := do
  expect Marker.constsBegin
  let table ← times (const segment) (← word 2)
  expect Marker.constsEnd
  return table

/-- The first text that occurs before it in the list as well. -/
def repeated? (before : List String) : List String → Option String
  | [] => none
  | s :: rest => if before.contains s then some s else repeated? (s :: before) rest

/-- The segment has a name for every argument, and no two are the same. -/
def checkArguments (s : Segment) : Except Fault Unit :=
  if s.names.length < s.argcount.toNat then .error .verification
  else
    match repeated? [] (s.names.take s.argcount.toNat) with
    | some parameter => .error (.duplicateParameter s.name parameter)
    | none => .ok ()

/-- A segment with segments within it to one less than the given depth. -/
def segment : Nat → String → Reader Segment
  | 0, _ => fail .nestingTooDeep
  | depth + 1, name => do
    let argcount ← byte
    let names ← symbols
    let attrs ← symbols
    let consts ← consts (segment depth)
    let code ← take (← word 4)
    let s : Segment := ⟨name, argcount, names, attrs, consts, code.toArray⟩
    checkArguments s
    return s

end Reader

/-- The outermost segment of a module file. -/
def Segment.readModule (bytes : List UInt8) : Except Fault Segment :=
  if bytes.take Marker.signature.length ≠ Marker.signature then
    .error (.badSignature Segment.moduleName)
  else
    match Reader.segment (Segment.maxNesting + 1) Segment.moduleName
        (bytes.drop Marker.signature.length) with
    | .error f => .error f
    | .ok (s, []) => .ok s
    | .ok (_, b :: _) => .error (.unexpectedByte Reader.context b)

end SlotVM
