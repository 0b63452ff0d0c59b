import SlotVM.Resolver

namespace SlotVM

/-- What computations change. -/
structure Store where
  resolver : Resolver
  heap : Heap

namespace Store

def empty : Store := ⟨.empty, .empty⟩

instance : Inhabited Store := ⟨empty⟩

end Store

/-- A computation on values. -/
abbrev Run := ReaderT Hierarchy (StateM Store)

/-- What a native function of a signature is: it takes the receiver first. A printing function gives
the lines that it writes. -/
@[reducible] def Signature.Fn : Signature → Type
  | unary => Value → Run Value
  | binary => Value → Value → Run Value
  | truth => Value → Run Bool
  | eq => Value → Value → Run Bool
  | hash => Value → Run Int64
  | str => Value → Run String
  | call => Value → List Value → Run Value
  | print => Value → Run (List String)
  | len => Value → Run UInt64
  | seqSet => Value → Value → Value → Run Value
  | attrGet => Value → String → Run Value
  | attrSet => Value → String → Value → Run Value
  | init => Value → List Value → Run Value
  | method => Value → List Value → Run Value

/-- The native functions of the embedding program, by their numbers. -/
abbrev Host := (sig : Signature) → Nat → sig.Fn

namespace Run

def heap : Run Heap := return (← get).heap

def modifyHeap (f : Heap → Heap) : Run Unit := modify fun s => { s with heap := f s.heap }

def resolve (cls : ClassId) (slot : Slot) : Run (Option (Native slot.signature)) := fun h s =>
  let (found, resolver) := s.resolver.resolve h cls slot
  (found, { s with resolver })

def newObject (cls : ClassId) (data : ObjectData) (cell : Cell) : Run Object := fun _ s =>
  let (o, heap) := s.heap.alloc cls data cell
  (o, { s with heap })

def newPlain (cls : ClassId) : Run Value := return .object (← newObject cls .plain .fixed)

def newTextOf (cls : ClassId) (s : String) : Run Value :=
  return .object (← newObject cls (.text s) .fixed)

def newText (s : String) : Run Value := newTextOf .text s

def newMethod (receiver : Object) (name : String) (func : Native .method) : Run Value :=
  return .object (← newObject .method (.method receiver name func) .fixed)

def newCode (c : CodeObject) : Run Value := return .object (← newObject .code (.code c) .fixed)

def newFields (cls : ClassId) (fs : Array Field) : Run Value :=
  return .object (← newObject cls .fields (.fields fs))

def newException (cls : ClassId) (message : Option String) (active : Bool) : Run Value :=
  return .object (← newObject cls .exception (.exception message active))

def className (v : Value) : Run String := return (← read).classNameOf v

def isA (v : Value) (target : ClassId) : Run Bool := return (← read).isA v target

def isFailure (v : Value) : Run Bool := return (← heap).isFailure v

def fault (f : Fault) : Run Value := pure (.error f.error)

def internal (what : String) : Run Value := fault (.internal what)

end Run

end SlotVM
